/-
# What the patterns for values match

The matchers for names and properties are those of patterns. A value with a word boundary behind it
is compiled to a row of states, one for each of its characters; a name asks for another boundary in
front of them, and a property begins with a dot and a loop over the blanks behind it. Run as
automata, they match what the matchers do.

* `Pattern.Means` : what a well-formed pattern matches, whatever room it takes;
* `Pattern.valueStates` : the states for a value;
* `Pattern.means_nameText`, `Pattern.means_propertyText` : the patterns for a value;
* `Pattern.Engine.ReadsPlain` : engines that read plain patterns as they should be read;
* `Matcher.ofValue_name`, `Matcher.ofValue_property` : the matchers that they make for values.
-/
import PolicyLint.Proofs.Pattern.Escape
import PolicyLint.Proofs.Pattern.Run
import PolicyLint.Proofs.Policy.WordMatchers
import PolicyLint.Policy.Rule

namespace PolicyLint

namespace Pattern

/-- Whether a text is a well-formed regular expression with the given matcher. How much room it
takes does not matter. -/
def Means (text : List Char) (m : Matcher) : Prop :=
  ∃ e r fl, parse? (String.ofList text) = some e ∧ e.regular? {} = some (r, fl) ∧
    r.compile.matchAt = m

/-- What a state that takes a character matches depends on the state after it alone. -/
theorem matcher_step_congr {set : CharSet} {m m' : Nat → Matcher} {next next' : Nat}
    (h : m next = m' next') :
    (State.step set next).matcher m = (State.step set next').matcher m' := by
  simp only [State.matcher, h]

/-! ## Values as regular expressions -/

/-- A character that stands for itself. -/
def charPart (c : Char) : Regular := .one [c].contains (Literal.room ⟨c, false⟩)

/-- The characters of a value and a word boundary. -/
def valueParts (value : List Char) : List Regular :=
  value.map charPart ++ [.look (.boundary false)]

/-- The meaning of a value. -/
theorem allRegular?_valueExprs (value : List Char) :
    Expr.allRegular? {} (valueExprs value) = some (valueParts value, {}) := by
  induction value with
  | nil => rfl
  | cons c value ih =>
      show (Expr.allRegular? {} (valueExprs value)).bind _ = _
      rw [ih]
      rfl

/-! ## Values as states -/

/-- The states for a value with a word boundary behind it, from the one that accepts to the one for
the first character. -/
def valueStates : List Char → Array State
  | [] => #[.accept, .look (.boundary false) 0]
  | c :: cs => (valueStates cs).push (.step [c].contains (cs.length + 1))

/-- There is a state for each character, one for the boundary and one that accepts. -/
theorem size_valueStates (value : List Char) : (valueStates value).size = value.length + 2 := by
  induction value with
  | nil => rfl
  | cons c value ih => rw [valueStates, Array.size_push, ih, List.length_cons]

/-- A value is compiled to its states. -/
theorem buildParts_valueParts (value : List Char) :
    Regular.buildParts (valueParts value) 0 #[.accept] = (value.length + 1, valueStates value) := by
  induction value with
  | nil => rfl
  | cons c value ih =>
      show Regular.build (charPart c) (Regular.buildParts (valueParts value) 0 #[.accept]).1
        (Regular.buildParts (valueParts value) 0 #[.accept]).2 = _
      rw [ih]
      show ((valueStates value).size, _) = _
      rw [size_valueStates]
      rfl

/-- The states for a value, one by one. -/
theorem cases_of_getElem?_valueStates {value : List Char} {q : Nat} {st : State}
    (h : (valueStates value)[q]? = some st) :
    q = 0 ∧ st = .accept ∨ q = 1 ∧ st = .look (.boundary false) 0 ∨
      ∃ c cs, c :: cs <:+ value ∧ q = cs.length + 2 ∧ st = .step [c].contains (cs.length + 1) := by
  induction value with
  | nil =>
      match q, h with
      | 0, h => exact .inl ⟨rfl, (Option.some.inj h).symm⟩
      | 1, h => exact .inr (.inl ⟨rfl, (Option.some.inj h).symm⟩)
  | cons c value ih =>
      rw [valueStates, Array.getElem?_push, size_valueStates] at h
      split at h
      · rename_i hq
        exact .inr (.inr ⟨c, value, List.suffix_refl _, hq, (Option.some.inj h).symm⟩)
      · rcases ih h with haccept | hlook | ⟨d, ds, hsuffix, hq, hst⟩
        · exact .inl haccept
        · exact .inr (.inl hlook)
        · exact .inr (.inr ⟨d, ds, hsuffix.trans (List.suffix_cons c value), hq, hst⟩)

/-! ## What the states match -/

/-- A value where it stands, with a word boundary behind it. -/
def valueHere (value : List Char) : Matcher := fun s => Matcher.valueWithin value s 0

/-- What the states for a value match: the rest of the value. -/
def valueMeaning (value : List Char) (q : Nat) : Matcher :=
  if q = 0 then fun _ => some 0 else valueHere (value.drop (value.length + 1 - q))

/-- The state for a part of the value at its end. -/
theorem valueMeaning_of_suffix {value rest : List Char} (h : rest <:+ value) :
    valueMeaning value (rest.length + 1) = valueHere rest := by
  rw [valueMeaning, if_neg (Nat.succ_ne_zero _), Nat.add_sub_add_right,
    ← List.suffix_iff_eq_drop.mp h]

/-- The empty value is a word boundary. -/
theorem valueHere_nil (s : Site) :
    valueHere [] s = if Look.holds (.boundary false) s then some 0 else none := rfl

/-- A value is its first character and then the others. -/
theorem valueHere_cons (m : Nat → Matcher) (next : Nat) {c : Char} {cs : List Char}
    (h : m next = valueHere cs) :
    valueHere (c :: cs) = (State.step [c].contains next).matcher m := by
  funext ⟨p, rest⟩
  cases rest with
  | nil => rfl
  | cons d ds =>
      have hstep : (State.step [c].contains next).matcher m ⟨p, d :: ds⟩ =
          if [c].contains d then (valueHere cs ⟨some d, ds⟩).map (· + 1) else none := by
        rw [← h]
        rfl
      have hhere : valueHere (c :: cs) ⟨p, d :: ds⟩ =
          if (c == d && cs.isPrefixOf ds) && (Site.skip ⟨some d, ds⟩ cs.length).isBoundary then
            some (cs.length + 1) else none := rfl
      have hfirst : [c].contains d = (c == d) := by
        rw [List.contains_cons, List.contains_nil, Bool.or_false, Bool.beq_comm]
      rw [hstep, hhere, hfirst, Bool.and_assoc]
      cases c == d with
      | false => rfl
      | true =>
          show _ = Option.map _ (ite _ _ _)
          rw [apply_ite (Option.map (· + 1))]
          rfl

/-- The states for a value match as told, if the states after them do. -/
theorem valueMeaning_state {value : List Char} (m : Nat → Matcher)
    (hm : ∀ q ≤ value.length + 1, m q = valueMeaning value q) {q : Nat} {st : State}
    (h : (valueStates value)[q]? = some st) :
    valueMeaning value q = st.matcher m ∧ ∀ next ∈ st.instead, next < q := by
  rcases cases_of_getElem?_valueStates h with ⟨rfl, rfl⟩ | ⟨rfl, rfl⟩ | ⟨c, cs, hsuffix, rfl, rfl⟩
  · exact ⟨rfl, List.forall_mem_nil _⟩
  · constructor
    · rw [show valueMeaning value 1 = valueHere [] from
        valueMeaning_of_suffix (List.nil_suffix : [] <:+ value)]
      funext s
      rw [valueHere_nil, State.matcher, hm 0 (Nat.zero_le _)]
      rfl
    · intro next hnext
      rw [List.mem_singleton.mp hnext]
      exact Nat.one_pos
  · have hrest : cs <:+ value := (List.suffix_cons c cs).trans hsuffix
    constructor
    · refine (valueMeaning_of_suffix hsuffix).trans (valueHere_cons m (cs.length + 1) ?_)
      rw [hm _ (Nat.succ_le_succ hrest.length_le), valueMeaning_of_suffix hrest]
    · exact List.forall_mem_nil _

/-! ## Names -/

/-- A name as a regular expression. -/
def nameRegular (value : List Char) : Regular :=
  .sequence (.look (.boundary false) :: valueParts value)

/-- The states for a name: those for the value, and one for the boundary in front of it. -/
theorem states_nameRegular (value : List Char) :
    (nameRegular value).compile.states =
      (valueStates value).push (.look (.boundary false) (value.length + 1)) ∧
    (nameRegular value).compile.start = value.length + 2 := by
  have hbuild : (nameRegular value).build 0 #[.accept] = (value.length + 2,
      (valueStates value).push (.look (.boundary false) (value.length + 1))) := by
    show Regular.build (.look (.boundary false)) (Regular.buildParts (valueParts value) 0 _).1
      (Regular.buildParts (valueParts value) 0 _).2 = _
    rw [buildParts_valueParts, ← size_valueStates]
    rfl
  rw [Regular.compile, hbuild]
  exact ⟨rfl, rfl⟩

/-- What the states for a name match: the first of them the whole word, the others the rest of the
value. -/
def nameMeaning (value : List Char) (q : Nat) : Matcher :=
  if q ≤ value.length + 1 then valueMeaning value q
  else if q = value.length + 2 then Matcher.wholeWord value
  else fun _ => none

/-- The whole word is the value behind a word boundary. -/
theorem wholeWord_eq (value : List Char) :
    Matcher.wholeWord value =
      (State.look (.boundary false) (value.length + 1)).matcher (nameMeaning value) := by
  funext s
  have hvalue : nameMeaning value (value.length + 1) = valueHere value := by
    rw [nameMeaning, if_pos (Nat.le_refl _), valueMeaning_of_suffix (List.suffix_refl value)]
  rw [State.matcher, hvalue]
  show (if s.isBoundary && _ && _ then _ else none) =
    if s.isBoundary then valueHere value s else none
  rw [Bool.and_assoc]
  cases s.isBoundary <;> rfl

/-- The states for a name match as told. -/
theorem means_nameRegular (value : List Char) :
    (nameRegular value).compile.Means (nameMeaning value) id := by
  have hstates : ∀ {q st}, (nameRegular value).compile.states[q]? = some st →
      nameMeaning value q = st.matcher (nameMeaning value) ∧ ∀ next ∈ st.instead, next < q := by
    intro q st h
    rw [(states_nameRegular value).1, Array.getElem?_push, size_valueStates] at h
    split at h
    · rename_i hq
      cases Option.some.inj h
      rw [nameMeaning, if_neg (by omega), if_pos hq]
      refine ⟨wholeWord_eq value, fun next hnext => ?_⟩
      rw [List.mem_singleton.mp hnext, hq]
      exact Nat.lt_succ_self _
    · have hq : q < value.length + 2 := by
        rw [← size_valueStates]
        exact (Array.getElem?_eq_some_iff.mp h).1
      rw [nameMeaning, if_pos (Nat.le_of_lt_succ hq)]
      exact valueMeaning_state _ (fun p hp => if_pos hp) h
  refine ⟨fun h => (hstates h).1, fun {q} h => ?_, fun h => (hstates h).2⟩
  rw [(states_nameRegular value).1, Array.getElem?_eq_none_iff, Array.size_push,
    size_valueStates] at h
  rw [nameMeaning, if_neg (by omega), if_neg (by omega)]

/-- **A value between word boundaries is the matcher for a name.** -/
theorem means_nameText (value : List Char) : Means (nameText value) (Matcher.wholeWord value) := by
  refine ⟨_, nameRegular value, {}, parse?_nameText value, ?_, ?_⟩
  · show (Expr.allRegular? {} (.assertion .wordBoundary :: valueExprs value)).bind _ = _
    rw [show Expr.allRegular? {} (.assertion .wordBoundary :: valueExprs value) =
      (Expr.allRegular? {} (valueExprs value)).bind _ from rfl, allRegular?_valueExprs]
    rfl
  · rw [Automaton.matchAt_eq (means_nameRegular value) (Automaton.ways_compile _),
      (states_nameRegular value).2, nameMeaning, if_neg (by omega), if_pos rfl]

/-! ## Properties -/

/-- A property as a regular expression. -/
def propertyRegular (value : List Char) : Regular :=
  .sequence (charPart '.' :: .repetition (.one Text.isBlank classRoom) 0 none true ::
    valueParts value)

/-- The states for a property: those for the value, a loop over blanks, and one for the dot. -/
def propertyStates (value : List Char) : Array State :=
  (((valueStates value).push (.fork [value.length + 3, value.length + 1])).push
    (.step Text.isBlank (value.length + 2))).push (.step ['.'].contains (value.length + 2))

/-- A property is compiled to its states. -/
theorem states_propertyRegular (value : List Char) :
    (propertyRegular value).compile.states = propertyStates value ∧
    (propertyRegular value).compile.start = value.length + 4 := by
  have hsize := size_valueStates value
  -- the loop is put in its place when the state for a blank is there
  have hloop : (((valueStates value).push (.fork [])).push
      (.step Text.isBlank (value.length + 2))).setIfInBounds (value.length + 2)
        (.fork [value.length + 3, value.length + 1]) =
      ((valueStates value).push (.fork [value.length + 3, value.length + 1])).push
        (.step Text.isBlank (value.length + 2)) := by
    apply Array.ext_getElem?
    intro i
    simp only [Array.getElem?_setIfInBounds, Array.getElem?_push, Array.size_push, hsize]
    grind
  have hblanks : Regular.build (.repetition (.one Text.isBlank classRoom) 0 none true)
      (value.length + 1) (valueStates value) =
        (value.length + 2, ((valueStates value).push (.fork [value.length + 3,
          value.length + 1])).push (.step Text.isBlank (value.length + 2))) := by
    show ((valueStates value).size, Array.setIfInBounds (Array.push _ (.step _ _)) _
      (Regular.fork true (Array.size (Array.push (valueStates value) _)) _)) = _
    rw [Array.size_push, hsize, ← hloop]
    rfl
  have hbuild : (propertyRegular value).build 0 #[.accept] =
      (value.length + 4, propertyStates value) := by
    rw [propertyRegular, Regular.build, Regular.buildParts, Regular.buildParts]
    dsimp only
    rw [buildParts_valueParts]
    dsimp only
    rw [hblanks]
    show (Array.size _, _) = _
    rw [Array.size_push, Array.size_push, hsize]
    rfl
  rw [Regular.compile, hbuild]
  exact ⟨rfl, rfl⟩

/-- A value behind any blanks, as many of them as there are. -/
def blanksThen (value : List Char) : Matcher := fun s =>
  Matcher.valueWithin value s (s.rest.takeWhile Text.isBlank).length

/-- What the states for a property match: the first of them the property, the others what is left of
it. -/
def propertyMeaning (value : List Char) (q : Nat) : Matcher :=
  if q ≤ value.length + 1 then valueMeaning value q
  else if q = value.length + 2 then blanksThen value
  else if q = value.length + 3 then (State.step Text.isBlank 0).matcher fun _ => blanksThen value
  else if q = value.length + 4 then Matcher.property value
  else fun _ => none

/-- A value within one character more stands behind the first one or here. -/
theorem valueWithin_cons (value : List Char) (p : Option Char) (c : Char) (cs : List Char)
    (k : Nat) :
    Matcher.valueWithin value ⟨p, c :: cs⟩ (k + 1) =
      ((Matcher.valueWithin value ⟨some c, cs⟩ k).map (· + 1)).or
        (valueHere value ⟨p, c :: cs⟩) := by
  let ahead (n : Nat) : Bool := value.isPrefixOf (Site.skip ⟨some c, cs⟩ n).rest &&
    ((Site.skip ⟨some c, cs⟩ n).skip value.length).isBoundary
  induction k with
  | zero =>
      show (if ahead 0 then some (0 + 1 + value.length) else valueHere value ⟨p, c :: cs⟩) =
        ((if ahead 0 then some value.length else none).map (· + 1)).or
          (valueHere value ⟨p, c :: cs⟩)
      cases ahead 0 with
      | true => exact congrArg some (Nat.add_right_comm 0 1 _ |>.trans (by rw [Nat.zero_add]))
      | false => rfl
  | succ k ih =>
      show (if ahead (k + 1) then some (k + 1 + 1 + value.length)
          else Matcher.valueWithin value ⟨p, c :: cs⟩ (k + 1)) =
        ((if ahead (k + 1) then some (k + 1 + value.length)
          else Matcher.valueWithin value ⟨some c, cs⟩ k).map (· + 1)).or
            (valueHere value ⟨p, c :: cs⟩)
      cases ahead (k + 1) with
      | true => exact congrArg some (Nat.add_right_comm (k + 1) 1 _)
      | false => exact ih

/-- Blanks are taken as long as there are any. -/
theorem blanksThen_eq (value : List Char) :
    blanksThen value = fun s =>
      ((State.step Text.isBlank 0).matcher (fun _ => blanksThen value) s).or
        (valueHere value s) := by
  funext ⟨p, cs⟩
  cases cs with
  | nil => rfl
  | cons c cs =>
      rw [blanksThen, List.takeWhile_cons]
      cases hc : Text.isBlank c with
      | false => simp [State.matcher, hc, valueHere]
      | true =>
          rw [if_pos rfl, List.length_cons, valueWithin_cons]
          simp [State.matcher, hc, blanksThen]

/-- A property is a dot and then the value behind any blanks. -/
theorem property_eq (value : List Char) :
    Matcher.property value =
      (State.step ['.'].contains 0).matcher fun _ => blanksThen value := by
  funext ⟨p, cs⟩
  cases cs with
  | nil => rfl
  | cons c cs =>
      by_cases hc : c = '.'
      · subst hc
        rfl
      · have hfirst : ['.'].contains c = false := by
          rw [List.contains_cons, List.contains_nil, Bool.or_false]
          exact beq_false_of_ne hc
        simp only [State.matcher, hfirst, Bool.false_eq_true, if_false]
        rw [Matcher.property]
        split
        · rename_i heq
          exact absurd (List.cons.inj heq).1 hc
        · rfl

/-- The rank of a state for a property: the loop stands above the state for a blank. -/
def propertyRank (value : List Char) (q : Nat) : Nat :=
  if q = value.length + 2 then value.length + 4 else q

/-- The loop stands for a blank, which leads back to it, or for the value. -/
theorem propertyMeaning_loop (value : List Char) :
    propertyMeaning value (value.length + 2) =
      (State.fork [value.length + 3, value.length + 1]).matcher (propertyMeaning value) := by
  have hloop : propertyMeaning value (value.length + 2) = blanksThen value := by
    rw [propertyMeaning, if_neg (by omega), if_pos rfl]
  have hblank : propertyMeaning value (value.length + 3) =
      (State.step Text.isBlank 0).matcher fun _ => blanksThen value := by
    rw [propertyMeaning, if_neg (by omega), if_neg (by omega), if_pos rfl]
  have hvalue : propertyMeaning value (value.length + 1) = valueHere value := by
    rw [propertyMeaning, if_pos (Nat.le_refl _), valueMeaning_of_suffix (List.suffix_refl value)]
  rw [hloop, blanksThen_eq, ← hblank, ← hvalue]
  funext s
  show Option.or _ _ = List.findSome? (propertyMeaning value · s) [_, _]
  rw [List.findSome?_cons, List.findSome?_singleton]
  cases propertyMeaning value (value.length + 3) s <;> rfl

/-- The states for a property, one by one. -/
theorem cases_of_getElem?_propertyStates {value : List Char} {q : Nat} {st : State}
    (h : (propertyStates value)[q]? = some st) :
    q = value.length + 4 ∧ st = .step ['.'].contains (value.length + 2) ∨
      q = value.length + 3 ∧ st = .step Text.isBlank (value.length + 2) ∨
      q = value.length + 2 ∧ st = .fork [value.length + 3, value.length + 1] ∨
      q ≤ value.length + 1 ∧ (valueStates value)[q]? = some st := by
  rw [propertyStates, Array.getElem?_push, Array.getElem?_push, Array.getElem?_push,
    Array.size_push, Array.size_push, size_valueStates] at h
  split at h
  · rename_i hq
    exact .inl ⟨hq, (Option.some.inj h).symm⟩
  · split at h
    · rename_i hq
      exact .inr (.inl ⟨hq, (Option.some.inj h).symm⟩)
    · split at h
      · rename_i hq
        exact .inr (.inr (.inl ⟨hq, (Option.some.inj h).symm⟩))
      · have hsize := (Array.getElem?_eq_some_iff.mp h).1
        rw [size_valueStates] at hsize
        exact .inr (.inr (.inr ⟨Nat.le_of_lt_succ hsize, h⟩))

/-- The states for a property match as told. -/
theorem means_propertyRegular (value : List Char) :
    (propertyRegular value).compile.Means (propertyMeaning value) (propertyRank value) := by
  have hrank : ∀ q, q ≠ value.length + 2 → propertyRank value q = q := fun q hq => if_neg hq
  have hloop : propertyMeaning value (value.length + 2) = blanksThen value := by
    rw [propertyMeaning, if_neg (by omega), if_pos rfl]
  have hstates : ∀ {q st}, (propertyRegular value).compile.states[q]? = some st →
      propertyMeaning value q = st.matcher (propertyMeaning value) ∧
        ∀ next ∈ st.instead, propertyRank value next < propertyRank value q := by
    intro q st h
    rw [(states_propertyRegular value).1] at h
    rcases cases_of_getElem?_propertyStates h with
      ⟨rfl, rfl⟩ | ⟨rfl, rfl⟩ | ⟨rfl, rfl⟩ | ⟨hq, hvalue⟩
    · rw [propertyMeaning, if_neg (by omega), if_neg (by omega), if_neg (by omega), if_pos rfl,
        property_eq]
      exact ⟨matcher_step_congr hloop.symm, List.forall_mem_nil _⟩
    · rw [propertyMeaning, if_neg (by omega), if_neg (by omega), if_pos rfl]
      exact ⟨matcher_step_congr hloop.symm, List.forall_mem_nil _⟩
    · have hself : propertyRank value (value.length + 2) = value.length + 4 := if_pos rfl
      refine ⟨propertyMeaning_loop value, ?_⟩
      simp only [State.instead, List.forall_mem_cons, hself, hrank (value.length + 3) (by omega),
        hrank (value.length + 1) (by omega)]
      exact ⟨by omega, by omega, List.forall_mem_nil _⟩
    · obtain ⟨hmeaning, hnext⟩ := valueMeaning_state _ (fun p hp => if_pos hp) hvalue
      rw [propertyMeaning, if_pos hq, hrank q (by omega)]
      refine ⟨hmeaning, fun next hmem => ?_⟩
      have hlt := hnext next hmem
      rw [hrank next (by omega)]
      exact hlt
  refine ⟨fun h => (hstates h).1, fun {q} h => ?_, fun h => (hstates h).2⟩
  rw [(states_propertyRegular value).1, Array.getElem?_eq_none_iff, propertyStates,
    Array.size_push, Array.size_push, Array.size_push, size_valueStates] at h
  rw [propertyMeaning, if_neg (by omega), if_neg (by omega), if_neg (by omega),
    if_neg (by omega)]

/-- **A value behind a dot and any blanks, with a word boundary behind it, is the matcher for a
property.** -/
theorem means_propertyText (value : List Char) :
    Means (propertyText value) (Matcher.property value) := by
  refine ⟨_, propertyRegular value, {}, parse?_propertyText value, ?_, ?_⟩
  · show (Expr.allRegular? {} (.literal ⟨'.', false⟩ ::
      .repetition (.short .space false) 0 none true :: valueExprs value)).bind _ = _
    rw [show Expr.allRegular? {} (.literal ⟨'.', false⟩ ::
      .repetition (.short .space false) 0 none true :: valueExprs value) =
      ((Expr.allRegular? {} (valueExprs value)).bind _).bind _ from rfl, allRegular?_valueExprs]
    rfl
  · rw [Automaton.matchAt_eq (means_propertyRegular value) (Automaton.ways_compile _),
      (states_propertyRegular value).2, propertyMeaning, if_neg (by omega), if_neg (by omega),
      if_neg (by omega), if_pos rfl]

/-! ## Engines -/

/-- The parts of plain patterns: characters that stand for themselves, word boundaries, and any
number of blanks. -/
inductive Expr.IsPlain : Expr → Prop
  | literal (c : Char) : IsPlain (.literal ⟨c, false⟩)
  | boundary : IsPlain (.assertion .wordBoundary)
  | blanks : IsPlain (.repetition (.short .space false) 0 none true)

/-- Whether an engine reads plain patterns: for a sequence of plain parts it has the matcher that
the sequence stands for. -/
def Engine.ReadsPlain (engine : Engine) : Prop :=
  ∀ text es m, parse? (String.ofList text) = some (.sequence es) → (∀ e ∈ es, e.IsPlain) →
    Means text m → engine.read (String.ofList text) = .ok m

/-- The engine here reads whatever is well-formed, and so plain patterns. -/
theorem readsPlain_engine : engine.ReadsPlain := by
  rintro text - m - - ⟨e, r, fl, hparse, hregular, rfl⟩
  have h : regular? (String.ofList text) = some r := by
    rw [regular?, hparse]
    show (e.regular? {}).bind _ = _
    rw [hregular]
    rfl
  dsimp only [engine]
  rw [h]

/-- The characters of a value and a word boundary are plain. -/
theorem isPlain_of_mem_valueExprs {value : List Char} {e : Expr} (h : e ∈ valueExprs value) :
    e.IsPlain := by
  rcases List.mem_append.mp h with h | h
  · obtain ⟨c, -, rfl⟩ := List.mem_map.mp h
    exact .literal c
  · rw [List.mem_singleton.mp h]
    exact .boundary

end Pattern

namespace Matcher

variable {engine : Pattern.Engine}

/-- **The matcher for a name** that an engine makes. -/
theorem ofValue_name (h : engine.ReadsPlain) (value : String) :
    ofValue engine .name value = .ok (wholeWord value.toList) := by
  refine h _ _ _ (Pattern.parse?_nameText _) ?_ (Pattern.means_nameText _)
  exact List.forall_mem_cons.mpr ⟨.boundary, fun _ => Pattern.isPlain_of_mem_valueExprs⟩

/-- **The matcher for a property** that an engine makes. -/
theorem ofValue_property (h : engine.ReadsPlain) (value : String) :
    ofValue engine .property value = .ok (property value.toList) := by
  refine h _ _ _ (Pattern.parse?_propertyText _) ?_ (Pattern.means_propertyText _)
  exact List.forall_mem_cons.mpr ⟨.literal '.', List.forall_mem_cons.mpr ⟨.blanks, fun _ =>
    Pattern.isPlain_of_mem_valueExprs⟩⟩

end Matcher

end PolicyLint
