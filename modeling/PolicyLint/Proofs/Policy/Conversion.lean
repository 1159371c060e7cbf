/-
# Requirements and their faults

A requirement is valid if its type names a kind, it has a value, its level is one, the engine takes
its values if they should be patterns, and its globs are without fault. The engine may be any that
reads what is written for names and properties. A valid requirement becomes a rule that keeps what
the requirement says. Any other has faults of one or more sorts, which come in an order, and it
fails with the fault that comes first.

* `Requirement.IsValid`, `Requirement.Becomes` : valid requirements and their rules;
* `Requirement.HasFault`, `Requirement.IsFirstFault` : the faults of a requirement;
* `Requirement.toRule_eq_ok_iff`, `Requirement.toRule_eq_error_iff` : what a requirement comes to.
-/
import PolicyLint.Proofs.Policy.ValuePatterns
import PolicyLint.Proofs.Traversal

namespace PolicyLint

/-! ## Types and levels -/

/-- The names of the types of a kind. -/
def RuleKind.typeNames : RuleKind → List String
  | .name => ["BANNED_NAME"]
  | .property => ["BANNED_PROPERTY"]
  | .pattern => ["BANNED_PATTERN", "BANNED_CODE_PATTERN"]

/-- A type names a kind, in any case and with blanks around it. -/
theorem RuleKind.ofType?_eq_some_iff {type : String} {kind : RuleKind} :
    ofType? type = some kind ↔ (Text.trim type).toUpper ∈ kind.typeNames := by
  rw [ofType?]
  split
  case h_5 hname hproperty hpattern hcode =>
      constructor
      · intro h
        cases h
      · intro h
        cases kind <;> simp_all [typeNames]
  all_goals
    rename_i heq
    rw [heq]
    cases kind <;> simp [typeNames]

namespace Requirement

/-- Whether the type of a requirement names a kind. -/
def HasKind (r : Requirement) (kind : RuleKind) : Prop :=
  (Text.trim r.kind).toUpper ∈ kind.typeNames

/-- A type names one kind only. -/
theorem HasKind.unique {r : Requirement} {kind other : RuleKind} (h : r.HasKind kind)
    (h' : r.HasKind other) : kind = other :=
  Option.some.inj ((RuleKind.ofType?_eq_some_iff.mpr h).symm.trans
    (RuleKind.ofType?_eq_some_iff.mpr h'))

/-- The levels of hits that are fatal, or of hits that are not; without a level they are. -/
def levels (fatal : Bool) : List (Option String) :=
  if fatal then [none, some "error"] else [some "warning", some "warn"]

/-- A level says whether hits are fatal, with blanks around it or not. -/
theorem isFatal?_eq_some_iff {level : Option String} {fatal : Bool} :
    isFatal? level = some fatal ↔ level.map Text.trim ∈ levels fatal := by
  rw [isFatal?]
  split
  case h_5 herror hwarning hwarn heq =>
      rw [heq]
      cases fatal <;> simp_all [levels]
  all_goals
    rename_i heq
    rw [heq]
    cases fatal <;> simp [levels]

/-! ## Values and globs -/

/-- A value with its matcher, or the value with what is wrong with it. -/
def matcherOf (engine : Pattern.Engine) (kind : RuleKind) (v : String) :
    Except PatternError (String × Matcher) :=
  match Matcher.ofValue engine kind v with
  | .error reason => .error ⟨v, reason⟩
  | .ok m => .ok (v, m)

/-- A glob read, or the glob with its fault. -/
def globOf (g : String) : Except (String × Glob.Error) (List Glob.Token) :=
  (Glob.parse g).mapError (g, ·)

/-- Values are taken one after the other. -/
theorem matchers_eq_mapM (engine : Pattern.Engine) (kind : RuleKind) (vs : List String) :
    matchers engine kind vs = vs.mapM (matcherOf engine kind) := by
  induction vs with
  | nil => rfl
  | cons v vs ih =>
      rw [matchers, List.mapM_cons, ih, matcherOf]
      cases Matcher.ofValue engine kind v with
      | error reason => rfl
      | ok m => rfl

/-- Globs are taken one after the other. -/
theorem globs_eq_mapM (gs : List String) : globs gs = gs.mapM globOf := by
  induction gs with
  | nil => rfl
  | cons g gs ih =>
      rw [globs, List.mapM_cons, ih, globOf]
      cases Glob.parse g with
      | error e => rfl
      | ok ts => rfl

variable {engine : Pattern.Engine} {kind : RuleKind} {v g : String}

theorem matcherOf_eq_ok_iff {m : String × Matcher} :
    matcherOf engine kind v = .ok m ↔ m.1 = v ∧ Matcher.ofValue engine kind v = .ok m.2 := by
  rw [matcherOf]
  obtain ⟨u, m⟩ := m
  cases Matcher.ofValue engine kind v <;> simp [eq_comm]

theorem matcherOf_eq_error_iff {e : PatternError} :
    matcherOf engine kind v = .error e ↔
      e.pattern = v ∧ Matcher.ofValue engine kind v = .error e.reason := by
  rw [matcherOf]
  obtain ⟨u, reason⟩ := e
  cases Matcher.ofValue engine kind v <;> simp [eq_comm]

theorem globOf_eq_ok_iff {ts : List Glob.Token} : globOf g = .ok ts ↔ Glob.parse g = .ok ts := by
  rw [globOf]
  cases Glob.parse g <;> simp [Except.mapError]

theorem globOf_eq_error_iff {h : String} {e : Glob.Error} :
    globOf g = .error (h, e) ↔ h = g ∧ Glob.parse g = .error e := by
  rw [globOf]
  cases Glob.parse g <;> simp [Except.mapError, eq_comm]

/-- **The matchers of values**, in their order. -/
theorem matchers_eq_ok_iff {vs : List String} {ms : List (String × Matcher)} :
    matchers engine kind vs = .ok ms ↔
      List.Forall₂ (fun v m => m.1 = v ∧ Matcher.ofValue engine kind v = .ok m.2) vs ms := by
  simp only [matchers_eq_mapM, List.mapM_eq_ok_iff, matcherOf_eq_ok_iff]

/-- **Values without matchers**: the first of them counts. -/
theorem matchers_eq_error_iff {vs : List String} {reason : String} :
    matchers engine kind vs = .error ⟨v, reason⟩ ↔ ∃ before after, vs = before ++ v :: after ∧
      (∀ u ∈ before, ∃ m, Matcher.ofValue engine kind u = .ok m) ∧
        Matcher.ofValue engine kind v = .error reason := by
  have hok : ∀ u, (∃ m, matcherOf engine kind u = .ok m) ↔
      ∃ m, Matcher.ofValue engine kind u = .ok m := by
    intro u
    rw [matcherOf]
    cases Matcher.ofValue engine kind u <;> simp
  simp only [matchers_eq_mapM, List.mapM_eq_error_iff, hok, matcherOf_eq_error_iff]
  constructor
  · rintro ⟨before, _, after, hvs, hbefore, rfl, hv⟩
    exact ⟨before, after, hvs, hbefore, hv⟩
  · rintro ⟨before, after, hvs, hbefore, hv⟩
    exact ⟨before, v, after, hvs, hbefore, rfl, hv⟩

/-- **The globs that are read**, in their order. -/
theorem globs_eq_ok_iff {gs : List String} {tss : List (List Glob.Token)} :
    globs gs = .ok tss ↔ List.Forall₂ (fun g ts => Glob.parse g = .ok ts) gs tss := by
  simp only [globs_eq_mapM, List.mapM_eq_ok_iff, globOf_eq_ok_iff]

/-- **Globs with faults**: the first of them counts. -/
theorem globs_eq_error_iff {gs : List String} {e : Glob.Error} :
    globs gs = .error (g, e) ↔ ∃ before after, gs = before ++ g :: after ∧
      (∀ h ∈ before, ∃ ts, Glob.parse h = .ok ts) ∧ Glob.parse g = .error e := by
  simp only [globs_eq_mapM, List.mapM_eq_error_iff, globOf_eq_ok_iff, globOf_eq_error_iff]
  constructor
  · rintro ⟨before, _, after, hgs, hbefore, rfl, hg⟩
    exact ⟨before, after, hgs, hbefore, hg⟩
  · rintro ⟨before, after, hgs, hbefore, hg⟩
    exact ⟨before, g, after, hgs, hbefore, rfl, hg⟩

/-- Only values that should be patterns may have no matcher. -/
theorem ofValue_eq_error_iff (hengine : engine.ReadsPlain) {reason : String} :
    Matcher.ofValue engine kind v = .error reason ↔
      kind = .pattern ∧ engine.compile v = .error reason := by
  cases kind with
  | name => simp [Matcher.ofValue_name hengine]
  | property => simp [Matcher.ofValue_property hengine]
  | pattern => simp [Matcher.ofValue]

/-! ## Valid requirements -/

/-- Whether a requirement is valid: its type names a kind, it has a value, its level is one, the
engine takes its values if they should be patterns, and its globs can be read. -/
structure IsValid (engine : Pattern.Engine) (r : Requirement) : Prop where
  type : ∃ kind, r.HasKind kind
  values : r.values ≠ []
  level : ∃ fatal, r.level.map Text.trim ∈ levels fatal
  patterns : r.HasKind .pattern → ∀ v ∈ r.values, ∃ m, engine.compile v = .ok m
  globs : ∀ g ∈ r.whitelist, ∃ ts, Glob.parse g = .ok ts

/-- Whether a rule is what a requirement asks for: the kind that its type names, its level and its
message, a matcher for each of its values and a glob for each that it has, in their order. -/
structure Becomes (engine : Pattern.Engine) (r : Requirement) (rule : Rule) : Prop where
  type : r.HasKind rule.kind
  level : r.level.map Text.trim ∈ levels rule.fatal
  message : rule.message = r.errorMessage
  values : List.Forall₂ (fun v m => m.1 = v ∧ Matcher.ofValue engine rule.kind v = .ok m.2)
    r.values rule.matchers
  globs : List.Forall₂ (fun g ts => Glob.parse g = .ok ts) r.whitelist rule.whitelist

/-! ## Faults -/

end Requirement

/-- The sort of a fault, in the order in which faults count. -/
def RequirementError.rank : RequirementError → Nat
  | .unknownType _ _ => 0
  | .emptyValue _ _ => 1
  | .level _ _ => 2
  | .pattern _ _ => 3
  | .whitelist _ _ _ => 4

namespace Requirement

/-- The faults of a requirement at a place of its document: its type is unknown; it has no value;
its level is none; one of its values is the first that the engine does not take and should be a
pattern; one of its globs is the first that has a fault. -/
inductive HasFault (engine : Pattern.Engine) (index : Nat) (r : Requirement) :
    RequirementError → Prop
  | type (h : ∀ kind, ¬ r.HasKind kind) : HasFault engine index r (.unknownType index r.kind)
  | values (h : r.values = []) : HasFault engine index r (.emptyValue index r.kind)
  | level {text : String} (hlevel : r.level.map Text.trim = some text)
      (h : text ∉ ["error", "warning", "warn"]) : HasFault engine index r (.level index text)
  | pattern {before after : List String} {value reason : String} (hkind : r.HasKind .pattern)
      (hvalues : r.values = before ++ value :: after)
      (hbefore : ∀ v ∈ before, ∃ m, engine.compile v = .ok m)
      (h : engine.compile value = .error reason) :
      HasFault engine index r (.pattern index ⟨value, reason⟩)
  | whitelist {before after : List String} {glob : String} {error : Glob.Error}
      (hglobs : r.whitelist = before ++ glob :: after)
      (hbefore : ∀ g ∈ before, ∃ ts, Glob.parse g = .ok ts) (h : Glob.parse glob = .error error) :
      HasFault engine index r (.whitelist index glob error)

/-- Whether a fault is the first of a requirement. -/
def IsFirstFault (engine : Pattern.Engine) (index : Nat) (r : Requirement)
    (e : RequirementError) : Prop :=
  r.HasFault engine index e ∧ ∀ d, r.HasFault engine index d → e.rank ≤ d.rank

variable {r : Requirement} {index i : Nat} {text : String} {e : RequirementError}

theorem hasFault_type_iff :
    r.HasFault engine index (.unknownType i text) ↔
      i = index ∧ text = r.kind ∧ RuleKind.ofType? r.kind = none := by
  rw [Option.eq_none_iff_forall_ne_some]
  simp only [ne_eq, RuleKind.ofType?_eq_some_iff]
  constructor
  · rintro (h | _)
    exact ⟨rfl, rfl, h⟩
  · rintro ⟨rfl, rfl, h⟩
    exact .type h

theorem hasFault_values_iff :
    r.HasFault engine index (.emptyValue i text) ↔ i = index ∧ text = r.kind ∧ r.values = [] := by
  constructor
  · rintro (_ | h)
    exact ⟨rfl, rfl, h⟩
  · rintro ⟨rfl, rfl, h⟩
    exact .values h

theorem hasFault_level_iff :
    r.HasFault engine index (.level i text) ↔
      i = index ∧ text = Text.trim (r.level.getD "") ∧ isFatal? r.level = none := by
  have hnone : isFatal? r.level = none ↔
      ∃ text, r.level.map Text.trim = some text ∧ text ∉ ["error", "warning", "warn"] := by
    rw [Option.eq_none_iff_forall_ne_some, Bool.forall_bool]
    simp only [ne_eq, isFatal?_eq_some_iff, levels]
    cases r.level.map Text.trim with
    | none => simp
    | some text =>
        simp
        tauto
  constructor
  · intro h
    cases h with
    | level hlevel h =>
        refine ⟨rfl, ?_, hnone.mpr ⟨text, hlevel, h⟩⟩
        obtain ⟨level, hlevel', rfl⟩ := Option.map_eq_some_iff.mp hlevel
        rw [hlevel', Option.getD_some]
  · rintro ⟨rfl, rfl, h⟩
    obtain ⟨text, hlevel, htext⟩ := hnone.mp h
    obtain ⟨level, hlevel', rfl⟩ := Option.map_eq_some_iff.mp hlevel
    rw [hlevel', Option.getD_some]
    exact .level hlevel htext

theorem hasFault_pattern_iff {error : PatternError} :
    r.HasFault engine index (.pattern i error) ↔
      i = index ∧ RuleKind.ofType? r.kind = some .pattern ∧
        matchers engine .pattern r.values = .error error := by
  obtain ⟨value, reason⟩ := error
  rw [RuleKind.ofType?_eq_some_iff, matchers_eq_error_iff]
  constructor
  · rintro (_ | _ | _ | ⟨hkind, hvalues, hbefore, h⟩)
    exact ⟨rfl, hkind, _, _, hvalues, hbefore, h⟩
  · rintro ⟨rfl, hkind, before, after, hvalues, hbefore, h⟩
    exact .pattern hkind hvalues hbefore h

theorem hasFault_whitelist_iff {glob : String} {error : Glob.Error} :
    r.HasFault engine index (.whitelist i glob error) ↔
      i = index ∧ globs r.whitelist = .error (glob, error) := by
  rw [globs_eq_error_iff]
  constructor
  · rintro (_ | _ | _ | _ | ⟨hglobs, hbefore, h⟩)
    exact ⟨rfl, _, _, hglobs, hbefore, h⟩
  · rintro ⟨rfl, before, after, hglobs, hbefore, h⟩
    exact .whitelist hglobs hbefore h

/-- Of each sort a requirement has one fault at most. -/
theorem HasFault.unique {d : RequirementError} (h : r.HasFault engine index e)
    (h' : r.HasFault engine index d) (hrank : e.rank = d.rank) : e = d := by
  cases e <;> cases d <;> first
    | (cases hrank; done)
    | simp_all [hasFault_type_iff, hasFault_values_iff, hasFault_level_iff, hasFault_pattern_iff,
        hasFault_whitelist_iff]

/-! ## What a requirement comes to -/

/-- The steps in which a requirement becomes a rule. -/
theorem toRule_eq (index : Nat) (r : Requirement) (engine : Pattern.Engine) :
    r.toRule index engine =
      match RuleKind.ofType? r.kind with
      | none => .error (.unknownType index r.kind)
      | some kind =>
        if r.values.isEmpty then .error (.emptyValue index r.kind)
        else match isFatal? r.level with
          | none => .error (.level index (Text.trim (r.level.getD "")))
          | some fatal =>
            match matchers engine kind r.values with
            | .error e => .error (.pattern index e)
            | .ok ms =>
              match globs r.whitelist with
              | .error (g, e) => .error (.whitelist index g e)
              | .ok gs => .ok ⟨kind, ms, r.errorMessage, gs, fatal⟩ := by
  rw [toRule]
  cases RuleKind.ofType? r.kind with
  | none => rfl
  | some kind =>
      dsimp only
      cases r.values.isEmpty with
      | true => rfl
      | false =>
          cases isFatal? r.level with
          | none => rfl
          | some fatal =>
              cases matchers engine kind r.values with
              | error v => rfl
              | ok ms => cases globs r.whitelist <;> rfl

/-- **When a requirement becomes a rule**: it has values, and the rule is what it asks for. -/
theorem toRule_eq_ok_iff {rule : Rule} :
    r.toRule index engine = .ok rule ↔ r.values ≠ [] ∧ r.Becomes engine rule := by
  rw [toRule_eq]
  constructor
  · intro h
    cases hkind : RuleKind.ofType? r.kind with
    | none =>
        rw [hkind] at h
        cases h
    | some kind =>
        rw [hkind] at h
        dsimp only at h
        split at h
        · cases h
        · rename_i hvalues
          cases hfatal : isFatal? r.level with
          | none =>
              rw [hfatal] at h
              cases h
          | some fatal =>
              cases hms : matchers engine kind r.values with
              | error v =>
                  rw [hfatal, hms] at h
                  cases h
              | ok ms =>
                  cases hgs : globs r.whitelist with
                  | error e =>
                      rw [hfatal, hms, hgs] at h
                      cases h
                  | ok gs =>
                      rw [hfatal, hms, hgs] at h
                      cases h
                      exact ⟨fun hnil => hvalues (List.isEmpty_iff.mpr hnil),
                        RuleKind.ofType?_eq_some_iff.mp hkind, isFatal?_eq_some_iff.mp hfatal, rfl,
                        matchers_eq_ok_iff.mp hms, globs_eq_ok_iff.mp hgs⟩
  · rintro ⟨hvalues, htype, hlevel, hmessage, hms, hgs⟩
    rw [RuleKind.ofType?_eq_some_iff.mpr htype]
    dsimp only
    rw [if_neg (fun hnil => hvalues (List.isEmpty_iff.mp hnil)), isFatal?_eq_some_iff.mpr hlevel,
      matchers_eq_ok_iff.mpr hms, globs_eq_ok_iff.mpr hgs, ← hmessage]

/-- A requirement that becomes a rule is valid. -/
theorem Becomes.isValid {rule : Rule} (h : r.Becomes engine rule) (hvalues : r.values ≠ []) :
    r.IsValid engine where
  type := ⟨rule.kind, h.type⟩
  values := hvalues
  level := ⟨rule.fatal, h.level⟩
  patterns hpattern v hv := by
    obtain ⟨m, -, -, hm⟩ := h.values.exists_of_mem v hv
    rw [h.type.unique hpattern] at hm
    exact ⟨m.2, hm⟩
  globs g hg := by
    obtain ⟨ts, -, hts⟩ := h.globs.exists_of_mem g hg
    exact ⟨ts, hts⟩

/-- A valid requirement has no fault. -/
theorem IsValid.not_hasFault (h : r.IsValid engine) : ¬ r.HasFault engine index e := by
  intro hfault
  cases hfault with
  | type hnone =>
      obtain ⟨kind, hkind⟩ := h.type
      exact hnone kind hkind
  | values hnil => exact h.values hnil
  | level hlevel htext =>
      obtain ⟨fatal, hfatal⟩ := h.level
      rw [hlevel] at hfatal
      cases fatal <;> simp_all [levels]
  | pattern hkind hvalues hbefore hpattern =>
      obtain ⟨m, hm⟩ := h.patterns hkind _ (hvalues ▸ List.mem_append_right _ List.mem_cons_self)
      rw [hpattern] at hm
      cases hm
  | whitelist hglobs hbefore hparse =>
      obtain ⟨ts, hts⟩ := h.globs _ (hglobs ▸ List.mem_append_right _ List.mem_cons_self)
      rw [hparse] at hts
      cases hts

/-- A type that names a kind is no fault. -/
theorem HasFault.rank_ne_zero {kind : RuleKind} (h : r.HasFault engine index e)
    (hkind : RuleKind.ofType? r.kind = some kind) : e.rank ≠ 0 := by
  cases e with
  | unknownType i text =>
      rw [hasFault_type_iff, hkind] at h
      cases h.2.2
  | _ => exact Nat.succ_ne_zero _

/-- Values are no fault. -/
theorem HasFault.rank_ne_one (h : r.HasFault engine index e) (hvalues : r.values ≠ []) :
    e.rank ≠ 1 := by
  cases e with
  | emptyValue i text => exact absurd (hasFault_values_iff.mp h).2.2 hvalues
  | _ => simp [RequirementError.rank]

/-- A level is no fault. -/
theorem HasFault.rank_ne_two {fatal : Bool} (h : r.HasFault engine index e)
    (hfatal : isFatal? r.level = some fatal) : e.rank ≠ 2 := by
  cases e with
  | level i text =>
      rw [hasFault_level_iff, hfatal] at h
      cases h.2.2
  | _ => simp [RequirementError.rank]

/-- Values with matchers are no fault. -/
theorem HasFault.rank_ne_three {kind : RuleKind} {ms : List (String × Matcher)}
    (h : r.HasFault engine index e) (hkind : RuleKind.ofType? r.kind = some kind)
    (hms : matchers engine kind r.values = .ok ms) : e.rank ≠ 3 := by
  cases e with
  | pattern i text =>
      obtain ⟨-, hpattern, herror⟩ := hasFault_pattern_iff.mp h
      cases Option.some.inj (hkind.symm.trans hpattern)
      cases hms.symm.trans herror
  | _ => simp [RequirementError.rank]

/-- A requirement that fails does so with its first fault. -/
theorem isFirstFault_of_toRule_eq_error (hengine : engine.ReadsPlain)
    (h : r.toRule index engine = .error e) :
    r.IsFirstFault engine index e := by
  rw [toRule_eq] at h
  cases hkind : RuleKind.ofType? r.kind with
  | none =>
      rw [hkind] at h
      cases h
      exact ⟨hasFault_type_iff.mpr ⟨rfl, rfl, hkind⟩, fun d _ => Nat.zero_le _⟩
  | some kind =>
      rw [hkind] at h
      dsimp only at h
      split at h
      · rename_i hnil
        cases h
        exact ⟨.values (List.isEmpty_iff.mp hnil), fun d hd =>
          Nat.pos_of_ne_zero (hd.rank_ne_zero hkind)⟩
      · rename_i hnil
        have hvalues : r.values ≠ [] := fun heq => hnil (List.isEmpty_iff.mpr heq)
        cases hfatal : isFatal? r.level with
        | none =>
            rw [hfatal] at h
            cases h
            refine ⟨hasFault_level_iff.mpr ⟨rfl, rfl, hfatal⟩, fun d hd => ?_⟩
            have hzero := hd.rank_ne_zero hkind
            have hone := hd.rank_ne_one hvalues
            show 2 ≤ d.rank
            omega
        | some fatal =>
            cases hms : matchers engine kind r.values with
            | error v =>
                rw [hfatal, hms] at h
                cases h
                -- only patterns can be without matchers
                obtain ⟨before, after, hv, hbefore, hnone⟩ := matchers_eq_error_iff.mp hms
                obtain ⟨rfl, -⟩ := (ofValue_eq_error_iff hengine).mp hnone
                refine ⟨hasFault_pattern_iff.mpr ⟨rfl, hkind, hms⟩, fun d hd => ?_⟩
                have hzero := hd.rank_ne_zero hkind
                have hone := hd.rank_ne_one hvalues
                have htwo := hd.rank_ne_two hfatal
                show 3 ≤ d.rank
                omega
            | ok ms =>
                cases hgs : globs r.whitelist with
                | error x =>
                    rw [hfatal, hms, hgs] at h
                    cases h
                    refine ⟨hasFault_whitelist_iff.mpr ⟨rfl, hgs⟩, fun d hd => ?_⟩
                    have hzero := hd.rank_ne_zero hkind
                    have hone := hd.rank_ne_one hvalues
                    have htwo := hd.rank_ne_two hfatal
                    have hthree := hd.rank_ne_three hkind hms
                    show 4 ≤ d.rank
                    omega
                | ok gs =>
                    rw [hfatal, hms, hgs] at h
                    cases h

/-- **What a requirement that is not valid fails with**: its first fault. -/
theorem toRule_eq_error_iff (hengine : engine.ReadsPlain) :
    r.toRule index engine = .error e ↔ r.IsFirstFault engine index e := by
  refine ⟨isFirstFault_of_toRule_eq_error hengine, fun h => ?_⟩
  cases htoRule : r.toRule index engine with
  | ok rule =>
      obtain ⟨hvalues, hbecomes⟩ := toRule_eq_ok_iff.mp htoRule
      exact absurd h.1 (hbecomes.isValid hvalues).not_hasFault
  | error d =>
      have hd := isFirstFault_of_toRule_eq_error hengine htoRule
      rw [hd.1.unique h.1 (Nat.le_antisymm (hd.2 e h.1) (h.2 d hd.1))]

/-- **When a requirement becomes a rule**: if it is valid. -/
theorem exists_toRule_eq_ok_iff (hengine : engine.ReadsPlain) :
    (∃ rule, r.toRule index engine = .ok rule) ↔ r.IsValid engine := by
  constructor
  · rintro ⟨rule, hrule⟩
    obtain ⟨hvalues, hbecomes⟩ := toRule_eq_ok_iff.mp hrule
    exact hbecomes.isValid hvalues
  · intro hvalid
    cases htoRule : r.toRule index engine with
    | ok rule => exact ⟨rule, rfl⟩
    | error e =>
        exact absurd (isFirstFault_of_toRule_eq_error hengine htoRule).1 hvalid.not_hasFault

end Requirement

end PolicyLint
