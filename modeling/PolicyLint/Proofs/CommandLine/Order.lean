/-
# Options in any order

Each option can be written as one word: its long name, and behind a sign its value, if it takes one.
Such a word is taken at once and leaves nothing waiting, so a command line of such words sets one
option after the other. Each option but `--input` sets a place of its own and is given once, so the
order does not matter; the values of `--input` stand in the order in which they are given. What
stands behind two dashes are paths, whatever it looks like.

* `CommandLine.Given` : an option as it is given, and `Given.word`, which writes it;
* `CommandLine.words_word`, `CommandLine.words_options` : one option and all options are taken;
* `CommandLine.foldl_set` : what options come to in the end;
* `CommandLine.ofWords_optionsOf` : arguments are read back from their options in any order.
-/
import Mathlib.Data.List.Perm.Basic
import Mathlib.Data.List.TakeWhile
import PolicyLint.Program

namespace PolicyLint

namespace CommandLine

/-! ## Options as words -/

/-- An option as it is given: by itself or with a value. -/
structure Given where
  flag : Flag
  value? : Option String
deriving DecidableEq, Repr

namespace Given

/-- The word of an option: its long name, and behind a sign its value. -/
def word (g : Given) : String :=
  "--" ++ g.flag.name ++ match g.value? with
    | some v => "=" ++ v
    | none => ""

/-- Whether an option that sets an argument is given as it has to be: with a value if it takes one,
and else without. -/
inductive IsProper : Given → Prop
  | bare {f : Flag} (isRaised : f = .verbose ∨ f = .debug) : IsProper ⟨f, none⟩
  | valued {f : Flag} (takes : f.takesValue = true) (v : String) : IsProper ⟨f, some v⟩

/-- The arguments with an option set as it is given. -/
def set (a : Arguments) (g : Given) : Arguments := setFlag a g.value?.toList g.flag

end Given

/-- How an option is given to say what some arguments are: not at all, once, or for `--input` as
often as there are inputs. -/
def given (a : Arguments) : Flag → List Given
  | .dependencies => a.settings.dependencies.toList.map fun v => ⟨.dependencies, some v⟩
  | .policy => a.settings.policy.toList.map fun v => ⟨.policy, some v⟩
  | .root => a.settings.root.toList.map fun v => ⟨.root, some v⟩
  | .output => a.settings.output.toList.map fun v => ⟨.output, some v⟩
  | .config => a.config.toList.map fun v => ⟨.config, some v⟩
  | .verbose => if a.verbose then [⟨.verbose, none⟩] else []
  | .debug => if a.debug then [⟨.debug, none⟩] else []
  | .input => a.input.map fun v => ⟨.input, some v⟩
  | .help => []
  | .version => []

/-- All options that say what some arguments are, paths aside. -/
def optionsOf (a : Arguments) : List Given := Flag.all.flatMap (given a)

/-! ## Taking options -/

/-- A long name tells its option. -/
theorem ofName?_name (f : Flag) : Flag.ofName? f.name = some f := by
  cases f <;> decide

/-- No long name has a sign in it. -/
theorem not_mem_name (f : Flag) : '=' ∉ f.name.toList := by
  cases f <;> decide

/-- A long name begins with a letter. -/
theorem name_ne_empty (f : Flag) : f.name.toList ≠ [] := by
  cases f <;> decide

/-- The arguments so far and the options seen, when nothing waits. -/
def ready (a : Arguments) (seen : List Flag) : Progress := { arguments := a, seen }

variable {a : Arguments} {seen : List Flag} {g : Given}

/-- What stands behind the name of an option: a sign and its value. -/
def assigned : Option String → List Char
  | some v => '=' :: v.toList
  | none => []

theorem toList_word (g : Given) :
    g.word.toList = '-' :: '-' :: (g.flag.name.toList ++ assigned g.value?) := by
  obtain ⟨f, value?⟩ := g
  cases value? <;> simp [Given.word, assigned]

/-- The name of an option stands in front of the first sign. -/
theorem takeWhile_name (f : Flag) (value? : Option String) :
    (f.name.toList ++ assigned value?).takeWhile (· ≠ '=') = f.name.toList := by
  rw [List.takeWhile_append_of_pos fun c hc =>
    decide_eq_true (ne_of_mem_of_not_mem hc (not_mem_name f))]
  cases value? <;> simp [assigned]

/-- A long option without a sign waits for its value, if it takes one. -/
theorem long_name (p : Progress) (f : Flag) :
    p.long f.name.toList = if f.takesValue then p.await f else p.raise true f := by
  have hname := takeWhile_name f none
  rw [assigned, List.append_nil] at hname
  simp only [Progress.long, hname, String.ofList_toList, ofName?_name, List.drop_length]

/-- One with a sign has its value. -/
theorem long_assigned (p : Progress) (f : Flag) (v : String) :
    p.long (f.name.toList ++ assigned (some v)) =
      if f.takesValue then p.attach f v.toList else .error .needlessValue := by
  simp only [Progress.long, takeWhile_name, String.ofList_toList, ofName?_name, List.drop_left]
  rfl

/-- A word of two dashes and more is read as a long option. -/
theorem words_long (p : Progress) {cs : List Char} (hne : cs ≠ []) {w : String}
    (hw : w.toList = '-' :: '-' :: cs) (ws : List String) :
    p.words (w :: ws) = (p.long cs).bind (·.words ws) := by
  obtain ⟨c, cs, rfl⟩ := List.exists_cons_of_ne_nil hne
  rw [Progress.words, hw]
  rfl

/-- **The word of an option is taken at once**, unless the option has been seen and may not come
again. -/
theorem words_word (hg : g.IsProper) (hseen : g.flag ∈ seen → g.flag = .input)
    (ws : List String) :
    (ready a seen).words (g.word :: ws) = (ready (g.set a) (g.flag :: seen)).words ws := by
  have htake : ∀ values, (ready a seen).take g.flag values =
      .ok (ready (setFlag a values g.flag) (g.flag :: seen)) := by
    intro values
    rw [Progress.take, if_neg fun h => h.1 (hseen h.2)]
    rfl
  -- a word without a sign raises its option, and another attaches its value
  have hlong : (ready a seen).long (g.flag.name.toList ++ assigned g.value?) =
      (ready a seen).take g.flag g.value?.toList := by
    cases hg with
    | bare isRaised =>
        rw [assigned, List.append_nil, long_name]
        rcases isRaised with rfl | rfl
        · rfl
        · rfl
    | valued takes v =>
        rw [long_assigned, if_pos takes, Progress.attach, String.ofList_toList]
        rfl
  rw [words_long _ (List.append_ne_nil_of_left_ne_nil (name_ne_empty g.flag) _) (toList_word g),
    hlong, htake]
  rfl

/-- Whether of two options at most one is given, or both are `--input`. -/
def AreApart (g h : Given) : Prop := g.flag = h.flag → g.flag = .input

theorem AreApart.symm {g h : Given} (hgh : AreApart g h) : AreApart h g :=
  fun heq => heq.trans (hgh heq.symm)

/-- **The words of options are taken one after the other.** By induction on the options: what is
seen so far keeps apart from what is to come. -/
theorem words_options {gs : List Given} (hproper : ∀ g ∈ gs, g.IsProper)
    (hapart : gs.Pairwise AreApart) (hseen : ∀ g ∈ gs, g.flag ∈ seen → g.flag = .input)
    (ws : List String) :
    ∃ seen', (ready a seen).words (gs.map Given.word ++ ws) =
      (ready (gs.foldl Given.set a) seen').words ws := by
  induction gs generalizing a seen with
  | nil => exact ⟨seen, rfl⟩
  | cons g gs ih =>
      rw [List.forall_mem_cons] at hproper hseen
      rw [List.pairwise_cons] at hapart
      have hnext : ∀ h ∈ gs, h.flag ∈ g.flag :: seen → h.flag = .input := by
        intro h hh hmem
        rcases List.mem_cons.mp hmem with heq | hmem
        · exact heq.trans (hapart.1 h hh heq.symm)
        · exact hseen.2 h hh hmem
      obtain ⟨seen', hwords⟩ := ih (a := g.set a) hproper.2 hapart.2 hnext
      exact ⟨seen', by rw [List.map_cons, List.cons_append, words_word hproper.1 hseen.1, hwords,
        List.foldl_cons]⟩

/-- All words behind two dashes are paths. -/
theorem foldlM_path (paths : List String) :
    paths.foldlM Progress.path (ready a seen) =
      .ok (ready { a with paths := a.paths ++ paths } seen) := by
  induction paths generalizing a with
  | nil => rw [List.append_nil]; rfl
  | cons path paths ih =>
      have hpath : (ready a seen).path path =
          .ok (ready { a with paths := a.paths ++ [path] } seen) := rfl
      rw [List.foldlM_cons, hpath]
      show paths.foldlM Progress.path _ = _
      rw [ih, List.append_assoc]
      rfl

/-- Two dashes and paths end a command line. -/
theorem words_paths (paths : List String) :
    ((ready a seen).words ("--" :: paths)).map (·.arguments) =
      .ok { a with paths := a.paths ++ paths } := by
  have hdashes : "--".toList = ['-', '-'] := rfl
  simp only [Progress.words, hdashes, foldlM_path]
  rfl

/-! ## What options come to -/

/-- How an option is given among others. -/
def among (gs : List Given) (f : Flag) : List Given := gs.filter fun g => g.flag = f

/-- The last value of an option. -/
def lastValue? (gs : List Given) (f : Flag) : Option String :=
  ((among gs f).filterMap Given.value?).getLast?

/-- **What options come to.** The last value of an option counts, and of `--input` all values do; a
flag is raised if it is given. By induction on the options, the first of which is set first. -/
theorem foldl_set {gs : List Given} (hproper : ∀ g ∈ gs, g.IsProper) (a : Arguments) :
    gs.foldl Given.set a =
      { settings :=
          { dependencies := (lastValue? gs .dependencies).or a.settings.dependencies
            policy := (lastValue? gs .policy).or a.settings.policy
            root := (lastValue? gs .root).or a.settings.root
            output := (lastValue? gs .output).or a.settings.output }
        config := (lastValue? gs .config).or a.config
        verbose := a.verbose || !(among gs .verbose).isEmpty
        debug := a.debug || !(among gs .debug).isEmpty
        input := a.input ++ (among gs .input).filterMap Given.value?
        paths := a.paths } := by
  induction gs generalizing a with
  | nil => simp [lastValue?, among]
  | cons g gs ih =>
      rw [List.forall_mem_cons] at hproper
      rw [List.foldl_cons, ih hproper.2]
      cases hproper.1 with
      | bare isRaised =>
          rcases isRaised with rfl | rfl
          · simp [Given.set, setFlag, lastValue?, among]
          · simp [Given.set, setFlag, lastValue?, among]
      | valued takes v =>
          rename_i f
          cases f with
          | verbose | debug | help | version => cases takes
          | _ => simp [Given.set, setFlag, lastValue?, among, List.getLast?_cons]

/-! ## Arguments read back -/

/-- Each option says its own part of the arguments, as it has to be given. -/
theorem cases_of_mem_given {f : Flag} (h : g ∈ given a f) : g.flag = f ∧ g.IsProper := by
  cases f with
  | dependencies | policy | root | output | config | input =>
      obtain ⟨v, -, rfl⟩ := List.mem_map.mp h
      exact ⟨rfl, .valued rfl v⟩
  | verbose =>
      obtain rfl := List.mem_singleton.mp (List.mem_ite_nil_right.mp h).2
      exact ⟨rfl, .bare (.inl rfl)⟩
  | debug =>
      obtain rfl := List.mem_singleton.mp (List.mem_ite_nil_right.mp h).2
      exact ⟨rfl, .bare (.inr rfl)⟩
  | help | version => cases h

theorem isProper_of_mem_optionsOf (h : g ∈ optionsOf a) : g.IsProper := by
  obtain ⟨f, -, hf⟩ := List.mem_flatMap.mp h
  exact (cases_of_mem_given hf).2

/-- None of them but `--input` is given twice. -/
theorem pairwise_optionsOf (a : Arguments) : (optionsOf a).Pairwise AreApart := by
  have hvalue : ∀ (f : Flag) (o : Option String),
      (o.toList.map fun v => Given.mk f (some v)).Pairwise AreApart := by
    intro f o
    cases o with
    | none => exact .nil
    | some v => exact List.pairwise_singleton _ _
  have hraised : ∀ (f : Flag) (b : Bool),
      (if b then [Given.mk f none] else []).Pairwise AreApart := by
    intro f b
    cases b with
    | false => exact .nil
    | true => exact List.pairwise_singleton _ _
  have hnodup : Flag.all.Nodup := by decide
  refine List.pairwise_flatMap.mpr ⟨?_, hnodup.imp ?_⟩
  · intro f _
    cases f with
    | dependencies | policy | root | output | config => exact hvalue _ _
    | verbose | debug => exact hraised _ _
    | input => exact List.pairwise_map.mpr (List.pairwise_of_forall fun _ _ _ => rfl)
    | help | version => exact .nil
  · intro f f' hne g hg h hh heq
    rw [(cases_of_mem_given hg).1, (cases_of_mem_given hh).1] at heq
    exact absurd heq hne

/-- Among all options an option is given as it is by itself. -/
theorem among_optionsOf (a : Arguments) (f : Flag) : among (optionsOf a) f = given a f := by
  have hown : ∀ f', among (given a f') f = if f' = f then given a f else [] := by
    intro f'
    split
    · rename_i heq
      rw [heq]
      exact List.filter_eq_self.mpr fun g hg => decide_eq_true (cases_of_mem_given hg).1
    · rename_i hne
      refine List.filter_eq_nil_iff.mpr fun g hg => ?_
      rw [(cases_of_mem_given hg).1, decide_eq_true_eq]
      exact hne
  have hall : among (optionsOf a) f = Flag.all.flatMap fun f' => among (given a f') f :=
    List.filter_flatMap
  simp only [hall, hown]
  cases f <;> simp [Flag.all]

/-- **A word tells its option**, and its value. -/
theorem word_injective : Function.Injective Given.word := by
  rintro ⟨f, value?⟩ ⟨f', value'?⟩ h
  have hrest : f.name.toList ++ assigned value? = f'.name.toList ++ assigned value'? := by
    have hlist := congrArg String.toList h
    rw [toList_word, toList_word] at hlist
    exact (List.cons.inj (List.cons.inj hlist).2).2
  have hname : f.name = f'.name := by
    have hfront := congrArg (List.takeWhile (· ≠ '=')) hrest
    rw [takeWhile_name, takeWhile_name] at hfront
    exact String.toList_inj.mp hfront
  obtain rfl : f = f' := by
    have hflag := congrArg Flag.ofName? hname
    rw [ofName?_name, ofName?_name] at hflag
    exact Option.some.inj hflag
  have hvalue := List.append_cancel_left hrest
  cases value? with
  | none =>
      cases value'? with
      | none => rfl
      | some v' => cases hvalue
  | some v =>
      cases value'? with
      | none => cases hvalue
      | some v' => rw [String.toList_inj.mp (List.cons.inj hvalue).2]

/-- So where the words of all options are put in another order, the options are. -/
theorem exists_options {words : List String} (h : words.Perm ((optionsOf a).map Given.word)) :
    ∃ gs : List Given, words = gs.map Given.word ∧ gs.Perm (optionsOf a) :=
  (congrFun₂ (List.eq_map_comp_perm Given.word) words (optionsOf a)).mpr h

/-- An option but `--input` is given at most once. -/
theorem length_given_le (a : Arguments) {f : Flag} (hf : f ≠ .input) : (given a f).length ≤ 1 := by
  cases f with
  | dependencies | policy | root | output | config =>
      exact (List.length_map _).trans_le Option.length_toList_le
  | verbose | debug =>
      rw [given]
      split
      · exact Nat.le_refl 1
      · exact Nat.zero_le 1
  | input => exact absurd rfl hf
  | help | version => exact Nat.zero_le 1

/-- **In another order each option is given as it was**, if the inputs keep theirs. -/
theorem among_eq {gs : List Given} (hperm : gs.Perm (optionsOf a))
    (hinput : (given a .input).Sublist gs) (f : Flag) : among gs f = given a f := by
  have hf : (among gs f).Perm (given a f) := by
    rw [← among_optionsOf]
    exact hperm.filter _
  by_cases hmany : f = .input
  · -- the inputs stand among the options in their order, and there are no others
    rw [hmany] at hf ⊢
    have hown : among (given a .input) .input = given a .input :=
      List.filter_eq_self.mpr fun g hg => decide_eq_true (cases_of_mem_given hg).1
    have hsub : (given a .input).Sublist (among gs .input) := by
      rw [← hown]
      exact hinput.filter _
    exact (hsub.eq_of_length hf.length_eq.symm).symm
  · have hone := length_given_le a hmany
    rcases hgiven : given a f with _ | ⟨g, _ | ⟨h, hs⟩⟩
    · rw [hgiven] at hf
      exact List.perm_nil.mp hf
    · rw [hgiven] at hf
      exact List.perm_singleton.mp hf
    · rw [hgiven] at hone
      simp at hone

/-- **Set in another order, the options come to the arguments**, paths aside. -/
theorem foldl_set_eq {gs : List Given} (hproper : ∀ g ∈ gs, g.IsProper)
    (hamong : ∀ f, among gs f = given a f) :
    gs.foldl Given.set {} = { a with paths := [] } := by
  have hlast : ∀ (f : Flag) (o : Option String),
      (((o.toList.map fun v => Given.mk f (some v)).filterMap Given.value?).getLast?.or none) = o := by
    intro f o
    cases o <;> rfl
  have hraised : ∀ (f : Flag) (b : Bool),
      (false || !(if b then [Given.mk f none] else []).isEmpty) = b := by
    intro f b
    cases b <;> rfl
  have hinput : (a.input.map fun v => Given.mk .input (some v)).filterMap Given.value? = a.input := by
    rw [List.filterMap_map]
    exact List.filterMap_some
  rw [foldl_set hproper]
  simp only [lastValue?, hamong, given, hlast, hraised, hinput, List.nil_append]

end CommandLine

open CommandLine in
/-- **Arguments are read back from their options in any order.** Let each option that is set be
written as one word, `--input` once for each input, and let these words stand in any order in which
the inputs keep theirs, and then two dashes and the paths. Such a command line is read as the
arguments, whatever the values, inputs and paths look like. Their inputs are those of the option
and then the paths; there have to be some, and what ends the program without them has the status of
a wrong call. -/
theorem Arguments.ofWords_optionsOf (a : Arguments) (words : List String)
    (hwords : words.Perm ((optionsOf a).map Given.word))
    (hinput : (a.input.map fun v => "--input=" ++ v).Sublist words) :
    Arguments.ofWords (words ++ "--" :: a.paths) = .ok a ∧
      a.inputs = a.input ++ a.paths ∧
      (∀ e, a.checkedInputs = .error e ↔ e = .noInputs ∧ a.input = [] ∧ a.paths = []) ∧
      ProgramError.noInputs.exitCode = -1 := by
  obtain ⟨gs, rfl, hperm⟩ := exists_options hwords
  refine ⟨?_, rfl, ?_, rfl⟩
  · have hsub : (given a .input).Sublist gs := by
      have hmap : (a.input.map fun v => "--input=" ++ v) = (given a .input).map Given.word := by
        rw [given, List.map_map]
        rfl
      rw [hmap] at hinput
      obtain ⟨hs, hhs, heq⟩ := List.sublist_map_iff.mp hinput
      rwa [word_injective.list_map heq]
    have hproper : ∀ g ∈ gs, g.IsProper := fun g hg =>
      isProper_of_mem_optionsOf (hperm.mem_iff.mp hg)
    have hapart : gs.Pairwise AreApart :=
      (hperm.pairwise_iff AreApart.symm).mpr (pairwise_optionsOf a)
    have hfresh : ∀ g ∈ gs, g.flag ∈ ([] : List Flag) → g.flag = .input := fun _ _ h => nomatch h
    obtain ⟨seen, htaken⟩ := words_options (a := {}) hproper hapart hfresh ("--" :: a.paths)
    have hset := foldl_set_eq hproper (among_eq hperm hsub)
    show ((ready {} []).words _).map (·.arguments) = .ok a
    rw [htaken, words_paths, hset]
    rfl
  · intro e
    rw [checkedInputs, inputs]
    cases hall : a.input ++ a.paths with
    | nil =>
        obtain ⟨hnone, hnopath⟩ := List.append_eq_nil_iff.mp hall
        simp [hnone, hnopath, eq_comm]
    | cons input rest =>
        refine iff_of_false (fun h => nomatch h) ?_
        rintro ⟨-, hnone, hnopath⟩
        rw [hnone, hnopath] at hall
        cases hall

open CommandLine in
/-- Words that look like other options are read as values, inputs and paths: among these two inputs
a flag and a policy stand, and behind the dashes come dashes, another option and nothing. -/
theorem Arguments.ofWords_lookalikes :
    let a : Arguments :=
      { settings := { policy := some "--root=x", root := some "" }, verbose := true
        input := ["-i", "a=b"], paths := ["--", "--debug", ""] }
    let words := ["--input=-i", "--root=", "--verbose", "--input=a=b", "--policy=--root=x"]
    words.Perm ((optionsOf a).map Given.word) ∧
      (a.input.map fun v => "--input=" ++ v).Sublist words ∧
      Arguments.ofWords (words ++ ["--", "--", "--debug", ""]) = .ok a ∧
      a.inputs = ["-i", "a=b", "--", "--debug", ""] ∧
      ∀ e, a.checkedInputs ≠ .error e := by
  intro a words
  have hperm : words.Perm ((optionsOf a).map Given.word) := by decide +kernel
  have hsub : (a.input.map fun v => "--input=" ++ v).Sublist words := by decide +kernel
  obtain ⟨hread, hinputs, hnone, -⟩ := Arguments.ofWords_optionsOf a words hperm hsub
  refine ⟨hperm, hsub, hread, hinputs, fun e he => ?_⟩
  obtain ⟨-, hempty, -⟩ := (hnone e).mp he
  cases hempty

end PolicyLint
