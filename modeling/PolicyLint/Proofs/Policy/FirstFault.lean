/-
# Policies and the first fault of a document

The requirements of a document become a policy if all of them are valid, and then each gives one
rule, in their order. Otherwise the document fails with the first fault of its first requirement
that is not valid, whatever faults come after it. The engine alone says what a pattern is and what
is wrong with a text that is none. A value that is banned as a name or as a property is never a
fault of an engine that reads plain patterns, since what is written for it is one.

* `Policy.rulesFrom_eq_ok_iff`, `Policy.rulesFrom_eq_error_iff` : the rules of requirements;
* `Policy.ofRequirements_ok_or_first_fault` : what a document comes to.
-/
import PolicyLint.Policy.Basic
import PolicyLint.Proofs.Policy.Conversion
import PolicyLint.Proofs.Policy.ValuePatterns

namespace PolicyLint

/-! ## Names and properties -/

/-- A requirement that bans names or properties fails with no pattern. -/
theorem Requirement.toRule_ne_pattern {r : Requirement} {kind : RuleKind} (hkind : r.HasKind kind)
    (hne : kind ≠ .pattern) {engine : Pattern.Engine} (hengine : engine.ReadsPlain) (index i : Nat)
    (e : PatternError) : r.toRule index engine ≠ .error (.pattern i e) := by
  intro h
  obtain ⟨-, hpattern, -⟩ := hasFault_pattern_iff.mp ((toRule_eq_error_iff hengine).mp h).1
  exact hne (hkind.unique (RuleKind.ofType?_eq_some_iff.mp hpattern))

namespace Policy

/-! ## Rules -/

variable {engine : Pattern.Engine}

/-- Requirements are taken one after the other, each with its place. -/
theorem rulesFrom_eq_mapM (engine : Pattern.Engine) (n : Nat) (rs : List Requirement) :
    rulesFrom engine n rs = (rs.zipIdx n).mapM fun x => x.1.toRule x.2 engine := by
  induction rs generalizing n with
  | nil => rfl
  | cons r rs ih =>
      rw [rulesFrom, List.zipIdx_cons, List.mapM_cons, ih]
      cases r.toRule n engine with
      | error e => rfl
      | ok rule => rfl

/-- **The rules of requirements**: there is one for each of them, and all of them are valid. -/
theorem rulesFrom_eq_ok_iff {n : Nat} {rs : List Requirement} {rules : List Rule} :
    rulesFrom engine n rs = .ok rules ↔
      (∀ r ∈ rs, r.IsValid engine) ∧ List.Forall₂ (Requirement.Becomes engine) rs rules := by
  have hvalid : ∀ (r : Requirement) (rule : Rule),
      r.values ≠ [] ∧ r.Becomes engine rule ↔ r.IsValid engine ∧ r.Becomes engine rule :=
    fun _ _ => and_congr_left fun h => ⟨fun hvalues => h.isValid hvalues, fun h' => h'.values⟩
  rw [rulesFrom_eq_mapM, List.mapM_eq_ok_iff]
  simp only [Requirement.toRule_eq_ok_iff, hvalid]
  rw [← List.forall₂_and_left, ← List.forall₂_map_left_iff
    (R := fun (r : Requirement) rule => r.IsValid engine ∧ r.Becomes engine rule),
    List.zipIdx_map_fst]

/-- **Requirements without rules**: the first that is not valid fails with its first fault. -/
theorem rulesFrom_eq_error_iff (hengine : engine.ReadsPlain) {n : Nat} {rs : List Requirement}
    {e : RequirementError} :
    rulesFrom engine n rs = .error e ↔ ∃ before r after, rs = before ++ r :: after ∧
      (∀ q ∈ before, q.IsValid engine) ∧ r.IsFirstFault engine (n + before.length) e := by
  simp only [rulesFrom_eq_mapM, List.mapM_eq_error_iff, Requirement.toRule_eq_error_iff hengine]
  constructor
  · rintro ⟨_, _, _, hrs, hbefore, hfault⟩
    obtain ⟨before, rest, rfl, rfl, hrest⟩ := List.zipIdx_eq_append_iff.mp hrs
    obtain ⟨r, after, rfl, rfl, -⟩ := List.zipIdx_eq_cons_iff.mp hrest.symm
    refine ⟨before, r, after, rfl, ?_, hfault⟩
    intro q hq
    obtain ⟨x, hx, rfl⟩ : ∃ x ∈ before.zipIdx n, x.1 = q := by
      rwa [← List.mem_map, List.zipIdx_map_fst]
    exact (Requirement.exists_toRule_eq_ok_iff hengine).mp (hbefore x hx)
  · rintro ⟨before, r, after, rfl, hbefore, hfault⟩
    refine ⟨before.zipIdx n, (r, n + before.length), after.zipIdx (n + before.length + 1), ?_, ?_,
      hfault⟩
    · rw [List.zipIdx_append, List.zipIdx_cons]
    · intro x hx
      exact (Requirement.exists_toRule_eq_ok_iff hengine).mpr
        (hbefore x.1 (List.fst_mem_of_mem_zipIdx hx))

/-! ## Documents -/

/-- **What a document comes to**, for any engine that reads plain patterns. It becomes a policy
exactly if all of its requirements are valid, of which the engine says only whether a value that
should be a pattern is one; the policy then has one rule for each of them, in their order, which is
what the requirement asks for. Otherwise it fails with the first fault of the first requirement that
is not valid. No requirement that bans names or properties fails with a pattern: the text that is
written for a value, whatever it is, is a well-formed pattern, and the matcher for the value is what
the pattern matches. -/
theorem ofRequirements_ok_or_first_fault (engine : Pattern.Engine) (hengine : engine.ReadsPlain)
    (rs : List Requirement) :
    ((∃ p, ofRequirements rs engine = .ok p) ↔ ∀ r ∈ rs, r.IsValid engine) ∧
    (∀ p, ofRequirements rs engine = .ok p ↔
      (∀ r ∈ rs, r.IsValid engine) ∧ List.Forall₂ (Requirement.Becomes engine) rs p.rules) ∧
    (∀ e, ofRequirements rs engine = .error e ↔ ∃ before r after, rs = before ++ r :: after ∧
      (∀ q ∈ before, q.IsValid engine) ∧ r.IsFirstFault engine before.length e) ∧
    (∀ r ∈ rs, r.HasKind .name ∨ r.HasKind .property →
      ∀ index i e, r.toRule index engine ≠ .error (.pattern i e)) ∧
    ∀ value : String,
      (∃ m, Matcher.ofValue engine .name value = .ok m ∧
        Pattern.Means (Pattern.nameText value.toList) m) ∧
      ∃ m, Matcher.ofValue engine .property value = .ok m ∧
        Pattern.Means (Pattern.propertyText value.toList) m := by
  have hok : ∀ p, ofRequirements rs engine = .ok p ↔
      (∀ r ∈ rs, r.IsValid engine) ∧ List.Forall₂ (Requirement.Becomes engine) rs p.rules := by
    intro p
    rw [← rulesFrom_eq_ok_iff (n := 0), ofRequirements]
    cases rulesFrom engine 0 rs with
    | error e => simp [Except.map]
    | ok rules =>
        obtain ⟨rules'⟩ := p
        simp [Except.map]
  have herror : ∀ e, ofRequirements rs engine = .error e ↔
      ∃ before r after, rs = before ++ r :: after ∧
        (∀ q ∈ before, q.IsValid engine) ∧ r.IsFirstFault engine before.length e := by
    intro e
    have h : rulesFrom engine 0 rs = .error e ↔ _ := rulesFrom_eq_error_iff hengine
    simp only [Nat.zero_add] at h
    rw [← h, ofRequirements]
    cases rulesFrom engine 0 rs <;> simp [Except.map]
  refine ⟨⟨fun ⟨p, hp⟩ => ((hok p).mp hp).1, fun hvalid => ?_⟩, hok, herror, ?_, ?_⟩
  · cases h : ofRequirements rs engine with
    | ok p => exact ⟨p, rfl⟩
    | error e =>
        obtain ⟨before, r, after, rfl, -, hfault⟩ := (herror e).mp h
        have hr := hvalid r (List.mem_append_right before List.mem_cons_self)
        exact absurd hfault.1 hr.not_hasFault
  · rintro r - (hname | hproperty)
    · exact Requirement.toRule_ne_pattern hname (by decide) hengine
    · exact Requirement.toRule_ne_pattern hproperty (by decide) hengine
  · intro value
    exact ⟨⟨_, Matcher.ofValue_name hengine value, Pattern.means_nameText _⟩, _,
      Matcher.ofValue_property hengine value, Pattern.means_propertyText _⟩

/-- A name with characters that have a meaning of their own in patterns. -/
def oddName : Requirement := { kind := " banned_name ", values := ["$("] }

/-- A requirement whose level, second value and glob are at fault. -/
def faulty : Requirement where
  kind := "BANNED_PATTERN"
  values := ["a", "("]
  level := some " loud "
  whitelist := ["***"]

/-- Alone the name becomes a rule. In front of the other requirement it leaves the document with the
fault that comes first, which is the level. -/
theorem ofRequirements_oddName_faulty :
    let reason := "regex parse error: not a regular expression"
    Pattern.engine.ReadsPlain ∧
    (∃ p, ofRequirements [oddName] = .ok p) ∧
    ofRequirements [oddName, faulty] = .error (.level 1 "loud") ∧
    faulty.HasFault Pattern.engine 1 (.pattern 1 ⟨"(", reason⟩) ∧
    (∀ index i e, oddName.toRule index ≠ .error (.pattern i e)) ∧
    ∃ m, Matcher.ofValue Pattern.engine .name "$(" = .ok m ∧
      Pattern.Means ['\\', 'b', '\\', '$', '\\', '(', '\\', 'b'] m := by
  intro reason
  have hengine := Pattern.readsPlain_engine
  have hname : oddName.HasKind .name := by
    rw [Requirement.HasKind]
    decide +kernel
  have hpattern : faulty.HasKind .pattern := by
    rw [Requirement.HasKind]
    decide +kernel
  have hvalid : oddName.IsValid Pattern.engine :=
    ⟨⟨.name, hname⟩, List.cons_ne_nil _ _, ⟨true, List.mem_cons_self⟩,
      fun h => (nomatch hname.unique h), List.forall_mem_nil _⟩
  have hfault : faulty.IsFirstFault Pattern.engine 1 (.level 1 "loud") := by
    have hlevel : Requirement.isFatal? faulty.level = none := by decide +kernel
    have htrim : Text.trim (faulty.level.getD "") = "loud" := by decide +kernel
    apply (Requirement.toRule_eq_error_iff hengine).mp
    rw [Requirement.toRule_eq, RuleKind.ofType?_eq_some_iff.mpr hpattern, hlevel, htrim]
    rfl
  have htaken : ∃ m, Pattern.engine.compile "a" = .ok m := by
    have hok : (Pattern.engine.compile "a").isOk = true := by decide +kernel
    cases h : Pattern.engine.compile "a" with
    | ok m => exact ⟨m, rfl⟩
    | error reason =>
        rw [h] at hok
        cases hok
  have hrefused : Pattern.engine.compile "(" = .error reason := by
    have hnone : Pattern.regular? "(" = none :=
      Option.isNone_iff_eq_none.mp (by decide +kernel)
    simp only [Pattern.Engine.compile, Pattern.engine, hnone, reason]
  obtain ⟨-, -, herror, hnever, hmeans⟩ :=
    ofRequirements_ok_or_first_fault Pattern.engine hengine [oddName, faulty]
  obtain ⟨halone, -⟩ := ofRequirements_ok_or_first_fault Pattern.engine hengine [oddName]
  exact ⟨hengine, halone.mpr (List.forall_mem_singleton.mpr hvalid),
    (herror _).mpr ⟨[oddName], faulty, [], rfl, List.forall_mem_singleton.mpr hvalid, hfault⟩,
    .pattern hpattern (show faulty.values = ["a"] ++ "(" :: [] from rfl)
      (List.forall_mem_singleton.mpr htaken) hrefused,
    hnever oddName List.mem_cons_self (.inl hname), (hmeans "$(").1⟩

end Policy

end PolicyLint
