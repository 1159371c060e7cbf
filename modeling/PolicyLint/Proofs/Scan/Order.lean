/-
# Where warnings come from

Every warning of a file comes from one place: a hit of a rule that applies to the file, or a
reference of a page that leads nowhere. Each of those gives one warning. Warnings stand in the order
of their positions; at one position hits come before references, hits in the order of the rules.

* `Scan.Origin` : what a warning comes from, and `Scan.Origin.IsOf` : whether a file has it;
* `Scan.Origin.Precedes` : the order of origins at one position;
* `Scan.lint_eq_origins` : the warnings of a file are those of its origins, each once and in order;
* `Scan.exists_origin_of_mem` : the warnings of an input are those of origins of its targets.
-/
import PolicyLint.Proofs.Html.Places
import PolicyLint.Proofs.Policy.Hits
import PolicyLint.Proofs.Scan.Input
import PolicyLint.Proofs.Policy.WordMatchers

namespace PolicyLint.Scan

/-! ## Origins -/

/-- What a warning comes from: a hit of a rule, or a reference of the page. A rule goes with its
place in the policy, a hit with its place among the hits of the rule, and a reference with its place
among the references. -/
inductive Origin where
  | hit (i : Nat) (r : Rule) (n : Nat) (h : Hit)
  | reference (n : Nat) (s : Span)

namespace Origin

variable (w : Workspace) (c : Config) (file : String) (text : List Char)

/-- Whether a file has an origin: its rule is one of the policy that applies to the file by both of
its names, or its reference is one of a page and leads nowhere. -/
def IsOf : Origin → Prop
  | .hit i r n h =>
      (∃ policy, c.policy = some policy ∧ policy.rules[i]? = some r) ∧
        r.appliesTo file = true ∧ r.appliesTo (fromRoot c.root file) = true ∧
        (r.hits text)[n]? = some h
  | .reference n s =>
      (∃ e, Path.extension? file = some e ∧ (e.toLower = "html" ∨ e.toLower = "htm")) ∧
        (Html.imports text)[n]? = some s ∧
        Reference.resolves w c ((Path.parent? file).getD "") s.text = false

/-- The byte offset where an origin stands. -/
def offset : Origin → Nat
  | .hit _ _ _ h => h.offset
  | .reference _ s => s.offset

/-- The warning of an origin. -/
def warning : Origin → Warning
  | .hit _ r _ h => ⟨file, Position.ofOffset text h.offset, r.messageFor h.value, r.fatal⟩
  | .reference _ s =>
      ⟨file, Position.ofOffset text s.offset,
        "Unable to resolve import: " ++ String.ofList s.text, true⟩

/-- At one position hits come before references, hits in the order of the rules. -/
def Precedes : Origin → Origin → Prop
  | .hit i _ n _, .hit j _ m _ => i < j ∨ (i = j ∧ n < m)
  | .hit _ _ _ _, .reference _ _ => True
  | .reference _ _, .hit _ _ _ _ => False
  | .reference n _, .reference m _ => n < m

/-- No origin comes before itself. -/
theorem Precedes.ne {a b : Origin} (h : a.Precedes b) : a ≠ b := by
  rintro rfl
  cases a with
  | hit i r n hit =>
      rcases h with h | ⟨-, h⟩
      · exact Nat.lt_irrefl i h
      · exact Nat.lt_irrefl n h
  | reference n s => exact Nat.lt_irrefl n h

/-- An origin with the place where it stands. -/
def finding (o : Origin) : Finding := ⟨o.offset, o.warning file text⟩

variable {w c file text}

/-- Origins of a file stand at places of its text. -/
theorem IsOf.isPlace {o : Origin} (h : o.IsOf w c file text) : Text.IsPlace text o.offset := by
  cases o with
  | hit i r n hit => exact Rule.isPlace_of_mem_hits (List.mem_of_getElem? h.2.2.2)
  | reference n s => exact Html.isPlace_of_mem_imports (List.mem_of_getElem? h.2.1)

/-- Warnings have the positions of their origins. -/
theorem position_warning (o : Origin) :
    (o.warning file text).position = Position.ofOffset text o.offset := by
  cases o <;> rfl

end Origin

variable (w : Workspace) (c : Config) (file : String) (text : List Char)

/-! ## Hits -/

/-- The rules that apply to a file, with their places in the policy. -/
def appliedRules : List (Rule × Nat) :=
  ((c.policy.map Policy.rules).getD []).zipIdx.filter fun x => applies c file x.1

/-- The origins of a file among the hits of the policy. -/
def hitOrigins : List Origin :=
  (appliedRules c file).flatMap fun x =>
    (x.1.hits text).zipIdx.map fun y => .hit x.2 x.1 y.2 y.1

/-- The findings of the policy come from the hits. -/
theorem policyFindings_eq :
    policyFindings c file text = (hitOrigins c file text).map (Origin.finding file text) := by
  have hrules : ((c.policy.map Policy.rules).getD []).filter (applies c file) =
      (appliedRules c file).map Prod.fst := by
    rw [appliedRules]
    conv => lhs; rw [← List.zipIdx_map_fst 0 ((c.policy.map Policy.rules).getD [])]
    rw [List.filter_map]
    rfl
  rw [policyFindings, hrules, hitOrigins, List.flatMap_map, List.map_flatMap]
  congr 1
  funext x
  conv => lhs; rw [← List.zipIdx_map_fst 0 (x.1.hits text)]
  rw [List.map_map, List.map_map]
  rfl

/-- A rule with its place is one that applies if it stands there in the policy. -/
theorem mem_appliedRules {r : Rule} {i : Nat} :
    (r, i) ∈ appliedRules c file ↔
      (∃ policy, c.policy = some policy ∧ policy.rules[i]? = some r) ∧ applies c file r = true := by
  rw [appliedRules, List.mem_filter, List.mem_zipIdx_iff_getElem?]
  cases c.policy with
  | none => simp
  | some policy => simp

/-- The hits are the origins of a file that come from a rule. -/
theorem mem_hitOrigins {o : Origin} :
    o ∈ hitOrigins c file text ↔ (∃ i r n h, o = .hit i r n h) ∧ o.IsOf w c file text := by
  rw [hitOrigins, List.mem_flatMap]
  constructor
  · rintro ⟨⟨r, i⟩, hr, ho⟩
    obtain ⟨⟨h, n⟩, hh, rfl⟩ := List.mem_map.mp ho
    obtain ⟨hpolicy, happlies⟩ := (mem_appliedRules c file).mp hr
    rw [applies, Bool.and_eq_true] at happlies
    exact ⟨⟨i, r, n, h, rfl⟩, hpolicy, happlies.1, happlies.2, List.mem_zipIdx_iff_getElem?.mp hh⟩
  · rintro ⟨⟨i, r, n, h, rfl⟩, hpolicy, hfile, hroot, hh⟩
    refine ⟨(r, i), (mem_appliedRules c file).mpr ⟨hpolicy, ?_⟩, List.mem_map.mpr ⟨(h, n), ?_, rfl⟩⟩
    · rw [applies, hfile, hroot]
      rfl
    · exact List.mem_zipIdx_iff_getElem?.mpr hh

/-- Hits stand in the order of the rules, and of the hits of each. -/
theorem pairwise_hitOrigins : (hitOrigins c file text).Pairwise Origin.Precedes := by
  rw [hitOrigins, List.pairwise_flatMap]
  constructor
  · rintro ⟨r, i⟩ -
    rw [List.pairwise_map]
    exact (List.pairwise_zipIdx _).imp fun h => .inr ⟨rfl, h⟩
  · refine ((List.pairwise_zipIdx _).filter _).imp ?_
    rintro ⟨r, i⟩ ⟨t, j⟩ hij a ha b hb
    obtain ⟨x, -, rfl⟩ := List.mem_map.mp ha
    obtain ⟨y, -, rfl⟩ := List.mem_map.mp hb
    exact .inl hij

/-! ## References -/

/-- The extension of a page is that of a page in some case of letters. -/
theorem isPage_iff : isPage file = true ↔
    ∃ e, Path.extension? file = some e ∧ (e.toLower = "html" ∨ e.toLower = "htm") := by
  unfold isPage
  cases Path.extension? file with
  | none => simp
  | some e =>
      simp only [Option.map_some, Option.some.injEq, exists_eq_left']
      split <;> simp_all

/-- The origins of a file among the references of the page. -/
def referenceOrigins : List Origin :=
  if isPage file then
    ((Html.imports text).zipIdx.filter fun x =>
      !Reference.resolves w c ((Path.parent? file).getD "") x.1.text).map fun x =>
        .reference x.2 x.1
  else []

/-- The findings of a page come from its references. -/
theorem importFindings_eq :
    importFindings w c file text =
      (referenceOrigins w c file text).map (Origin.finding file text) := by
  rw [importFindings, referenceOrigins]
  split
  · rw [unresolved]
    conv => lhs; rw [← List.zipIdx_map_fst 0 (Html.imports text)]
    rw [List.filter_map, List.map_map, List.map_map]
    rfl
  · rfl

/-- The references that lead nowhere are the origins of a file that come from no rule. -/
theorem mem_referenceOrigins {o : Origin} :
    o ∈ referenceOrigins w c file text ↔ (∃ n s, o = .reference n s) ∧ o.IsOf w c file text := by
  rw [referenceOrigins]
  constructor
  · intro ho
    split at ho
    · rename_i hpage
      obtain ⟨⟨s, n⟩, hs, rfl⟩ := List.mem_map.mp ho
      rw [List.mem_filter, Bool.not_eq_true'] at hs
      exact ⟨⟨n, s, rfl⟩, (isPage_iff file).mp hpage, List.mem_zipIdx_iff_getElem?.mp hs.1, hs.2⟩
    · cases ho
  · rintro ⟨⟨n, s, rfl⟩, hpage, hs, hnowhere⟩
    rw [if_pos ((isPage_iff file).mpr hpage)]
    refine List.mem_map.mpr ⟨(s, n), List.mem_filter.mpr ⟨?_, ?_⟩, rfl⟩
    · exact List.mem_zipIdx_iff_getElem?.mpr hs
    · rw [hnowhere]
      rfl

/-- References stand in their order. -/
theorem pairwise_referenceOrigins :
    (referenceOrigins w c file text).Pairwise Origin.Precedes := by
  rw [referenceOrigins]
  split
  · rw [List.pairwise_map]
    exact (List.pairwise_zipIdx _).filter _
  · exact List.Pairwise.nil

/-! ## All origins -/

/-- The origins of a file, hits before references. -/
def origins : List Origin := hitOrigins c file text ++ referenceOrigins w c file text

/-- These are all origins of a file. -/
theorem mem_origins {o : Origin} : o ∈ origins w c file text ↔ o.IsOf w c file text := by
  rw [origins, List.mem_append, mem_hitOrigins w, mem_referenceOrigins, ← or_and_right,
    and_iff_right_iff_imp]
  intro _
  cases o with
  | hit i r n h => exact .inl ⟨i, r, n, h, rfl⟩
  | reference n s => exact .inr ⟨n, s, rfl⟩

/-- They stand in their order. -/
theorem pairwise_origins : (origins w c file text).Pairwise Origin.Precedes := by
  rw [origins, List.pairwise_append]
  refine ⟨pairwise_hitOrigins c file text, pairwise_referenceOrigins w c file text, ?_⟩
  intro a ha b hb
  obtain ⟨⟨i, r, n, h, rfl⟩, -⟩ := (mem_hitOrigins w c file text).mp ha
  obtain ⟨⟨m, s, rfl⟩, -⟩ := (mem_referenceOrigins w c file text).mp hb
  trivial

/-- The findings of a file are those of its origins, sorted by their offsets. -/
theorem findings_eq_origins :
    findings w c file text =
      ((origins w c file text).mergeSort fun a b => a.offset ≤ b.offset).map
        (Origin.finding file text) := by
  rw [findings, policyFindings_eq, importFindings_eq, ← List.map_append, ← origins]
  symm
  apply List.map_mergeSort
  intro a _ b _
  rfl

/-- A warning of a file is that of an origin. -/
theorem exists_origin_of_mem_warnings {text : String} {v : Warning}
    (hv : v ∈ warnings w c file text) :
    ∃ o : Origin, o.IsOf w c file text.toList ∧ v = o.warning file text.toList := by
  rw [warnings, findings_eq_origins, List.map_map] at hv
  obtain ⟨o, ho, rfl⟩ := List.mem_map.mp hv
  exact ⟨o, (mem_origins w c file text.toList).mp (List.mem_mergeSort.mp ho), rfl⟩

/-- **A warning of a scan is that of an origin of a target.** -/
theorem exists_origin_of_mem {path : String} {choice : Nat} {ws : List Warning} {v : Warning}
    (h : scan w c path choice = .ok ws) (hv : v ∈ ws) :
    ∃ file ∈ targetsOf w c path, ∃ text, w.read file = .ok text ∧
      ∃ o : Origin, o.IsOf w c file text.toList ∧ v = o.warning file text.toList := by
  obtain ⟨-, parts, hparts, rfl⟩ := scan_eq_ok_iff_lint.mp h
  obtain ⟨part, hpart, hv⟩ := List.mem_flatten.mp hv
  obtain ⟨file, hfile, hlint⟩ := hparts.flip.exists_of_mem part hpart
  obtain ⟨text, hread, hpart⟩ := exists_of_lint_eq_ok hlint
  exact ⟨file, hfile, text, hread, exists_origin_of_mem_warnings w c file (hpart ▸ hv)⟩

/-- **The warnings of a file are those of its origins.** Each origin gives one warning and there is
no other. Warnings stand in the order of their positions; at one position hits come before
references, hits in the order of the rules. -/
theorem lint_eq_origins (w : Workspace) (c : Config) (file text : String)
    (h : w.read file = .ok text) :
    ∃ sorted : List Origin,
      lint w c file = .ok (sorted.map (Origin.warning file text.toList)) ∧
      sorted.Nodup ∧
      (∀ o, o ∈ sorted ↔ o.IsOf w c file text.toList) ∧
      sorted.Pairwise fun a b =>
        let p := (a.warning file text.toList).position
        let q := (b.warning file text.toList).position
        p < q ∨ (p = q ∧ a.Precedes b) := by
  have hmem : ∀ o, o ∈ (origins w c file text.toList).mergeSort (fun a b => a.offset ≤ b.offset) ↔
      o.IsOf w c file text.toList := by
    intro o
    rw [List.mem_mergeSort, mem_origins]
  refine ⟨_, ?_, ?_, hmem, ?_⟩
  · rw [lint, h]
    dsimp only
    rw [warnings, findings_eq_origins, List.map_map]
    rfl
  · have hperm := List.mergeSort_perm (origins w c file text.toList)
      fun a b => decide (a.offset ≤ b.offset)
    exact hperm.nodup_iff.mpr ((pairwise_origins w c file text.toList).imp Origin.Precedes.ne)
  · refine (List.pairwise_mergeSort_of_pairwise Origin.offset
      (pairwise_origins w c file text.toList)).imp_of_mem ?_
    intro a b ha hb hab
    dsimp only
    rw [Origin.position_warning, Origin.position_warning]
    rcases hab with hlt | ⟨heq, hprecedes⟩
    · -- two places have two positions
      exact .inl (Position.ofOffset_lt ((hmem a).mp ha).isPlace ((hmem b).mp hb).isPlace hlt)
    · exact .inr ⟨congrArg _ heq, hprecedes⟩

/-- A page whose only script is missing and goes by a banned name. -/
def missingScript : String := "é <script src='a'></script>"

/-- A file system with nothing but the page. -/
def missingScriptFiles : Workspace := ⟨.directory [("p.HTM", .file (some missingScript))], []⟩

/-- A rule that bans the name, without being fatal. -/
def missingScriptRule : Rule := ⟨.name, [("a", Matcher.wholeWord ['a'])], none, [], false⟩

/-- The page has a hit and a reference at one position. -/
theorem lint_missingScript :
    let c : Config := { policy := some ⟨[missingScriptRule]⟩ }
    let text := missingScript.toList
    missingScriptFiles.read "p.HTM" = .ok missingScript ∧
    (Origin.hit 0 missingScriptRule 0 ⟨16, "a"⟩).IsOf missingScriptFiles c "p.HTM" text ∧
    (Origin.reference 0 ⟨16, ['a']⟩).IsOf missingScriptFiles c "p.HTM" text ∧
    ∃ sorted : List Origin,
      lint missingScriptFiles c "p.HTM" = .ok (sorted.map (Origin.warning "p.HTM" text)) ∧
      sorted.Nodup ∧
      (∀ o, o ∈ sorted ↔ o.IsOf missingScriptFiles c "p.HTM" text) ∧
      sorted.Pairwise fun a b =>
        let p := (a.warning "p.HTM" text).position
        let q := (b.warning "p.HTM" text).position
        p < q ∨ (p = q ∧ a.Precedes b) := by
  intro c text
  have hread : missingScriptFiles.read "p.HTM" = .ok missingScript := by decide +kernel
  refine ⟨hread, ?_, ?_, lint_eq_origins missingScriptFiles c "p.HTM" missingScript hread⟩
  · exact ⟨⟨_, rfl, rfl⟩, by decide, by decide, by decide +kernel⟩
  · exact ⟨⟨"HTM", by decide +kernel, .inr (by decide +kernel)⟩, by decide +kernel, by decide +kernel⟩

end PolicyLint.Scan
