/-
# Policy documents as JSON texts

A document can be written in many ways. The members of an object stand in any order, a member that
says its default may be left out, members of other names may stand among them, and the values are
written as the grammar of JSON has them. Each of these texts is read as the document. None is read
where a known name is given twice in an object, or where a requirement has no type.

* `Json.record?_of_perm`, `Json.record?_eq_none` : the known members of an object;
* `Requirement.Renders`, `PolicyDocument.Renders` : the values that say what a document says;
* `Requirement.IsFaulty`, `PolicyDocument.IsFaulty` : values that say no document;
* `PolicyDocument.parse?_rendering` : what their texts are read as;
* `PolicyDocument.parseJson?_render_toJson` : each document has such a text.
-/
import PolicyLint.Policy.Load
import PolicyLint.Proofs.Json.RoundTrip
import PolicyLint.Proofs.Traversal

namespace PolicyLint

/-! ## Known members -/

namespace Json

/-- The members that are given, of those with the names. -/
def present (given : List (String × Option Json)) : List (String × Json) :=
  given.filterMap fun g => g.2.map (g.1, ·)

variable {given : List (String × Option Json)} {members others : List (String × Json)}

/-- No member of another name is present. -/
theorem filter_present_eq_nil {name : String} (h : name ∉ given.map Prod.fst) :
    (present given).filter (fun m => m.1 == name) = [] := by
  rw [List.filter_eq_nil_iff]
  intro m hm hname
  obtain ⟨g, hg, hm⟩ := List.mem_filterMap.mp hm
  obtain ⟨v, -, rfl⟩ := Option.map_eq_some_iff.mp hm
  exact h (eq_of_beq hname ▸ List.mem_map_of_mem hg)

/-- Of different names each has the member that is given for it. By induction on the names. -/
theorem filter_present (hnodup : (given.map Prod.fst).Nodup) {g : String × Option Json}
    (hg : g ∈ given) :
    (present given).filter (fun m => m.1 == g.1) = (g.2.map (g.1, ·)).toList := by
  induction given with
  | nil => cases hg
  | cons a given ih =>
      obtain ⟨hfresh, hnodup⟩ := List.nodup_cons.mp hnodup
      have hsplit : present (a :: given) = (a.2.map (a.1, ·)).toList ++ present given := by
        rw [present, List.filterMap_cons]
        cases a.2 <;> rfl
      rw [hsplit, List.filter_append]
      rcases List.mem_cons.mp hg with rfl | hg
      · rw [filter_present_eq_nil hfresh, List.append_nil]
        cases g.2 with
        | none => rfl
        | some v => exact List.filter_cons_of_pos (beq_self_eq_true _)
      · have hne : a.1 ≠ g.1 := fun heq => hfresh (heq ▸ List.mem_map_of_mem hg)
        rw [ih hnodup hg]
        cases a.2 with
        | none => rfl
        | some v =>
            have hother : [(a.1, v)].filter (fun m => m.1 == g.1) = [] :=
              List.filter_cons_of_neg fun heq => hne (eq_of_beq heq)
            exact congrArg (· ++ _) hother

/-- **The known members of an object**: each name has at most one, and it is the one found. -/
theorem record?_object_eq_some_iff {names : List String} {found : List (Option Json)} :
    record? names (.object members) = some found ↔
      List.Forall₂ (fun name o => members.filter (fun m => m.1 == name) =
        (o.map (name, ·)).toList) names found := by
  rw [record?, List.mapM_eq_some_iff]
  refine iff_of_eq (congrArg (List.Forall₂ · names found) ?_)
  funext name o
  apply propext
  -- a member that is found for a name has the name
  have hnamed : ∀ m ∈ members.filter (fun m => m.1 == name), m.1 = name := fun m hm =>
    eq_of_beq (List.mem_filter.mp hm).2
  generalize members.filter (fun m => m.1 == name) = here at hnamed ⊢
  rcases here with _ | ⟨⟨k, v⟩, _ | ⟨m, ms⟩⟩
  · cases o <;> simp
  · obtain rfl : k = name := hnamed _ List.mem_cons_self
    cases o <;> simp
  · cases o <;> simp

/-- The known members of an object are found in any order, among members of other names. -/
theorem record?_of_perm (hnodup : (given.map Prod.fst).Nodup)
    (hothers : ∀ m ∈ others, m.1 ∉ given.map Prod.fst)
    (hperm : members.Perm (present given ++ others)) :
    record? (given.map Prod.fst) (.object members) = some (given.map Prod.snd) := by
  rw [record?_object_eq_some_iff, List.forall₂_map_left_iff, List.forall₂_map_right_iff,
    List.forall₂_same]
  intro g hg
  have hnone : others.filter (fun m => m.1 == g.1) = [] := by
    rw [List.filter_eq_nil_iff]
    intro m hm hname
    exact hothers m hm (eq_of_beq hname ▸ List.mem_map_of_mem hg)
  have hfilter := hperm.filter (fun m => m.1 == g.1)
  rw [List.filter_append, filter_present hnodup hg, hnone, List.append_nil] at hfilter
  -- a list of at most one member has one order only
  cases hvalue : g.2 with
  | none =>
      rw [hvalue] at hfilter
      exact hfilter.eq_nil
  | some v =>
      rw [hvalue] at hfilter
      exact List.perm_singleton.mp hfilter

/-- Whether a name is given more than once. -/
def Repeats (members : List (String × Json)) (name : String) : Prop :=
  2 ≤ (members.map Prod.fst).count name

/-- An object that repeats a known name is no record. -/
theorem record?_eq_none {names : List String} {name : String} (hname : name ∈ names)
    (h : Repeats members name) : record? names (.object members) = none := by
  rw [Option.eq_none_iff_forall_ne_some]
  intro found hfound
  obtain ⟨o, -, ho⟩ := (record?_object_eq_some_iff.mp hfound).exists_of_mem name hname
  have hlength : 2 ≤ (members.filter fun m => m.1 == name).length := by
    rw [← List.countP_eq_length_filter]
    rwa [Repeats, List.count, List.countP_map] at h
  have hone : ((o.map (name, ·)).toList).length ≤ 1 := by cases o <;> simp
  rw [ho] at hlength
  omega

/-! ## What the values of members say -/

/-- The values of an object in which the given members stand in any order, among any members of
other names that are strings. -/
inductive IsObjectOf (given : List (String × Option Json)) : Json → Prop
  | object {members others : List (String × Json)}
      (areUnknown : ∀ m ∈ others, m.1 ∉ given.map Prod.fst ∧ ∃ s, m.2 = .string s)
      (inAnyOrder : members.Perm (present given ++ others)) : IsObjectOf given (.object members)

/-- The known members of such an object are those given. -/
theorem IsObjectOf.record?_eq {v : Json} {names : List String} (h : IsObjectOf given v)
    (hnames : given.map Prod.fst = names) (hnodup : names.Nodup) :
    record? names v = some (given.map Prod.snd) := by
  subst hnames
  obtain ⟨areUnknown, inAnyOrder⟩ := h
  exact record?_of_perm hnodup (fun m hm => (areUnknown m hm).1) inAnyOrder

/-- What may be given for a value: the value, or nothing if it is the default. -/
inductive Given (v : Json) (isDefault : Prop) : Option Json → Prop
  | written : Given v isDefault (some v)
  | leftOut (h : isDefault) : Given v isDefault none

/-- What is given for a value is read as the value is, if nothing is read as the default. -/
theorem Given.orDefault?_eq {β : Type} {v : Json} {isDefault : Prop} {o : Option Json}
    {default x : β} {read : Json → Option β} (h : Given v isDefault o) (hread : read v = some x)
    (hdefault : isDefault → x = default) : orDefault? default read o = some x := by
  cases h with
  | written => exact hread
  | leftOut h => exact congrArg some (hdefault h).symm

/-- The value of a list of texts. -/
def ofTexts (ss : List String) : Json := .array (ss.map .string)

/-- The value of a text or of none. -/
def ofOptionalText : Option String → Json
  | none => .null
  | some s => .string s

/-- The value of a list of texts is one that is written. -/
theorem written_ofTexts (ss : List String) : Written (ofTexts ss) :=
  .array (List.forall_mem_map.mpr fun s _ => .string s)

/-- The value of a text or of none is one that is written. -/
theorem written_ofOptionalText (o : Option String) : Written (ofOptionalText o) := by
  cases o with
  | none => exact .null
  | some s => exact .string s

/-- The value of a list of texts is read as the list. -/
theorem texts?_ofTexts (ss : List String) : (ofTexts ss).texts? = some ss := by
  rw [ofTexts, texts?, items?, Option.bind_some, List.mapM_map]
  exact (List.mapM_eq_some_map fun _ _ => rfl).trans (congrArg some (List.map_id ss))

/-- The value of a text or of none is read as it. -/
theorem optionalText?_ofOptionalText (o : Option String) :
    (ofOptionalText o).optionalText? = some o := by
  cases o <;> rfl

end Json

/-! ## Requirements -/

namespace Requirement

/-- The names of the members of a requirement. -/
def memberNames : List String := ["type", "value", "error_message", "whitelist", "level"]

/-- The values that say what a requirement says. -/
inductive Renders (r : Requirement) : Json → Prop
  | object {values message whitelist level : Option Json} {v : Json}
      (valuesGiven : Json.Given (Json.ofTexts r.values) (r.values = []) values)
      (messageGiven : Json.Given (Json.ofOptionalText r.errorMessage) (r.errorMessage = none) message)
      (whitelistGiven : Json.Given (Json.ofTexts r.whitelist) (r.whitelist = []) whitelist)
      (levelGiven : Json.Given (Json.ofOptionalText r.level) (r.level = none) level)
      (isObject : Json.IsObjectOf [("type", some (.string r.kind)), ("value", values),
        ("error_message", message), ("whitelist", whitelist), ("level", level)] v) :
      Renders r v

/-- **The values that say a requirement are read as it.** -/
theorem read?_of_renders {r : Requirement} {v : Json} (h : r.Renders v) :
    read? Json.format v = some r := by
  obtain ⟨valuesGiven, messageGiven, whitelistGiven, levelGiven, isObject⟩ := h
  have hrecord : Json.record? memberNames v = some _ := isObject.record?_eq rfl (by decide)
  have hvalues := valuesGiven.orDefault?_eq (Json.texts?_ofTexts _) id
  have hmessage := messageGiven.orDefault?_eq (Json.optionalText?_ofOptionalText _) id
  have hwhitelist := whitelistGiven.orDefault?_eq (Json.texts?_ofTexts _) id
  have hlevel := levelGiven.orDefault?_eq (Json.optionalText?_ofOptionalText _) id
  simp only [List.map_cons, List.map_nil] at hrecord
  unfold memberNames at hrecord
  simp only [read?, Json.format, hrecord, Json.text?, hvalues, hmessage, hwhitelist, hlevel,
    Option.bind_eq_bind, Option.bind_some]
  rfl

/-- A requirement as a value, with all its members. -/
def toJson (r : Requirement) : Json :=
  .object [("type", .string r.kind), ("value", Json.ofTexts r.values),
    ("error_message", Json.ofOptionalText r.errorMessage),
    ("whitelist", Json.ofTexts r.whitelist), ("level", Json.ofOptionalText r.level)]

/-- It says what the requirement says. -/
theorem renders_toJson (r : Requirement) : r.Renders r.toJson :=
  .object .written .written .written .written (.object (List.forall_mem_nil _) (.refl _))

/-- It is a value that is written. -/
theorem written_toJson (r : Requirement) : r.toJson.Written := by
  refine .object ?_
  simp only [List.forall_mem_cons]
  exact ⟨.string _, Json.written_ofTexts _, Json.written_ofOptionalText _, Json.written_ofTexts _,
    Json.written_ofOptionalText _, List.forall_mem_nil _⟩

/-- The objects that say no requirement: a known name is repeated, or there is no type. -/
inductive IsFaulty : Json → Prop
  | repeats {members : List (String × Json)} {name : String} (isKnown : name ∈ memberNames)
      (isRepeated : Json.Repeats members name) : IsFaulty (.object members)
  | noType {members : List (String × Json)} (isAbsent : "type" ∉ members.map Prod.fst) :
      IsFaulty (.object members)

/-- Nothing is read from them. -/
theorem read?_of_isFaulty {v : Json} (h : IsFaulty v) : read? Json.format v = none := by
  rw [read?]
  split
  · rename_i kind values message whitelist level hrecord
    exfalso
    cases h with
    | repeats isKnown isRepeated =>
        cases hrecord.symm.trans (Json.record?_eq_none isKnown isRepeated)
    | noType isAbsent =>
        -- the type that is found is a member of the object
        have htype := (List.forall₂_cons.mp (Json.record?_object_eq_some_iff.mp hrecord)).1
        have hmem := List.mem_singleton_self ("type", kind)
        rw [Option.map_some, Option.toList_some] at htype
        rw [← htype] at hmem
        exact isAbsent (List.mem_map_of_mem (List.mem_of_mem_filter hmem))
  · rfl

end Requirement

/-! ## Documents -/

namespace PolicyDocument

/-- The values that say what a document says. -/
inductive Renders (d : PolicyDocument) : Json → Prop
  | object {items : List Json} {requirements : Option Json} {v : Json}
      (itemsRender : List.Forall₂ Requirement.Renders d.requirements items)
      (requirementsGiven : Json.Given (.array items) (d.requirements = []) requirements)
      (isObject : Json.IsObjectOf [("requirements", requirements)] v) : Renders d v

/-- **The values that say a document are read as it.** -/
theorem read?_of_renders {d : PolicyDocument} {v : Json} (h : d.Renders v) :
    read? Json.format v = some d := by
  obtain ⟨itemsRender, requirementsGiven, isObject⟩ := h
  rename_i items requirements
  have hrecord : Json.record? ["requirements"] v = some _ := isObject.record?_eq rfl (by decide)
  have hitems : items.mapM (Requirement.read? Json.format) = some d.requirements :=
    List.mapM_eq_some_iff.mpr (itemsRender.flip.imp fun _ _ => Requirement.read?_of_renders)
  have hempty : d.requirements = [] → items = [] := by
    intro hnil
    rw [hnil] at itemsRender
    exact List.forall₂_nil_left_iff.mp itemsRender
  have hgiven : orDefault? [] Json.items? requirements = some items :=
    requirementsGiven.orDefault?_eq rfl hempty
  simp only [List.map_cons, List.map_nil] at hrecord
  simp only [read?, Json.format, hrecord, hgiven, Option.bind_eq_bind, Option.bind_some]
  exact congrArg (Option.bind · _) hitems

/-- The objects that say no document: the requirements are given more than once, or one of them has
a known name repeated or no type. -/
inductive IsFaulty : Json → Prop
  | repeats {members : List (String × Json)} (isRepeated : Json.Repeats members "requirements") :
      IsFaulty (.object members)
  | requirement {members : List (String × Json)} {items : List Json} {v : Json}
      (isListed : ("requirements", .array items) ∈ members) (isItem : v ∈ items)
      (isFaulty : Requirement.IsFaulty v) : IsFaulty (.object members)

/-- Nothing is read from them. -/
theorem read?_of_isFaulty {v : Json} (h : IsFaulty v) : read? Json.format v = none := by
  rw [read?]
  split
  · rename_i requirements hrecord
    cases h with
    | repeats isRepeated =>
        cases hrecord.symm.trans (Json.record?_eq_none (List.mem_singleton_self _) isRepeated)
    | @requirement members items v isListed isItem isFaulty =>
        -- the requirements that are found are those listed
        have hfound := (List.forall₂_cons.mp (Json.record?_object_eq_some_iff.mp hrecord)).1
        have hmem : ("requirements", Json.array items) ∈
            members.filter fun m => m.1 == "requirements" :=
          List.mem_filter.mpr ⟨isListed, rfl⟩
        rw [hfound] at hmem
        obtain rfl : requirements = some (.array items) := by
          cases requirements with
          | none => cases hmem
          | some w => rw [(Prod.mk.inj (List.mem_singleton.mp hmem)).2]
        have hitems : items.mapM (Requirement.read? Json.format) = none := by
          rw [Option.eq_none_iff_forall_ne_some]
          intro rs hrs
          obtain ⟨r, -, hr⟩ := (List.mapM_eq_some_iff.mp hrs).exists_of_mem v isItem
          cases hr.symm.trans (Requirement.read?_of_isFaulty isFaulty)
        exact congrArg (Option.bind · _) hitems
  · rfl

/-- A document as a value. -/
def toJson (d : PolicyDocument) : Json :=
  .object [("requirements", .array (d.requirements.map Requirement.toJson))]

/-- **Each document can be written**, and its compact text is read back. -/
theorem parseJson?_render_toJson (d : PolicyDocument) : parseJson? d.toJson.render = some d := by
  have hrenders : d.Renders d.toJson := by
    refine .object ?_ .written (.object (List.forall_mem_nil _) (.refl _))
    exact List.forall₂_map_right_iff.mpr (List.forall₂_same.mpr fun r _ => r.renders_toJson)
  have hwritten : d.toJson.Written := by
    refine .object ?_
    simp only [List.forall_mem_singleton]
    exact .array (List.forall_mem_map.mpr fun r _ => r.written_toJson)
  rw [parseJson?, Json.parse?_render hwritten, Option.bind_some, read?_of_renders hrenders]

/-- Where the extension does not tell another format, a text is read as JSON. -/
theorem parse?_eq_parseJson? {path : String}
    (h : ∀ e ∈ Path.extension? path, e.toLower ∉ ["toml", "yaml", "yml"]) (text : String) :
    parse? path text = parseJson? text := by
  rw [parse?]
  split
  case h_4 => rfl
  all_goals
    rename_i hextension
    obtain ⟨e, he, hlower⟩ := Option.map_eq_some_iff.mp hextension
    exact absurd (hlower ▸ h e he) (by decide)

/-- **Main.** Where the extension does not tell another format, each text of a value that says a
document is read as the document. From a text of a faulty value no document is read, and it makes
the policy file malformed. -/
theorem parse?_rendering {path : String}
    (hpath : ∀ e ∈ Path.extension? path, e.toLower ∉ ["toml", "yaml", "yml"]) {v : Json}
    {text : String} (htext : v.WritesText text) :
    (∀ d : PolicyDocument, d.Renders v → parse? path text = some d) ∧
      (IsFaulty v → parse? path text = none ∧
        Policy.parse path text = .error (.malformed path)) := by
  have hparse : parse? path text = read? Json.format v := by
    rw [parse?_eq_parseJson? hpath, parseJson?, Json.parse?_of_writesText htext, Option.bind_some]
  refine ⟨fun d hd => hparse.trans (read?_of_renders hd), fun hfaulty => ?_⟩
  have hnone := hparse.trans (read?_of_isFaulty hfaulty)
  refine ⟨hnone, ?_⟩
  rw [Policy.parse, hnone]

/-- A document with one requirement, among a member of another name. -/
def noted : Json :=
  .object [("n", .string ""), ("requirements", .array [.object [("type", .string "A")]])]

/-- It is written with a blank and with an escape for a letter that needs none. -/
theorem writesText_noted :
    noted.WritesText "\x7b \"n\":\"\",\"requirements\":[\x7b\"type\":\"\\u0041\"\x7d]\x7d" := by
  have hblank : Json.Blanks [' '] := by simp [Json.Blanks]
  have hform : Json.Form 'A' ['\\', 'u', '0', '0', '4', '1'] :=
    .unit (by decide) (.digits (.inl rfl) (.inl rfl) (.inl rfl) (.inl rfl))
  have hspells : Json.Spells "A".toList ['\\', 'u', '0', '0', '4', '1'] := .cons hform .nil
  have hunknown := Json.WritesMember.pair hblank (Json.writesString_quote "n") Json.blanks_nil
    Json.blanks_nil (.string (Json.writesString_quote "")) Json.blanks_nil
  have htype := Json.WritesMember.pair Json.blanks_nil (Json.writesString_quote "type")
    Json.blanks_nil Json.blanks_nil (.string (.quoted hspells)) Json.blanks_nil
  have hitems := Json.WritesItems.last Json.blanks_nil (.object (.last htype)) Json.blanks_nil
  have hrequirements := Json.WritesMember.pair Json.blanks_nil
    (Json.writesString_quote "requirements") Json.blanks_nil Json.blanks_nil (.array hitems)
    Json.blanks_nil
  exact .around Json.blanks_nil (.object (.more hunknown (.last hrequirements))) Json.blanks_nil
    (by decide)

/-- It is read from a file in capitals; without the type of its requirement the file is
malformed. -/
theorem parse?_noted :
    let d : PolicyDocument := ⟨[{ kind := "A" }]⟩
    let untyped : Json := .object [("requirements", .array [.object []])]
    (∀ e ∈ Path.extension? "p.JSON", e.toLower ∉ ["toml", "yaml", "yml"]) ∧
    d.Renders noted ∧ IsFaulty untyped ∧ untyped.WritesText untyped.render ∧
    parse? "p.JSON" "\x7b \"n\":\"\",\"requirements\":[\x7b\"type\":\"\\u0041\"\x7d]\x7d" = some d ∧
    Policy.parse "p.JSON" untyped.render = .error (.malformed "p.JSON") := by
  intro d untyped
  have hpath : ∀ e ∈ Path.extension? "p.JSON", e.toLower ∉ ["toml", "yaml", "yml"] := by
    decide +kernel
  have hrequirement : Requirement.Renders { kind := "A" } (.object [("type", .string "A")]) :=
    .object (.leftOut rfl) (.leftOut rfl) (.leftOut rfl) (.leftOut rfl)
      (.object (List.forall_mem_nil _) (.refl _))
  have hunknown : ∀ m ∈ [("n", Json.string "")], m.1 ∉ ["requirements"] ∧ ∃ s, m.2 = .string s := by
    simp
  have hrenders : d.Renders noted :=
    .object (.cons hrequirement .nil) .written (.object hunknown (.swap _ _ _))
  have hfaulty : IsFaulty untyped :=
    .requirement List.mem_cons_self List.mem_cons_self (.noType (by simp))
  have hwritten : untyped.WritesText untyped.render := by
    refine Json.Written.writesText_render (.object ?_)
    simp only [List.forall_mem_singleton]
    refine .array ?_
    simp only [List.forall_mem_singleton]
    exact .object (List.forall_mem_nil _)
  exact ⟨hpath, hrenders, hfaulty, hwritten,
    (parse?_rendering hpath writesText_noted).1 d hrenders,
    ((parse?_rendering hpath hwritten).2 hfaulty).2⟩

end PolicyDocument

end PolicyLint
