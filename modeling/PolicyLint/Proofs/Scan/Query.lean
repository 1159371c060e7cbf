/-
# Queries and fragments

A query and a fragment are no part of the path that a reference goes by. So what a reference leads
to is told by what stands in front of the first question mark or hash mark, and what stands behind
it has a say in one thing only: whether the reference is looked at. There an address in a query
counts like the address of the reference itself, and a reference with one is never looked at.

* `Reference.IsTrailer` : queries and fragments;
* `Reference.isExternal_append_iff` : which references with a trailer are not looked at;
* `Reference.resolves_append` : whether a reference leads to something, with a trailer;
* `Reference.resolves_address` : a missing page with an address in its query.
-/
import PolicyLint.Scan.Reference
import PolicyLint.Proofs.Text.Pieces

namespace PolicyLint.Reference

variable {path trailer more reference : List Char} {mark : Char}

/-! ## The path of a reference -/

/-- Whether a text is a query or a fragment, or empty: it begins with the mark of one. -/
def IsTrailer (trailer : List Char) : Prop :=
  trailer = [] ∨ trailer.head? = some '?' ∨ trailer.head? = some '#'

/-- Whether a text is the path of a reference: it has no query and no fragment. -/
def IsPath (path : List Char) : Prop := '?' ∉ path ∧ '#' ∉ path

instance (path : List Char) : Decidable (IsPath path) :=
  inferInstanceAs (Decidable ('?' ∉ path ∧ '#' ∉ path))

/-- A trailer that is not empty begins with a mark. -/
theorem IsTrailer.exists_cons (h : IsTrailer trailer) (hne : trailer ≠ []) :
    ∃ mark more, (mark = '?' ∨ mark = '#') ∧ trailer = mark :: more := by
  rcases h with h | h | h
  · exact absurd h hne
  · obtain ⟨more, rfl⟩ := List.head?_eq_some_iff.mp h
    exact ⟨'?', more, .inl rfl, rfl⟩
  · obtain ⟨more, rfl⟩ := List.head?_eq_some_iff.mp h
    exact ⟨'#', more, .inr rfl, rfl⟩

/-- **The path part of a reference is its path**, without the trailer. -/
theorem pathPart_append (hpath : IsPath path) (htrailer : IsTrailer trailer) :
    pathPart (path ++ trailer) = path := by
  have hplain : ∀ c ∈ path, (c ≠ '?' && c ≠ '#') = true := by
    intro c hc
    rw [Bool.and_eq_true, decide_eq_true_eq, decide_eq_true_eq]
    exact ⟨fun heq => hpath.1 (heq ▸ hc), fun heq => hpath.2 (heq ▸ hc)⟩
  have hstop : trailer.takeWhile (fun c => c ≠ '?' && c ≠ '#') = [] := by
    by_cases hne : trailer = []
    · rw [hne]
      rfl
    · obtain ⟨mark, more, hmark, rfl⟩ := htrailer.exists_cons hne
      apply List.takeWhile_cons_of_neg
      rcases hmark with rfl | rfl <;> decide
  rw [pathPart, List.takeWhile_append_of_pos hplain, hstop, List.append_nil]

/-- A path is its own path part. -/
theorem pathPart_eq_self (hpath : IsPath path) : pathPart path = path := by
  simpa using pathPart_append hpath (.inl rfl)

/-- Whether a reference leads to something hangs on its path part, if it is looked at. -/
theorem resolves_of_not_isExternal (w : Workspace) (c : Config) (directory : String)
    (h : isExternal reference = false) :
    resolves w c directory reference =
      ((pathPart reference).isEmpty || w.pathExists (direct c directory (pathPart reference))
        || (fallback? c (pathPart reference)).any w.pathExists) := by
  rw [resolves, h, Bool.false_or]

/-- A reference that is not looked at counts as one that leads to something. -/
theorem resolves_of_isExternal (w : Workspace) (c : Config) (directory : String)
    (h : isExternal reference = true) : resolves w c directory reference = true := by
  rw [resolves, h, Bool.true_or, Bool.true_or, Bool.true_or]

/-! ## References that are not looked at -/

/-- Whether a reference leads out of the files: it has the mark of an address in it, or it begins as
one, as data or as a fragment. Otherwise it is not looked at only as a template, which has two
opening braces or brackets in it. -/
theorem isExternal_iff :
    isExternal reference = true ↔
      "://".toList <:+: reference ∨ "//".toList <+: reference ∨ "data:".toList <+: reference ∨
        "#".toList <+: reference ∨ "\x7b\x7b".toList <:+: reference ∨
        "[[".toList <:+: reference := by
  simp only [isExternal, Bool.or_eq_true, Text.contains_iff, List.isPrefixOf_iff_prefix, or_assoc]

/-- A path is no fragment. -/
theorem IsPath.not_fragment (hpath : IsPath path) (hne : path ≠ []) (behind : List Char) :
    ¬ "#".toList <+: path ++ behind := by
  obtain ⟨c, cs, rfl⟩ := List.exists_cons_of_ne_nil hne
  rintro ⟨rest, hrest⟩
  exact hpath.2 ((List.cons.inj hrest).1 ▸ List.mem_cons_self)

/-- A part without the mark stands in a path or in the trailer behind it. -/
theorem infix_append_iff_of_mark {part : List Char} (hne : part ≠ []) (hmark : mark ∉ part) :
    part <:+: path ++ mark :: more ↔ part <:+: path ∨ part <:+: mark :: more := by
  have hbehind : part <:+: mark :: more ↔ part <:+: more := by
    have hempty : part <:+: [] ++ mark :: more ↔ part <:+: [] ∨ part <:+: more :=
      Text.infix_append_cons_iff hne hmark
    rwa [List.infix_nil, or_iff_right hne] at hempty
  rw [Text.infix_append_cons_iff hne hmark, hbehind]

/-- **A trailer adds one way not to be looked at**, and that is an address in it, if it has no
template in it. -/
theorem isExternal_append_iff (hne : path ≠ []) (hpath : IsPath path)
    (htrailer : IsTrailer trailer) (hbraces : ¬ "\x7b\x7b".toList <:+: trailer)
    (hbrackets : ¬ "[[".toList <:+: trailer) :
    isExternal (path ++ trailer) = true ↔
      isExternal path = true ∨ "://".toList <:+: trailer := by
  by_cases hempty : trailer = []
  · have haddress : ¬ "://".toList <:+: ([] : List Char) := by decide
    rw [hempty, List.append_nil, or_iff_left haddress]
  · obtain ⟨mark, more, hmark, rfl⟩ := htrailer.exists_cons hempty
    -- no text that counts has the mark in it
    have hnone : mark ∉ "://".toList ∧ mark ∉ "//".toList ∧ mark ∉ "data:".toList ∧
        mark ∉ "\x7b\x7b".toList ∧ mark ∉ "[[".toList := by
      rcases hmark with rfl | rfl <;> decide
    obtain ⟨haddress, hslashes, hdata, hbrace, hbracket⟩ := hnone
    have hfragment : ¬ "#".toList <+: path := by simpa using hpath.not_fragment hne []
    rw [isExternal_iff, isExternal_iff, infix_append_iff_of_mark (by decide) haddress,
      Text.prefix_append_cons_iff hslashes, Text.prefix_append_cons_iff hdata,
      or_iff_right (hpath.not_fragment hne _), or_iff_right hfragment,
      infix_append_iff_of_mark (by decide) hbrace, or_iff_left hbraces,
      infix_append_iff_of_mark (by decide) hbracket, or_iff_left hbrackets]
    exact or_right_comm

/-! ## References with a trailer -/

/-- **A query and a fragment have no part in what a reference leads to.** With a trailer a reference
leads to something exactly if its path does, as long as the trailer has neither a template nor an
address in it. With an address in it the reference is not looked at. -/
theorem resolves_append (w : Workspace) (c : Config) (directory : String)
    {path trailer : List Char} (hne : path ≠ []) (hpath : IsPath path)
    (htrailer : IsTrailer trailer) (hbraces : ¬ "\x7b\x7b".toList <:+: trailer)
    (hbrackets : ¬ "[[".toList <:+: trailer) :
    (¬ "://".toList <:+: trailer →
      resolves w c directory (path ++ trailer) = resolves w c directory path) ∧
    ("://".toList <:+: trailer → resolves w c directory (path ++ trailer) = true) := by
  have hexternal := isExternal_append_iff hne hpath htrailer hbraces hbrackets
  constructor
  · intro haddress
    rw [or_iff_left haddress, ← Bool.eq_iff_iff] at hexternal
    rw [resolves, resolves, hexternal, pathPart_append hpath htrailer, pathPart_eq_self hpath]
  · intro haddress
    exact resolves_of_isExternal w c directory (hexternal.mpr (.inr haddress))

/-- A workspace with nothing in it. -/
def nothing : Workspace := ⟨.empty, []⟩

/-- A version in the query does not make up for a missing page, but an address does. -/
theorem resolves_append_version :
    let page := "x.html".toList
    IsPath page ∧ IsTrailer "?v=1#a/b".toList ∧ IsTrailer "?u=http://e".toList ∧
      resolves nothing {} "" (page ++ "?v=1#a/b".toList) = resolves nothing {} "" page ∧
      resolves nothing {} "" (page ++ "?u=http://e".toList) = true := by
  intro page
  have hne : page ≠ [] := by decide +kernel
  have hpage : IsPath page := by decide +kernel
  have hversion : IsTrailer "?v=1#a/b".toList := .inr (.inl rfl)
  have haddress : IsTrailer "?u=http://e".toList := .inr (.inl rfl)
  have happlied := resolves_append nothing {} "" hne hpage hversion (by decide +kernel)
    (by decide +kernel)
  have happlied' := resolves_append nothing {} "" hne hpage haddress (by decide +kernel)
    (by decide +kernel)
  exact ⟨hpage, hversion, haddress, happlied.1 (by decide +kernel), happlied'.2 (by decide +kernel)⟩

/-- **An address in the query.** A missing page leads nowhere, but with an address in its query it
counts as one that leads to something. -/
theorem resolves_address :
    let page := "x.html".toList
    let query := "?u=http://e".toList
    page ≠ [] ∧ IsPath page ∧ IsTrailer query ∧ ¬ "\x7b\x7b".toList <:+: query ∧
      ¬ "[[".toList <:+: query ∧ resolves nothing {} "" page = false ∧
      resolves nothing {} "" (page ++ query) = true := by
  intro page query
  exact ⟨by decide +kernel, by decide +kernel, .inr (.inl rfl), by decide +kernel,
    by decide +kernel, by decide +kernel, by decide +kernel⟩

end PolicyLint.Reference
