/-
# Pages among the targets

The targets of a directory are told by how their names end, and a page by what follows the last dot
of its name. The two agree, but for a name that has nothing in front of its only dot: what follows
that dot is no extension, so a file that is named as pages end and nothing else is a target and no
page. Of every other such target each reference that leads nowhere has its warning.

* `Scan.exists_fileName?_of_mem_targets` : how the names of targets end;
* `Scan.isPage_iff_of_fileName?` : which names are those of pages;
* `Scan.mem_of_scan_eq_ok` : a warning of a target is one of the directory;
* `Scan.scan_pages` : the references of the pages among the targets;
* `Scan.scan_hiddenPage` : a target that is named as pages end and is no page.
-/
import PolicyLint.Proofs.Scan.Order
import PolicyLint.Proofs.Scan.Targets

namespace PolicyLint

/-! ## File names -/

namespace Path

variable {path : String}

/-- A path whose last piece is a name has this name. -/
theorem fileName?_of_getLast?_pieces {n : String} (hname : IsName n)
    (hlast : (pieces path.toList).getLast? = some n.toList) : fileName? path = some n := by
  obtain ⟨front, hfront⟩ := List.getLast?_eq_some_iff.mp hlast
  have hsteps : (steps path.toList).getLast? = some (.name n) := by
    rw [steps, hfront, List.filterMap_append, List.filterMap_cons_some hname.step?_eq]
    exact List.getLast?_concat
  rw [fileName?, components_eq, List.getLast?_append, hsteps]
  rfl

/-- What follows the last dot of a name is its extension, if something precedes the dot. -/
theorem extension?_of_fileName? {stem ext : String}
    (hname : fileName? path = some (stem ++ "." ++ ext)) (hext : '.' ∉ ext.toList) :
    extension? path = if stem = "" then none else some ext := by
  have hback : (stem ++ "." ++ ext).toList.reverse =
      ext.toList.reverse ++ '.' :: stem.toList.reverse := by
    simp
  have hplain : ∀ c ∈ ext.toList.reverse, decide (c ≠ '.') = true := by
    intro c hc
    rw [decide_eq_true_eq]
    exact fun heq => hext (heq ▸ List.mem_reverse.mp hc)
  have hdrop : (stem ++ "." ++ ext).toList.reverse.dropWhile (· ≠ '.') =
      '.' :: stem.toList.reverse := by
    rw [hback, List.dropWhile_append_of_pos hplain, List.dropWhile_cons_of_neg (by decide)]
  have htake : (stem ++ "." ++ ext).toList.reverse.takeWhile (· ≠ '.') = ext.toList.reverse := by
    rw [hback, List.takeWhile_append_of_pos hplain, List.takeWhile_cons_of_neg (by decide),
      List.append_nil]
  rw [extension?, hname]
  dsimp only [Option.bind_eq_bind, Option.bind_some]
  rw [hdrop, htake, List.reverse_reverse, String.ofList_toList]
  cases hstem : stem.toList.reverse with
  | nil =>
      rw [List.reverse_eq_nil_iff, String.toList_eq_nil_iff] at hstem
      rw [if_pos hstem]
  | cons c cs =>
      have hne : stem ≠ "" := by
        rintro rfl
        cases hstem
      rw [if_neg hne]

end Path

namespace Scan

variable {w : Workspace} {c : Config} {d dependencies file path : String}

/-- **The names of targets end as those of sources do.** -/
theorem exists_fileName?_of_mem_targets (hd : d ≠ "") (h : file ∈ targets w d dependencies) :
    ∃ stem, ∃ ending ∈ sourceEnds, Path.fileName? file = some (stem ++ ending) := by
  obtain ⟨names, hnames, hsource, hpath⟩ :=
    exists_names_of_mem_sources hd (mem_sources_of_mem_targets h).1
  have hne := ne_nil_of_any_isSource hsource
  obtain ⟨stem, ending, hending, hlast⟩ := any_isSource_iff.mp hsource
  rw [List.getLast?_eq_some_getLast hne, Option.some.injEq] at hlast
  refine ⟨stem, ending, hending, ?_⟩
  rw [← hlast]
  exact Path.fileName?_of_getLast?_pieces (hnames _ (List.getLast_mem hne))
    (getLast?_pieces_of_pathBelow? hne hnames hpath)

/-! ## Pages -/

/-- **Which names are those of pages:** those that end as pages do and have something in front. -/
theorem isPage_iff_of_fileName? {stem ending : String} (hending : ending ∈ [".html", ".htm"])
    (hname : Path.fileName? file = some (stem ++ ending)) : isPage file = true ↔ stem ≠ "" := by
  obtain ⟨ext, hext, hdot, hpage⟩ : ∃ ext, ending = "." ++ ext ∧ '.' ∉ ext.toList ∧
      (ext.toLower = "html" ∨ ext.toLower = "htm") := by
    have hlower (s : String) : s.toLower.toList = s.toList.map Char.toLower := String.toList_map
    rcases List.mem_pair.mp hending with rfl | rfl
    · have hhtml : "html".toLower = "html" := String.toList_inj.mp ((hlower _).trans (by decide))
      exact ⟨"html", by decide, by decide, .inl hhtml⟩
    · have hhtm : "htm".toLower = "htm" := String.toList_inj.mp ((hlower _).trans (by decide))
      exact ⟨"htm", by decide, by decide, .inr hhtm⟩
  rw [hext, ← String.append_assoc] at hname
  rw [isPage_iff, Path.extension?_of_fileName? hname hdot]
  constructor
  · rintro ⟨e, he, -⟩ rfl
    cases he
  · intro hstem
    rw [if_neg hstem]
    exact ⟨ext, rfl, hpage⟩

/-- A reference of a page that leads nowhere has its warning. -/
theorem mem_warnings_of_resolves {text : String} {s : Span} (hpage : isPage file = true)
    (hs : s ∈ Html.imports text.toList)
    (hnowhere : Reference.resolves w c ((Path.parent? file).getD "") s.text = false) :
    ⟨file, Position.ofOffset text.toList s.offset,
      "Unable to resolve import: " ++ String.ofList s.text, true⟩ ∈ warnings w c file text := by
  refine List.mem_map.mpr ⟨.at file text.toList s.offset _ true,
    List.mem_mergeSort.mpr (List.mem_append_right _ ?_), rfl⟩
  rw [importFindings, if_pos hpage]
  refine List.mem_map.mpr ⟨s, List.mem_filter.mpr ⟨hs, ?_⟩, rfl⟩
  rw [hnowhere]
  rfl

/-! ## Directories -/

/-- **A warning of a target is one of the directory**, and each target is read. -/
theorem mem_of_scan_eq_ok {choice : Nat} {ws : List Warning} (hscan : scan w c path choice = .ok ws)
    (hfile : file ∈ targetsOf w c path) :
    ∃ text, w.read file = .ok text ∧ ∀ v ∈ warnings w c file text, v ∈ ws := by
  obtain ⟨-, parts, hparts, rfl⟩ := scan_eq_ok_iff_lint.mp hscan
  obtain ⟨part, hpart, hlint⟩ := hparts.exists_of_mem file hfile
  obtain ⟨text, hread, rfl⟩ := exists_of_lint_eq_ok hlint
  exact ⟨text, hread, fun v hv => List.mem_flatten.mpr ⟨_, hpart, hv⟩⟩

/-- **The pages among the targets of a directory.** If a directory is scanned, each of its targets
is named as sources are. One that is named as pages end is a page exactly if its name has something
in front of that; then each of its references that leads nowhere has a fatal warning at the position
where it stands. One that is named so and nothing else has no such warning. -/
theorem scan_pages (w : Workspace) (c : Config) (d : String) (choice : Nat) {ws : List Warning}
    (hdirectory : w.isDirectory d = true) (hscan : scan w c d choice = .ok ws) :
    ∀ file ∈ targets w d c.dependencies,
      (∃ stem, ∃ ending ∈ [".html", ".htm", ".js"],
        Path.fileName? file = some (stem ++ ending)) ∧
      ∀ stem, ∀ ending ∈ [".html", ".htm"], Path.fileName? file = some (stem ++ ending) →
        (isPage file = true ↔ stem ≠ "") ∧
        ∃ text, w.read file = .ok text ∧
          (stem ≠ "" → ∀ s ∈ Html.imports text.toList,
            Reference.resolves w c ((Path.parent? file).getD "") s.text = false →
              (⟨file, Position.ofOffset text.toList s.offset,
                "Unable to resolve import: " ++ String.ofList s.text, true⟩ : Warning) ∈ ws) ∧
          (stem = "" → importFindings w c file text.toList = []) := by
  intro file hfile
  refine ⟨exists_fileName?_of_mem_targets (Workspace.ne_empty_of_isDirectory hdirectory) hfile,
    fun stem ending hending hname => ?_⟩
  have hpage := isPage_iff_of_fileName? hending hname
  have htarget : file ∈ targetsOf w c d := by
    rw [targetsOf, if_pos hdirectory]
    exact hfile
  obtain ⟨text, hread, hall⟩ := mem_of_scan_eq_ok hscan htarget
  refine ⟨hpage, text, hread, fun hstem s hs hnowhere => ?_, fun hstem => ?_⟩
  · exact hall _ (mem_warnings_of_resolves (hpage.mpr hstem) hs hnowhere)
  · rw [importFindings, if_neg]
    rw [hpage, not_not]
    exact hstem

/-- A directory with one file of the given name, with a missing script. -/
def pageNamed (name : String) : Workspace :=
  ⟨.directory [("d", .directory [(name, .file (some "<script src='x.js'></script>"))])], []⟩

/-- A name with a dot in front and one in the middle is that of a page. -/
theorem scan_pages_hidden :
    let w := pageNamed ".p.htm"
    let missing : Warning := ⟨"d/.p.htm", ⟨1, 14⟩, "Unable to resolve import: x.js", true⟩
    w.isDirectory "d" = true ∧ "d/.p.htm" ∈ targets w "d" "" ∧
      ∃ ws, scan w {} "d" = .ok ws ∧ isPage "d/.p.htm" = true ∧ missing ∈ ws := by
  intro w missing
  have hdirectory : w.isDirectory "d" = true := by decide +kernel
  have hscan : scan w {} "d" = .ok [missing] := by decide +kernel
  have htarget : "d/.p.htm" ∈ targets w "d" "" := by decide +kernel
  have hname : Path.fileName? "d/.p.htm" = some (".p" ++ ".htm") := by decide +kernel
  obtain ⟨-, hends⟩ := scan_pages w {} "d" 0 hdirectory hscan _ htarget
  obtain ⟨hpage, text, hread, hmissing, -⟩ := hends ".p" ".htm" (by decide) hname
  have htext : w.read "d/.p.htm" = .ok "<script src='x.js'></script>" := by decide +kernel
  cases Except.ok.inj (hread.symm.trans htext)
  refine ⟨hdirectory, htarget, _, hscan, hpage.mpr (by decide), ?_⟩
  exact hmissing (by decide) ⟨13, "x.js".toList⟩ (by decide +kernel) (by decide +kernel)

/-- **A target that is named as pages end and nothing else.** It has a reference that leads nowhere,
but no warning. -/
theorem scan_hiddenPage :
    let w := pageNamed ".html"
    let text := "<script src='x.js'></script>"
    w.tree.IsProper ∧ w.isDirectory "d" = true ∧ "d/.html" ∈ targets w "d" "" ∧
      Path.fileName? "d/.html" = some ".html" ∧ w.read "d/.html" = .ok text ∧
      ⟨13, "x.js".toList⟩ ∈ Html.imports text.toList ∧
      Reference.resolves w {} ((Path.parent? "d/.html").getD "") "x.js".toList = false ∧
      isPage "d/.html" = false ∧ scan w {} "d" = .ok [] := by
  intro w text
  have hproper : w.tree.IsProper :=
    .directory (by decide) (by decide +kernel) (List.forall_mem_singleton.mpr
      (.directory (by decide) (by decide +kernel) (List.forall_mem_singleton.mpr (.file _))))
  exact ⟨hproper, by decide +kernel, by decide +kernel, by decide +kernel, by decide +kernel,
    by decide +kernel, by decide +kernel, by decide +kernel, by decide +kernel⟩

end Scan

end PolicyLint
