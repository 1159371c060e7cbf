/-
# Which settings count

Each setting is that of the command line, else that of the settings file, else the default, whatever
the other settings are. What the command line says is taken as it is. Of what the file says only the
policy is seen from another place, which is the directory of the file: that is where it is, named or
found, and neither the working directory nor the one where the search began.

* `Settings.Chosen` : a setting that is chosen between its sources;
* `Settings.exists_parent?_of_load` : a settings file that is loaded is in a directory;
* `Settings.resolve_precedence` : the settings of a run;
* `Settings.resolve_precedence_project` : a run that has its settings from everywhere.
-/
import PolicyLint.Proofs.Path.Ancestors
import PolicyLint.Proofs.Settings.Found

namespace PolicyLint.Settings

open PolicyLint.Path (isAbsolute join parent? steps)

/-! ## Choosing -/

/-- Whether a setting is chosen by its rank: what the command line gives counts, else what the
settings file gives in the given field, else the default. `fromFile` says what a file at a path
means by what it gives. -/
structure Chosen {α β : Type} (given : Option α) (file : Option (String × Settings))
    (field : Settings → Option α) (direct : α → β) (fromFile : String → α → β) (default : β)
    (result : β) : Prop where
  first : ∀ a, given = some a → result = direct a
  second : given = none → ∀ path s a, file = some (path, s) → field s = some a →
    result = fromFile path a
  third : given = none → (∀ path s, file = some (path, s) → field s = none) → result = default

/-- **Alternatives are chosen by their rank**, those in a file from a file with nothing in it where
there is none. -/
theorem chosen_of_eq {α β : Type} {given : Option α} {file : Option (String × Settings)}
    {field : Settings → Option α} {direct : α → β} {fromFile : String → α → β} {default result : β}
    (hfield : field {} = none)
    (h : result = (given.map direct <|> (field ((file.map (·.2)).getD {})).map
      (fromFile ((file.map (·.1)).getD ""))).getD default) :
    Chosen given file field direct fromFile default result := by
  refine ⟨?_, ?_, ?_⟩
  · rintro a rfl
    exact h
  · rintro rfl path s a rfl ha
    dsimp only [Option.map_some, Option.getD_some] at h
    rw [ha] at h
    exact h
  · rintro rfl hnone
    cases file with
    | none =>
        dsimp only [Option.map_none, Option.getD_none] at h
        rw [hfield] at h
        exact h
    | some x =>
        dsimp only [Option.map_some, Option.getD_some] at h
        rw [hnone x.1 x.2 rfl] at h
        exact h

/-! ## The directory of a settings file -/

variable {w : Workspace} {path : String} {s : Settings}

/-- **A settings file that is loaded is in a directory**: it is neither nowhere nor the root. -/
theorem exists_parent?_of_load (h : load w path = .ok s) :
    ∃ directory, parent? path = some directory := by
  rw [← Option.ne_none_iff_exists']
  intro hnone
  obtain ⟨t, hfind, hfile⟩ : ∃ t, w.find path = .ok t ∧ t.isDirectory = false := by
    rw [load, Workspace.read] at h
    cases hfind : w.find path with
    | error e =>
        rw [hfind] at h
        cases h
    | ok t =>
        cases t with
        | file content => exact ⟨_, rfl, rfl⟩
        | directory entries =>
            rw [hfind] at h
            cases h
  obtain ⟨-, hne, -, here, hwalk, hat⟩ := Workspace.find_eq_ok_iff.mp hfind
  rcases Path.eq_of_parent?_eq_none hnone with hempty | ⟨habsolute, hsteps⟩
  · exact hne hempty
  · -- a path without steps leads to the root, which is walked through
    obtain ⟨q, qs, hpieces⟩ := Path.isAbsolute_iff.mp habsolute
    have hhere := Workspace.foldl_follow_of_walk hwalk
    rw [← steps, hsteps, List.foldl_nil] at hhere
    rw [hpieces] at hwalk
    have hroot := (Workspace.walk_cons_of_none (Path.step?_eq_none_iff.mpr (.inl rfl))).mp hwalk
    rw [hhere, hat] at hroot
    exact absurd hroot.1 (by rw [Option.any_some, hfile]; exact Bool.false_ne_true)

/-! ## The settings of a run -/

/-- **The settings file of a run was loaded**, from the path that is named or from the nearest. -/
theorem load_of_find {named : Option String} {start : String}
    (h : find w named start = .ok (some (path, s))) :
    load w path = .ok s ∧ (named = some path ∨ named = none ∧ discover w start = some path) := by
  cases find_eq_ok_iff.mp h with
  | named reads parses => exact ⟨load_eq_ok_iff.mpr ⟨_, reads, parses⟩, .inl rfl⟩
  | nearest isNearest reads parses =>
      exact ⟨load_eq_ok_iff.mpr ⟨_, reads, parses⟩, .inr ⟨rfl, isNearest⟩⟩

/-- The output mode with a name, or that for people. -/
def modeOf (name : String) : OutputMode := (OutputMode.ofName? name).getD .human

/-- **The settings of a run are chosen by their rank.** -/
theorem chosen_resolve (commandLine : Settings) (file : Option (String × Settings)) :
    let e := resolve commandLine file
    Chosen commandLine.dependencies file dependencies id (fun _ d => d) "bower_components"
      e.dependencies ∧
    Chosen commandLine.policy file policy some (fun path p => some (beside path p)) none e.policy ∧
    Chosen commandLine.root file root some (fun _ r => some r) none e.root ∧
    Chosen commandLine.output file output modeOf (fun _ m => modeOf m) .human e.output := by
  generalize hloaded : (file.map (·.2)).getD {} = loaded
  refine ⟨chosen_of_eq rfl ?_, chosen_of_eq rfl ?_, chosen_of_eq rfl ?_, chosen_of_eq rfl ?_⟩
  · rw [resolve, hloaded]
    cases commandLine.dependencies <;> cases loaded.dependencies <;> rfl
  · rw [resolve, hloaded]
    cases commandLine.policy <;> cases loaded.policy <;> rfl
  · rw [resolve, hloaded]
    cases commandLine.root <;> cases loaded.root <;> rfl
  · rw [resolve, hloaded]
    cases commandLine.output <;> cases loaded.output <;> rfl

/-- **Which settings count.** Let the settings file of a run be found. Each setting is that of the
command line, as it is, else that of the file, else the default; of what the file says the policy
is seen from the directory of the file, and an output mode that is unknown is that for people, also
where the other source knows one. The file is in a directory: an absolute policy stands for itself,
and another starts where the directory does and goes on from its steps. Another option on the
command line changes its own setting and no other. And the source is the file that was loaded, the
one that is named or the nearest one. -/
theorem resolve_precedence (w : Workspace) (named : Option String) (start : String)
    (commandLine : Settings) (file : Option (String × Settings))
    (hfind : find w named start = .ok file) :
    let e := resolve commandLine file
    Chosen commandLine.dependencies file dependencies id (fun _ d => d) "bower_components"
      e.dependencies ∧
    Chosen commandLine.policy file policy some (fun path p => some (beside path p)) none e.policy ∧
    Chosen commandLine.root file root some (fun _ r => some r) none e.root ∧
    Chosen commandLine.output file output modeOf (fun _ m => modeOf m) .human e.output ∧
    (∀ path s, file = some (path, s) → ∃ directory, parent? path = some directory ∧
      (∀ p, isAbsolute p = true → beside path p = p) ∧
      ∀ p, isAbsolute p = false → isAbsolute (beside path p) = isAbsolute directory ∧
        steps (beside path p).toList = steps directory.toList ++ steps p.toList) ∧
    (∀ x, resolve { commandLine with dependencies := x } file =
      { e with
        dependencies := (resolve { commandLine with dependencies := x } file).dependencies }) ∧
    (∀ x, resolve { commandLine with policy := x } file =
      { e with policy := (resolve { commandLine with policy := x } file).policy }) ∧
    (∀ x, resolve { commandLine with root := x } file =
      { e with root := (resolve { commandLine with root := x } file).root }) ∧
    (∀ x, resolve { commandLine with output := x } file =
      { e with output := (resolve { commandLine with output := x } file).output }) ∧
    e.source = file.map (·.1) ∧
    ∀ path s, file = some (path, s) →
      load w path = .ok s ∧ (named = some path ∨ named = none ∧ discover w start = some path) := by
  have hloaded : ∀ path s, file = some (path, s) →
      load w path = .ok s ∧ (named = some path ∨ named = none ∧ discover w start = some path) := by
    rintro path s rfl
    exact load_of_find hfind
  obtain ⟨hdependencies, hpolicy, hroot, houtput⟩ := chosen_resolve commandLine file
  refine ⟨hdependencies, hpolicy, hroot, houtput, ?_, fun _ => rfl, fun _ => rfl, fun _ => rfl,
    fun _ => rfl, rfl, hloaded⟩
  intro path s hfile
  obtain ⟨directory, hdirectory⟩ := exists_parent?_of_load (hloaded path s hfile).1
  have hbeside : ∀ p, beside path p = join directory p := by
    intro p
    rw [beside, hdirectory]
    rfl
  refine ⟨directory, hdirectory, ?_, ?_⟩
  · intro p hp
    rw [hbeside, join, hp]
    rfl
  · intro p hp
    rw [hbeside]
    exact Path.join_of_relative hp directory

/-- A project whose settings file gives a policy, a root and an output mode. -/
def project : Workspace :=
  ⟨.directory [("app", .directory
    [("lintrun.toml", .file (some "policy=\"p.json\"\nroot=\"r\"\noutput=\"json\"")),
      ("lib", .directory [])])], []⟩

/-- In a run below it, with another root and an unknown output mode on the command line, the policy
is that beside the file, the directory of dependencies is the default, and the output mode is that
for people. -/
theorem resolve_precedence_project :
    let commandLine : Settings := { root := some "cli", output := some "xml" }
    let file := some ("app/lintrun.toml",
      { policy := some "p.json", root := some "r", output := some "json" })
    let e := resolve commandLine file
    find project none "app/lib" = .ok file ∧
    e.dependencies = "bower_components" ∧ e.policy = some (beside "app/lintrun.toml" "p.json") ∧
    steps (beside "app/lintrun.toml" "p.json").toList = [.name "app", .name "p.json"] ∧
    e.root = some "cli" ∧ e.output = .human ∧ e.source = some "app/lintrun.toml" ∧
    resolve { commandLine with output := none } file = { e with output := .json } := by
  intro commandLine file e
  have hfind : find project none "app/lib" = .ok file := by decide +kernel
  obtain ⟨hdependencies, hpolicy, hroot, houtput, hbeside, -, -, -, hchange, hsource, -⟩ :=
    resolve_precedence project none "app/lib" commandLine file hfind
  obtain ⟨directory, hdirectory, -, hrelative⟩ := hbeside _ _ rfl
  obtain rfl : directory = "app" := by
    have happ : parent? "app/lintrun.toml" = some "app" := by decide +kernel
    exact Option.some.inj (hdirectory.symm.trans happ)
  have hnone : ∀ path s, file = some (path, s) → s.dependencies = none := by
    intro path s h
    rw [← (Prod.mk.inj (Option.some.inj h)).2]
  have hunknown : modeOf "xml" = .human := by decide +kernel
  have hjson : (resolve { commandLine with output := none } file).output = .json := by
    decide +kernel
  refine ⟨hfind, hdependencies.third rfl hnone, hpolicy.second rfl _ _ _ rfl rfl,
    (hrelative "p.json" (by decide)).2.trans (by decide +kernel), hroot.first _ rfl,
    (houtput.first _ rfl).trans hunknown, hsource, (hchange none).trans ?_⟩
  rw [hjson]

end PolicyLint.Settings
