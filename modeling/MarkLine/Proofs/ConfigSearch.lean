import MarkLine.CommandLine.Run
import MarkLine.Proofs.Build
import MarkLine.Proofs.Paths

/-!
# The search for a configuration

A check looks for a configuration file in the directory it is given and then in one directory above
after the other. So a directory without a configuration file is passed over, and a search that
starts in it ends where a search from the directory above ends (`findSome?_upward_concat`, and for
any depth `findSome?_upward_append`).

The configuration file brings its own directory with it: of the checked path nothing is left but the
texts of failures and the log. Hence a check from anywhere below a project, as long as no other
project lies between, prints what a check of the project prints and ends as it ends
(`check_below_project`).
-/

namespace MarkLine

namespace Path

/-! ## The way up -/

section
variable {α : Type} {f : List String → Option α} {names rest : List String}

theorem findSome?_upward_self {x : α} (h : f names = some x) :
    (upward names).findSome? f = some x := by
  rcases List.eq_nil_or_concat names with rfl | ⟨above, name, rfl⟩
  · simp [upward, heads, h]
  · rw [List.concat_eq_append] at h ⊢
    rw [upward_concat, List.findSome?_cons, h]

/-- **Step.** A directory where there is nothing to find is passed over. -/
theorem findSome?_upward_concat {name : String} (h : f (names ++ [name]) = none) :
    (upward (names ++ [name])).findSome? f = (upward names).findSome? f := by
  rw [upward_concat, List.findSome?_cons, h]

/-- **Run.** So are any number of directories below one another. -/
theorem findSome?_upward_append
    (h : ∀ directory, names <+: directory → directory <+: names ++ rest → directory ≠ names →
      f directory = none) :
    (upward (names ++ rest)).findSome? f = (upward names).findSome? f := by
  induction rest using List.reverseRecOn with
  | nil => rw [List.append_nil]
  | append_singleton rest name ih =>
    have hlast : f (names ++ (rest ++ [name])) = none :=
      h _ (List.prefix_append _ _) List.prefix_rfl (by simp)
    rw [← List.append_assoc] at hlast ⊢
    rw [findSome?_upward_concat hlast]
    refine ih fun directory habove hbelow hne => h directory habove ?_ hne
    exact hbelow.trans (by simp)

end

end Path

namespace World

/-! ## Projects -/

/-- Whether a directory directly holds a configuration file, under either name. -/
def HasConfig (w : World) (directory : List String) : Prop :=
  ∃ name ∈ configNames, w.isFileAt (directory ++ [name]) = true

instance (w : World) (directory : List String) : Decidable (w.HasConfig directory) :=
  inferInstanceAs (Decidable (∃ name ∈ configNames, w.isFileAt (directory ++ [name]) = true))

section
variable {w : World} {directory names rest : List String} {checked : String}

theorem configAt_eq_none_iff : w.configAt directory = none ↔ ¬ w.HasConfig directory := by
  simp [configAt, HasConfig]

theorem exists_configAt (h : w.HasConfig directory) : ∃ name, w.configAt directory = some name := by
  cases hname : w.configAt directory with
  | none => exact absurd h (configAt_eq_none_iff.1 hname)
  | some name => exact ⟨name, rfl⟩

theorem isFileAt_of_configAt {name : String} (h : w.configAt directory = some name) :
    name ∈ configNames ∧ w.isFileAt (directory ++ [name]) = true := by
  rw [configAt] at h
  have hfile := List.find?_some h
  exact ⟨List.mem_of_find?_eq_some h, hfile⟩

theorem projectConfig_eq (h : w.resolve checked = .ok names) :
    w.projectConfig checked = (Path.upward names).findSome? fun directory =>
      (w.configAt directory).map fun name => (Path.ofNames directory, name) := by
  simp [projectConfig, h]

theorem projectConfig_here {name : String} (h : w.resolve checked = .ok names)
    (hname : w.configAt names = some name) :
    w.projectConfig checked = some (Path.ofNames names, name) := by
  rw [projectConfig_eq h]
  exact Path.findSome?_upward_self (by simp [hname])

/-- From below, across directories without a configuration file, the same project is found. -/
theorem projectConfig_below {above : String} (habove : w.resolve above = .ok names)
    (h : w.resolve checked = .ok (names ++ rest))
    (hnone : ∀ directory, names <+: directory → directory <+: names ++ rest →
      directory ≠ names → ¬ w.HasConfig directory) :
    w.projectConfig checked = w.projectConfig above := by
  rw [projectConfig_eq h, projectConfig_eq habove]
  refine Path.findSome?_upward_append fun directory hprefix hbelow hne => ?_
  rw [configAt_eq_none_iff.2 (hnone directory hprefix hbelow hne), Option.map_none]

theorem configOrigin_of_projectConfig {directory name : String}
    (h : w.projectConfig checked = some (directory, name)) :
    w.configOrigin checked none = .project directory name := by
  simp [configOrigin, configOriginWith, h]

end

end World

namespace CommandLine

/-! ## What a check depends on -/

/-- The files that a check finds are those that its configuration selects from the base directory.
-/
theorem checkedFiles_eq_ok_iff {w : World} {path : String} {config : Option String}
    {files : List String} :
    checkedFiles w path config = .ok files ↔
      ∃ settings, loadOrigin w (w.configOrigin path config) = .ok settings ∧
        discover w settings.discovery ((w.configOrigin path config).baseDir path) = .ok files := by
  simp only [checkedFiles, bind_eq_ok_iff, mapError_eq_ok_iff]

/-- So they depend on the checked path only through the origin of the configuration and the base
directory. -/
theorem checkedFiles_congr {w : World} {path path' : String} {config config' : Option String}
    (horigin : w.configOrigin path config = w.configOrigin path' config')
    (hbase : (w.configOrigin path config).baseDir path =
      (w.configOrigin path' config').baseDir path') (files : List String) :
    checkedFiles w path config = .ok files ↔ checkedFiles w path' config' = .ok files := by
  rw [checkedFiles_eq_ok_iff, checkedFiles_eq_ok_iff, hbase, horigin]

/-- A check prints the reports on the files that it finds and ends by them, and where it finds none
because of a failure it prints nothing and ends with 1, whatever the failure. -/
theorem reportOutcome_congr {w : World} {path path' : String} {config config' : Option String}
    (h : ∀ files, checkedFiles w path config = .ok files ↔ checkedFiles w path' config' = .ok files)
    (format : Format) (log log' : List Event) :
    (reportOutcome w format log (checkReports w path config)).stdout =
        (reportOutcome w format log' (checkReports w path' config')).stdout ∧
      (reportOutcome w format log (checkReports w path config)).exit =
        (reportOutcome w format log' (checkReports w path' config')).exit := by
  cases hfiles : checkedFiles w path config with
  | ok files => simp [checkReports, hfiles, (h files).1 hfiles, reportOutcome, Except.map]
  | error failure =>
    cases hfiles' : checkedFiles w path' config' with
    | ok files =>
      rw [(h files).2 hfiles'] at hfiles
      cases hfiles
    | error failure' => simp [checkReports, hfiles, hfiles', reportOutcome, Except.map]

end CommandLine

open CommandLine

/-- **A check from below sees the whole project.** The path `project` leads to a directory that
holds a configuration file, `inner` to a directory at any depth below it, and neither that one nor
any directory between holds one. Without a named configuration both find the configuration file of
that directory and take the directory for the base of the search; so they find the same files in the
same order, print the same and end alike. -/
theorem check_below_project {w : World} {project inner : String} {names rest : List String}
    (hproject : w.resolve project = .ok names) (hinner : w.resolve inner = .ok (names ++ rest))
    (hconfig : w.HasConfig names)
    (hnone : ∀ directory, names <+: directory → directory <+: names ++ rest →
      directory ≠ names → ¬ w.HasConfig directory) :
    (∃ name ∈ configNames, w.isFileAt (names ++ [name]) = true ∧
      w.configOrigin project none = .project (Path.ofNames names) name ∧
      w.configOrigin inner none = .project (Path.ofNames names) name) ∧
    (w.configOrigin project none).baseDir project = (w.configOrigin inner none).baseDir inner ∧
    (∀ files, checkedFiles w inner none = .ok files ↔ checkedFiles w project none = .ok files) ∧
    ∀ args args' verbose verbose' format,
      parse args = .ok ⟨verbose, none, .check inner format⟩ →
      parse args' = .ok ⟨verbose', none, .check project format⟩ →
      (run w args).stdout = (run w args').stdout ∧ (run w args).exit = (run w args').exit := by
  obtain ⟨name, hname⟩ := World.exists_configAt hconfig
  have hhere : w.configOrigin project none = .project (Path.ofNames names) name :=
    World.configOrigin_of_projectConfig (World.projectConfig_here hproject hname)
  have hbelow : w.configOrigin inner none = .project (Path.ofNames names) name := by
    refine World.configOrigin_of_projectConfig ?_
    rw [World.projectConfig_below hproject hinner hnone]
    exact World.projectConfig_here hproject hname
  have hfiles : ∀ files,
      checkedFiles w inner none = .ok files ↔ checkedFiles w project none = .ok files :=
    checkedFiles_congr (hbelow.trans hhere.symm) (by rw [hbelow, hhere]; rfl)
  obtain ⟨hmem, hfile⟩ := World.isFileAt_of_configAt hname
  refine ⟨⟨name, hmem, hfile, hhere, hbelow⟩, by rw [hhere, hbelow]; rfl, hfiles, ?_⟩
  intro args args' verbose verbose' format hargs hargs'
  simp only [run, hargs, hargs']
  exact reportOutcome_congr hfiles format _ _

/-- A project under the hidden name. The plain name is that of a directory, in the project and
further down. -/
def nestedProject : World where
  tree := .directory [("p", .directory
    [(".lint-fixture.toml", .file .empty), ("lint-fixture.toml", .directory []),
     ("a.fixture.toml", .file .empty),
     ("sub", .directory [("deep", .directory [("lint-fixture.toml", .directory [])])])])]
  workingDir := ["p", "sub"]
  home := none
  configDir := none

/-- From one directory above and from one below, the check is the same. -/
theorem nestedProject_check_below :
    nestedProject.resolve ".." = .ok ["p"] ∧
      nestedProject.resolve "deep" = .ok (["p"] ++ ["sub", "deep"]) ∧
      nestedProject.HasConfig ["p"] ∧
      (∀ directory, ["p"] <+: directory → directory <+: ["p"] ++ ["sub", "deep"] →
        directory ≠ ["p"] → ¬ nestedProject.HasConfig directory) ∧
      parse ["check", "deep", "-fjson"] = .ok ⟨false, none, .check "deep" .json⟩ ∧
      parse ["-v", "check", "..", "-fjson"] = .ok ⟨true, none, .check ".." .json⟩ ∧
      (∃ name ∈ configNames, nestedProject.isFileAt (["p"] ++ [name]) = true ∧
        nestedProject.configOrigin ".." none = .project "/p" name ∧
        nestedProject.configOrigin "deep" none = .project "/p" name) ∧
      (run nestedProject ["check", "deep", "-fjson"]).stdout =
        (run nestedProject ["-v", "check", "..", "-fjson"]).stdout ∧
      (run nestedProject ["check", "deep", "-fjson"]).exit =
        (run nestedProject ["-v", "check", "..", "-fjson"]).exit := by
  have hproject : nestedProject.resolve ".." = .ok ["p"] := rfl
  have hinner : nestedProject.resolve "deep" = .ok (["p"] ++ ["sub", "deep"]) := rfl
  have hconfig : nestedProject.HasConfig ["p"] := by decide
  have hnone : ∀ directory, ["p"] <+: directory → directory <+: ["p"] ++ ["sub", "deep"] →
      directory ≠ ["p"] → ¬ nestedProject.HasConfig directory := by
    rintro _ ⟨below, rfl⟩ hbelow hne
    rw [List.prefix_append_right_inj] at hbelow
    simp only [List.prefix_cons_iff, List.prefix_nil] at hbelow
    rcases hbelow with rfl | ⟨_, rfl, rfl | ⟨_, rfl, rfl⟩⟩
    · exact absurd (List.append_nil _) hne
    · decide
    · decide
  have hargs : parse ["check", "deep", "-fjson"] = .ok ⟨false, none, .check "deep" .json⟩ := rfl
  have hargs' : parse ["-v", "check", "..", "-fjson"] = .ok ⟨true, none, .check ".." .json⟩ := rfl
  obtain ⟨horigin, -, -, hruns⟩ := check_below_project hproject hinner hconfig hnone
  exact ⟨hproject, hinner, hconfig, hnone, hargs, hargs', horigin,
    hruns _ _ _ _ _ hargs hargs'⟩

end MarkLine
