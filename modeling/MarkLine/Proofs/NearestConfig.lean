import MarkLine.ProjectCheck
import MarkLine.Proofs.ConfigSearch
import MarkLine.Proofs.FileTrees

/-!
# The nearest configuration

Of the directories from the checked one up, the deepest that holds a configuration file counts, and
only within that directory is the plain name preferred to the hidden one (`NearestConfig`). With the
named file before it and the global one after it this says where a configuration comes from
(`Originates`), and there is no other way for one to come about (`configOriginWith_iff_originates`).

A check of a project looks for its configuration file on its own and in the project only. Both
searches end at the same file unless the plain name is taken by a directory: the check of the
project asks whether there is anything under a name, the other search whether there is a file
(`project_check_config_iff`).
-/

namespace MarkLine

namespace World

/-! ## Nearest directories -/

/-- The configuration file that is found from the directory at the end of `names`: the deepest
directory on the way there that holds one, and its name in there. -/
structure NearestConfig (w : World) (names directory : List String) (name : String) : Prop where
  leads : directory <+: names
  holds : w.HasConfig directory
  deepest : ∀ other, other <+: names → w.HasConfig other → other.length ≤ directory.length
  name_eq : name = if w.isFileAt (directory ++ ["lint-fixture.toml"]) then "lint-fixture.toml"
    else ".lint-fixture.toml"

section
variable {w : World} {names directory : List String} {name checked : String}

theorem hasConfig_iff : w.HasConfig directory ↔
    w.isFileAt (directory ++ ["lint-fixture.toml"]) = true ∨
      w.isFileAt (directory ++ [".lint-fixture.toml"]) = true := by
  simp [HasConfig, configNames]

/-- In one directory the plain name is preferred. -/
theorem configAt_of_hasConfig (h : w.HasConfig directory) :
    w.configAt directory = some (if w.isFileAt (directory ++ ["lint-fixture.toml"]) then
      "lint-fixture.toml" else ".lint-fixture.toml") := by
  rw [hasConfig_iff] at h
  cases hplain : w.isFileAt (directory ++ ["lint-fixture.toml"]) with
  | true => simp [configAt, configNames, hplain]
  | false =>
    have hhidden := h.resolve_left (by simp [hplain])
    simp [configAt, configNames, hplain, hhidden]

theorem NearestConfig.configAt (h : w.NearestConfig names directory name) :
    w.configAt directory = some name := by
  rw [configAt_of_hasConfig h.holds, ← h.name_eq]

/-- The search passes over all directories below the nearest one and stops there. -/
theorem projectConfig_of_nearest (hchecked : w.resolve checked = .ok names)
    (h : w.NearestConfig names directory name) :
    w.projectConfig checked = some (Path.ofNames directory, name) := by
  obtain ⟨rest, rfl⟩ := h.leads
  rw [projectConfig_eq hchecked, Path.findSome?_upward_append]
  · exact Path.findSome?_upward_self (by simp [h.configAt])
  · intro other hbelow hleads hne
    have hnone : ¬ w.HasConfig other := fun hconfig =>
      hne (hbelow.eq_of_length_le (h.deepest other hleads hconfig)).symm
    rw [configAt_eq_none_iff.2 hnone, Option.map_none]

theorem projectConfig_of_none (hchecked : w.resolve checked = .ok names)
    (h : ∀ directory, directory <+: names → ¬ w.HasConfig directory) :
    w.projectConfig checked = none := by
  rw [projectConfig_eq hchecked, List.findSome?_eq_none_iff]
  intro directory hdirectory
  rw [configAt_eq_none_iff.2 (h directory (Path.mem_upward.1 hdirectory)), Option.map_none]

/-- If any directory on the way holds a configuration file, one of them is nearest. -/
theorem exists_nearest (hleads : directory <+: names) (h : w.HasConfig directory) :
    ∃ nearest name, w.NearestConfig names nearest name := by
  induction names using List.reverseRecOn with
  | nil =>
    refine ⟨directory, _, hleads, h, fun other hother _ => ?_, rfl⟩
    rw [List.prefix_nil.1 hother]
    exact Nat.zero_le _
  | append_singleton above last ih =>
    by_cases hlast : w.HasConfig (above ++ [last])
    · exact ⟨above ++ [last], _, List.prefix_rfl, hlast,
        fun other hother _ => hother.length_le, rfl⟩
    · -- The last directory holds none, so all is as it is for the one above.
      have habove : ∀ other, other <+: above ++ [last] → w.HasConfig other → other <+: above := by
        intro other hother hconfig
        rcases List.prefix_concat_iff.1 hother with rfl | hother
        · exact absurd hconfig hlast
        · exact hother
      obtain ⟨nearest, name, hnearest⟩ := ih (habove directory hleads h)
      exact ⟨nearest, name, hnearest.leads.trans (List.prefix_append _ _), hnearest.holds,
        fun other hother hconfig => hnearest.deepest other (habove other hother hconfig) hconfig,
        hnearest.name_eq⟩

/-- The path of a configuration file leads to it, and its directory is the one it was found in. -/
theorem configPath_leads (h : w.tree.Proper) (hname : w.configAt directory = some name) :
    w.resolve (Path.join (Path.ofNames directory) name) = .ok (directory ++ [name]) ∧
      Path.parent? (Path.join (Path.ofNames directory) name) = some (Path.ofNames directory) := by
  obtain ⟨bytes, hfile⟩ := isFileAt_iff.1 (isFileAt_of_configAt hname).2
  obtain ⟨entries, hentries⟩ := Entry.exists_directory_of_find? hfile
  obtain ⟨hnames, hlast⟩ := List.forall_mem_append.1 (h.isName_of_find? hfile)
  have hisName : Path.IsName name := hlast name List.mem_cons_self
  constructor
  · rw [resolve_join (resolve_ofNames hnames hentries) hentries hisName, hfile]
    rfl
  · rw [← Path.ofNames_concat hnames hisName]
    exact Path.parent?_ofNames hnames hisName

end

/-! ## Where a configuration comes from -/

/-- Where a configuration comes from, and the directory that it lets the search for suites start
from. -/
inductive Originates (w : World) (checked : String) (names : List String) :
    Option String → Option String → ConfigOrigin → String → Prop
  | explicit (path : String) (global : Option String) :
      Originates w checked names (some path) global (.explicit path) checked
  | project {directory : List String} {name : String} (global : Option String)
      (nearest : w.NearestConfig names directory name) :
      Originates w checked names none global (.project (Path.ofNames directory) name)
        (Path.ofNames directory)
  | global {directory : String}
      (noProject : ∀ directory, directory <+: names → ¬ w.HasConfig directory)
      (isFile : w.isFile (Path.join directory "config.toml") = true) :
      Originates w checked names none (some directory)
        (.global (Path.join directory "config.toml")) checked
  | default {global : Option String}
      (noProject : ∀ directory, directory <+: names → ¬ w.HasConfig directory)
      (noGlobal : ∀ directory, global = some directory →
        w.isFile (Path.join directory "config.toml") = false) :
      Originates w checked names none global .default checked

section
variable {w : World} {checked base : String} {names : List String} {explicit global : Option String}
  {origin : ConfigOrigin}

/-- The search ends where the rules say. -/
theorem Originates.eq (hchecked : w.resolve checked = .ok names)
    (h : w.Originates checked names explicit global origin base) :
    w.configOriginWith checked explicit global = origin ∧ origin.baseDir checked = base := by
  cases h with
  | explicit path global => exact ⟨rfl, rfl⟩
  | project global nearest =>
    simp [configOriginWith, projectConfig_of_nearest hchecked nearest, ConfigOrigin.baseDir]
  | global noProject isFile =>
    simp [configOriginWith, projectConfig_of_none hchecked noProject, globalConfig, isFile,
      ConfigOrigin.baseDir]
  | default noProject noGlobal =>
    have hglobal : global.bind w.globalConfig = none := by
      cases global with
      | none => rfl
      | some directory => simp [globalConfig, noGlobal directory rfl]
    simp [configOriginWith, projectConfig_of_none hchecked noProject, hglobal, ConfigOrigin.baseDir]

/-- One of the rules always applies. -/
theorem exists_originates (w : World) (checked : String) (names : List String)
    (explicit global : Option String) :
    ∃ origin base, w.Originates checked names explicit global origin base := by
  cases explicit with
  | some path => exact ⟨_, _, .explicit path global⟩
  | none =>
    by_cases hproject : ∃ directory, directory <+: names ∧ w.HasConfig directory
    · obtain ⟨directory, hleads, hconfig⟩ := hproject
      obtain ⟨nearest, name, hnearest⟩ := exists_nearest hleads hconfig
      exact ⟨_, _, .project global hnearest⟩
    · have hnone : ∀ directory, directory <+: names → ¬ w.HasConfig directory :=
        fun directory hleads hconfig => hproject ⟨directory, hleads, hconfig⟩
      cases global with
      | none => exact ⟨_, _, .default hnone (by simp)⟩
      | some directory =>
        cases hfile : w.isFile (Path.join directory "config.toml") with
        | true => exact ⟨_, _, .global hnone hfile⟩
        | false =>
          refine ⟨_, _, .default hnone fun other hother => ?_⟩
          rw [← Option.some.inj hother, hfile]

end

end World

open World

/-- **The nearest configuration is found.** For a directory, a configuration that is named or not
and a global directory or none, the configuration comes from where the rules of `Originates` say and
the search for suites starts from the directory they say. The path of a project's file leads to the
file, and the directory that holds it is the one the search starts from. -/
theorem configOriginWith_iff_originates {w : World} {checked : String} (h : w.tree.Proper)
    (hchecked : w.isDirectory checked = true) (explicit global : Option String) :
    ∃ names, w.resolve checked = .ok names ∧
      (∀ origin base, w.configOriginWith checked explicit global = origin ∧
          origin.baseDir checked = base ↔
        w.Originates checked names explicit global origin base) ∧
      ∀ directory name, w.NearestConfig names directory name →
        w.resolve (Path.join (Path.ofNames directory) name) = .ok (directory ++ [name]) ∧
        Path.parent? (Path.join (Path.ofNames directory) name) = some (Path.ofNames directory) := by
  obtain ⟨names, -, hnames, -⟩ := isDirectory_iff.1 hchecked
  refine ⟨names, hnames, fun origin base => ⟨?_, Originates.eq hnames⟩, ?_⟩
  · rintro ⟨rfl, rfl⟩
    obtain ⟨origin, base, horigin⟩ := exists_originates w checked names explicit global
    obtain ⟨rfl, rfl⟩ := horigin.eq hnames
    exact horigin
  · intro directory name hnearest
    exact configPath_leads h hnearest.configAt

/-- A project under the hidden name, where the plain one is taken by a directory, below a project
under the plain name. -/
def hiddenBelowPlain : World where
  tree := .directory [("lint-fixture.toml", .file .empty), ("p", .directory
    [("lint-fixture.toml", .directory []), (".lint-fixture.toml", .file .empty),
     ("sub", .directory [])])]
  workingDir := ["p"]
  home := none
  configDir := none

/-- The nearer project is found, although the other has the preferred name. -/
theorem hiddenBelowPlain_nearest :
    hiddenBelowPlain.tree.Proper ∧ hiddenBelowPlain.isDirectory "sub" = true ∧
      hiddenBelowPlain.NearestConfig ["p", "sub"] ["p"] ".lint-fixture.toml" ∧
      hiddenBelowPlain.configOriginWith "sub" none (some "/") =
        .project "/p" ".lint-fixture.toml" ∧
      (ConfigOrigin.project "/p" ".lint-fixture.toml").baseDir "sub" = "/p" ∧
      hiddenBelowPlain.resolve "/p/.lint-fixture.toml" = .ok ["p", ".lint-fixture.toml"] := by
  have hproper : hiddenBelowPlain.tree.Proper := by decide
  have hchecked : hiddenBelowPlain.isDirectory "sub" = true := by decide
  have hnearest : hiddenBelowPlain.NearestConfig ["p", "sub"] ["p"] ".lint-fixture.toml" := by
    refine ⟨by decide, by decide, fun other hother hconfig => ?_, by decide⟩
    simp only [List.prefix_cons_iff, List.prefix_nil] at hother
    rcases hother with rfl | ⟨_, rfl, rfl | ⟨_, rfl, rfl⟩⟩
    · decide
    · decide
    · exact absurd hconfig (by decide)
  obtain ⟨names, hnames, horigin, hpath⟩ :=
    configOriginWith_iff_originates hproper hchecked none (some "/")
  obtain rfl : ["p", "sub"] = names := Except.ok.inj hnames
  obtain ⟨hfound, hbase⟩ := (horigin _ _).2 (.project _ hnearest)
  exact ⟨hproper, hchecked, hnearest, hfound, hbase, (hpath _ _ hnearest).1⟩

/-! ## The two searches -/

/-- Where nothing stands under the plain name, the configuration file has the hidden one. -/
theorem exists_hidden_of_plain {w : World} {names : List String} (hconfig : w.HasConfig names)
    (hplain : w.tree.find? (names ++ ["lint-fixture.toml"]) = none) :
    ∃ bytes, w.tree.find? (names ++ [".lint-fixture.toml"]) = some (.file bytes) := by
  rcases hasConfig_iff.1 hconfig with hfile | hfile
  · simp [isFileAt, hplain] at hfile
  · exact isFileAt_iff.1 hfile

/-- What a check of a project takes for its configuration file: whatever stands under the plain name
or, if nothing does, under the hidden one. -/
theorem projectConfigFile_eq {w : World} {root : String} {names : List String}
    {entries : List (String × Entry)} (hroot : w.resolve root = .ok names)
    (hentries : w.tree.find? names = some (.directory entries)) (hconfig : w.HasConfig names) :
    w.projectConfigFile root none = some (Path.join root
      (if (w.tree.find? (names ++ ["lint-fixture.toml"])).isSome then "lint-fixture.toml"
      else ".lint-fixture.toml")) := by
  have hholds : ∀ name, Path.IsName name →
      w.holds (Path.join root name) = (w.tree.find? (names ++ [name])).isSome :=
    fun name hname => by rw [holds, find?_join hroot hentries hname]
  rw [projectConfigFile, configNames, List.map, List.find?_cons, hholds _ (by decide)]
  cases hplain : (w.tree.find? (names ++ ["lint-fixture.toml"])).isSome with
  | true => rfl
  | false =>
    obtain ⟨bytes, hhidden⟩ := exists_hidden_of_plain hconfig (by simpa using hplain)
    simp [hholds ".lint-fixture.toml" (by decide), hhidden]

/-- **Where the two searches agree.** In a directory that holds a configuration file a check of the
project and a check from the command line both find one. They read the same file exactly if the
plain name is not that of a directory. -/
theorem project_check_config_iff {w : World} {root : String} {names : List String}
    (h : w.tree.Proper) (hroot : w.resolve root = .ok names) (hconfig : w.HasConfig names) :
    ∃ read directory name, w.projectConfigFile root none = some read ∧
      w.projectSettings root none = w.loadConfig read ∧
      w.configOrigin root none = .project directory name ∧
      w.resolve (Path.join directory name) = .ok (names ++ [name]) ∧
      (w.resolve read = .ok (names ++ [name]) ↔
        w.isDirectory (Path.join root "lint-fixture.toml") = false) := by
  obtain ⟨name, hname⟩ := exists_configAt hconfig
  obtain ⟨bytes, hfile⟩ := isFileAt_iff.1 (isFileAt_of_configAt hname).2
  obtain ⟨entries, hentries⟩ := Entry.exists_directory_of_find? hfile
  have hread := projectConfigFile_eq hroot hentries hconfig
  refine ⟨_, _, name, hread, by rw [projectSettings, hread],
    configOrigin_of_projectConfig (projectConfig_here hroot hname),
    (configPath_leads h hname).1, ?_⟩
  rw [configAt_of_hasConfig hconfig, Option.some.injEq] at hname
  subst hname
  rw [isDirectory, find?_join hroot hentries (by decide), isFileAt]
  have hplainName : Path.IsName "lint-fixture.toml" := by decide
  have hhiddenName : Path.IsName ".lint-fixture.toml" := by decide
  cases hplain : w.tree.find? (names ++ ["lint-fixture.toml"]) with
  | none =>
    obtain ⟨bytes, hhidden⟩ := exists_hidden_of_plain hconfig hplain
    simp [resolve_join hroot hentries hhiddenName, hhidden]
  | some entry =>
    cases entry with
    | file bytes => simp [resolve_join hroot hentries hplainName, hplain, Entry.isFile]
    | directory inner => simp [resolve_join hroot hentries hplainName, hplain, Entry.isFile]

/-- Above, where the plain name is that of a file, both read it. -/
theorem hiddenBelowPlain_same_config :
    hiddenBelowPlain.tree.Proper ∧ hiddenBelowPlain.resolve ".." = .ok [] ∧
      hiddenBelowPlain.HasConfig [] ∧
      hiddenBelowPlain.isDirectory (Path.join ".." "lint-fixture.toml") = false ∧
      ∃ read directory name, hiddenBelowPlain.projectConfigFile ".." none = some read ∧
        hiddenBelowPlain.configOrigin ".." none = .project directory name ∧
        hiddenBelowPlain.resolve (Path.join directory name) = .ok [name] ∧
        hiddenBelowPlain.resolve read = .ok [name] := by
  have hproper : hiddenBelowPlain.tree.Proper := by decide
  have hroot : hiddenBelowPlain.resolve ".." = .ok [] := rfl
  have hconfig : hiddenBelowPlain.HasConfig [] := by decide
  have hplain : hiddenBelowPlain.isDirectory (Path.join ".." "lint-fixture.toml") = false := by
    decide
  obtain ⟨read, directory, name, hread, -, horigin, hpath, hsame⟩ :=
    project_check_config_iff hproper hroot hconfig
  exact ⟨hproper, hroot, hconfig, hplain, read, directory, name, hread, horigin, hpath,
    hsame.2 hplain⟩

/-- The project itself holds a configuration file that the command line finds, and a check of the
project tries to read the directory beside it. -/
theorem hiddenBelowPlain_other_config :
    hiddenBelowPlain.isDirectory "/p" = true ∧
      hiddenBelowPlain.isFile "/p/.lint-fixture.toml" = true ∧
      hiddenBelowPlain.configOrigin "/p" none = .project "/p" ".lint-fixture.toml" ∧
      hiddenBelowPlain.projectConfigFile "/p" none = some "/p/lint-fixture.toml" ∧
      hiddenBelowPlain.projectSettings "/p" none =
        .error (.unreadable "/p/lint-fixture.toml" .isDirectory) := by
  refine ⟨by decide, by decide, by decide, by decide, by decide +kernel⟩

end MarkLine
