import MarkLine.ProjectCheck
import MarkLine.Proofs.Compilation
import MarkLine.Proofs.ConfigSearch
import MarkLine.Proofs.DiscoveredFiles

/-!
# Reports and project checks

Suite files are compiled in two places. A check from the command line makes a report on every file
and ends by the reports; a check as part of a project's tests counts the files that do not compile
and fails with one text about them. Each has its own way of telling that something went wrong.

Both ways come to the same (`checks_agree`): a report has no errors exactly if the file compiles
(`isOk_report_iff`), so one check fails exactly if the other does, and the number in the text is the
number of reports with errors. `Accounts` says what a report holds, in terms of the file.
-/

namespace MarkLine

/-! ## One report -/

/-- What a report holds about a suite that was loaded. -/
structure AccountsForCases (suite : Suite) (r : SuiteReport) : Prop where
  rule : r.rule = suite.rule
  /-- Without errors, every case is there in its built form, in the order of the suite. -/
  built : r.errors = [] →
    List.Forall₂ (fun c result => c.build = .ok result) suite.cases r.cases
  /-- Every error is that of a case, under its number and with the code and text of its fault. -/
  ofCase : ∀ e ∈ r.errors, ∃ i c fault, suite.cases[i]? = some c ∧ c.build = .error fault ∧
    e.case? = some i ∧ e.code? = some fault.code ∧ e.message = fault.message
  /-- Every case that cannot be built has an error. -/
  everyCase : ∀ (i : Nat) c fault, suite.cases[i]? = some c → c.build = .error fault →
    ∃ e ∈ r.errors, e.case? = some i
  /-- The numbers increase, so no case has two errors. -/
  increasing : r.errors.Pairwise fun e e' => ∃ i j, e.case? = some i ∧ e'.case? = some j ∧ i < j

/-- What a report holds about a file. -/
structure Accounts (w : World) (file : String) (r : SuiteReport) : Prop where
  path : r.file = file
  /-- A report without errors has the compiled cases of the file, a report with errors no case. -/
  cases : (r.errors = [] ∧ w.compileSuite file = .ok r.cases) ∨ (r.errors ≠ [] ∧ r.cases = [])
  /-- A file that cannot be loaded has one error, which belongs to no case, and no rule. -/
  unloaded : ∀ fault, w.loadSuite file = .error fault → r.rule = none ∧
    ∃ e, r.errors = [e] ∧ e.case? = none ∧ e.code? = none ∧ e.message = fault.message
  loaded : ∀ suite, w.loadSuite file = .ok suite → AccountsForCases suite r

section
variable {w : World} {file : String} {suite : Suite}

theorem compileSuite_of_load (h : w.loadSuite file = .ok suite) :
    w.compileSuite file = suite.compile.mapError .compile := by
  simp [World.compileSuite, h]

theorem report_of_unloaded {fault : SuiteFault} (h : w.loadSuite file = .error fault) :
    w.report file = { file, errors := [.file fault.message] } := by
  simp [World.report, h]

theorem report_of_compiled {cases : List FailingCase} (h : w.loadSuite file = .ok suite)
    (hcompile : suite.compile = .ok cases) :
    w.report file = { file, rule := suite.rule, cases } := by
  simp [World.report, h, hcompile]

theorem report_of_failures {failures : List CaseFailure} (h : w.loadSuite file = .ok suite)
    (hcompile : suite.compile = .error failures) :
    w.report file = { file, rule := suite.rule, errors := failures.map .case } := by
  simp [World.report, h, hcompile]

theorem accountsForCases_of_compiled {cases : List FailingCase}
    (hcompile : suite.compile = .ok cases) :
    AccountsForCases suite { file, rule := suite.rule, cases } := by
  have hbuilt := Suite.compile_eq_ok_iff.1 hcompile
  refine ⟨rfl, fun _ => hbuilt, by simp, fun i c fault hc hfault => ?_, by simp⟩
  obtain ⟨hlt, rfl⟩ := List.getElem?_eq_some_iff.1 hc
  have hok := (List.forall₂_iff_get.1 hbuilt).2 i hlt ((List.Forall₂.length_eq hbuilt) ▸ hlt)
  rw [List.get_eq_getElem, hfault] at hok
  cases hok

theorem accountsForCases_of_failures {failures : List CaseFailure}
    (hcompile : suite.compile = .error failures) :
    AccountsForCases suite { file, rule := suite.rule, errors := failures.map .case } := by
  obtain ⟨hne, rfl⟩ := Suite.compile_eq_error_iff.1 hcompile
  refine ⟨rfl, fun hnone => absurd (List.map_eq_nil_iff.1 hnone) hne, ?_, ?_, ?_⟩
  · intro e he
    obtain ⟨f, hf, rfl⟩ := List.mem_map.1 he
    obtain ⟨i, c, hc, hfault, hindex⟩ := Suite.mem_attempt_failures.1 hf
    refine ⟨i, c, f.fault, hc, hfault, ?_, rfl, rfl⟩
    simp [ReportError.case?, hindex]
  · intro i c fault hc hfault
    have hf : (⟨i, fault⟩ : CaseFailure) ∈ (Suite.attempt 0 suite.cases).2 :=
      Suite.mem_attempt_failures.2 ⟨i, c, hc, hfault, by simp⟩
    exact ⟨.case ⟨i, fault⟩, List.mem_map_of_mem hf, rfl⟩
  · refine List.pairwise_map.2 ((Suite.pairwise_attempt_failures 0 suite.cases).imp ?_)
    intro f g hlt
    exact ⟨f.index, g.index, rfl, rfl, hlt⟩

/-- Every report accounts for its file. -/
theorem accounts_report (w : World) (file : String) : Accounts w file (w.report file) := by
  cases hload : w.loadSuite file with
  | error fault =>
    rw [report_of_unloaded hload]
    refine ⟨rfl, .inr ⟨by simp, rfl⟩, fun fault' h => ?_, fun suite h => ?_⟩
    · obtain rfl := Except.error.inj (hload.symm.trans h)
      exact ⟨rfl, _, rfl, rfl, rfl, rfl⟩
    · rw [hload] at h
      cases h
  | ok suite =>
    have hloaded {r : SuiteReport} (hr : AccountsForCases suite r) :
        ∀ other, w.loadSuite file = .ok other → AccountsForCases other r := by
      intro other h
      obtain rfl := Except.ok.inj (hload.symm.trans h)
      exact hr
    have hunloaded {P : SuiteFault → Prop} :
        ∀ fault, w.loadSuite file = .error fault → P fault := by
      intro fault h
      rw [hload] at h
      cases h
    cases hcompile : suite.compile with
    | ok cases =>
      rw [report_of_compiled hload hcompile]
      refine ⟨rfl, .inl ⟨rfl, ?_⟩, hunloaded, hloaded (accountsForCases_of_compiled hcompile)⟩
      rw [compileSuite_of_load hload, hcompile]
      rfl
    | error failures =>
      rw [report_of_failures hload hcompile]
      refine ⟨rfl, .inr ⟨?_, rfl⟩, hunloaded, hloaded (accountsForCases_of_failures hcompile)⟩
      simpa using (Suite.compile_eq_error_iff.1 hcompile).1

/-- A report has no errors exactly if the file compiles. -/
theorem isOk_report_iff :
    (w.report file).isOk = true ↔ ∃ cases, w.compileSuite file = .ok cases := by
  rw [SuiteReport.isOk, List.isEmpty_iff]
  constructor
  · intro hnone
    rcases (accounts_report w file).cases with ⟨-, hcases⟩ | ⟨hne, -⟩
    · exact ⟨_, hcases⟩
    · exact absurd hnone hne
  · rintro ⟨cases, hcases⟩
    cases hload : w.loadSuite file with
    | error fault => simp [World.compileSuite, hload] at hcases
    | ok suite =>
      rw [compileSuite_of_load hload, mapError_eq_ok_iff] at hcases
      rw [report_of_compiled hload hcases]

end

/-! ## All files -/

def failedReports (reports : List SuiteReport) : Nat :=
  reports.countP fun r => !r.isOk

def failureHead (failed total : Nat) : String :=
  "\n=== lint-fixture: " ++ toString failed ++ " of " ++ toString total ++
    " suite file(s) failed ===\n\n"

section
variable {w : World} {root : String} {files : List String}

/-- The files that a project check counts as failed are those whose reports have errors. -/
theorem length_failedSuites (w : World) (root : String) (files : List String) :
    (w.failedSuites root files).length = failedReports (files.map w.report) := by
  rw [World.failedSuites, List.length_filterMap_eq_countP, failedReports, List.countP_map]
  refine List.countP_congr fun file _ => ?_
  have hok : (w.report file).isOk = true ↔ ∃ cases, w.compileSuite file = .ok cases :=
    isOk_report_iff
  cases hcompile : w.compileSuite file with
  | ok cases => simp [hok.2 ⟨cases, hcompile⟩]
  | error fault =>
    have hnot : ¬ (w.report file).isOk = true := by
      rw [hok, hcompile]
      simp
    simp [hnot]

theorem checkFiles_eq_error_iff {fault : ProjectFault} :
    w.checkFiles root files = .error fault ↔
      w.failedSuites root files ≠ [] ∧
        fault = .suites files.length (w.failedSuites root files) := by
  cases h : w.failedSuites root files with
  | nil => simp [World.checkFiles, h]
  | cons first rest => simp [World.checkFiles, h, eq_comm]

/-- A project check fails exactly if there is a report with errors. -/
theorem checkFiles_fails_iff :
    (∃ fault, w.checkFiles root files = .error fault) ↔
      0 < failedReports (files.map w.report) := by
  rw [← length_failedSuites w root, List.length_pos_iff]
  constructor
  · rintro ⟨fault, h⟩
    exact (checkFiles_eq_error_iff.1 h).1
  · intro hne
    exact ⟨_, checkFiles_eq_error_iff.2 ⟨hne, rfl⟩⟩

/-- A project check compiles the files that its configuration selects. -/
theorem checkProject_of_found {config : Option String} {settings : Config}
    (hsettings : w.projectSettings root config = .ok settings)
    (hfound : discover w settings.discovery root = .ok files) :
    w.checkProject root config = w.checkFiles root files := by
  simp [World.checkProject, hsettings, hfound, Except.mapError, bind, Except.bind]

end

namespace CommandLine

/-- A command that prints reports ends with 1 exactly if one of them has errors. -/
theorem exit_reportOutcome_eq_one_iff {w : World} {format : Format} {log : List Event}
    {reports : List SuiteReport} :
    (reportOutcome w format log (.ok reports)).exit = 1 ↔ 0 < failedReports reports := by
  rw [failedReports, List.countP_pos_iff]
  by_cases h : reports.all (·.isOk) = true
  · simp only [reportOutcome, h, if_true]
    simpa using h
  · simp only [reportOutcome, if_neg h, true_iff]
    simpa using h

end CommandLine

open CommandLine

/-- A check from the command line and a project check agree on some files. -/
structure AgreeOn (w : World) (files : List String) (outcome : Outcome)
    (project : Except ProjectFault Compiled) : Prop where
  /-- One fails exactly if the other does. -/
  exit : outcome.exit = 1 ↔ ∃ fault, project = .error fault
  /-- Both fail exactly if a report has errors. -/
  fails : (∃ fault, project = .error fault) ↔ 0 < failedReports (files.map w.report)
  /-- The text about failed files counts the reports with errors. -/
  printed : ∀ fault, project = .error fault → ∃ listing,
    fault.message = failureHead (failedReports (files.map w.report)) files.length ++ listing

theorem agreeOn_files (w : World) (files : List String) (root : String) (format : Format)
    (log : List Event) :
    AgreeOn w files (reportOutcome w format log (.ok (files.map w.report)))
      (w.checkFiles root files) := by
  refine ⟨exit_reportOutcome_eq_one_iff.trans checkFiles_fails_iff.symm, checkFiles_fails_iff,
    fun fault h => ?_⟩
  obtain ⟨-, rfl⟩ := checkFiles_eq_error_iff.1 h
  rw [← length_failedSuites w root]
  exact ⟨_, rfl⟩

/-- **The two checks agree**, whatever is in the files. Every report accounts for its file. Once
some files are found, a check from the command line ends with 1 exactly if the project check of
these files fails, and so it is if a report has errors; the text of the failed project check counts
these reports. The same holds of whole runs, of a command line that asks for a check and of a
project check, wherever both find the same files. -/
theorem checks_agree (w : World) (files : List String) :
    (∀ file ∈ files, Accounts w file (w.report file)) ∧
    (∀ root format log,
      AgreeOn w files (reportOutcome w format log (.ok (files.map w.report)))
        (w.checkFiles root files)) ∧
    ∀ args invocation path format root config settings,
      parse args = .ok invocation → invocation.command = .check path format →
      checkedFiles w path invocation.config = .ok files →
      w.projectSettings root config = .ok settings →
      discover w settings.discovery root = .ok files →
      AgreeOn w files (run w args) (w.checkProject root config) := by
  refine ⟨fun file _ => accounts_report w file, agreeOn_files w files, ?_⟩
  intro args invocation path format root config settings hparse hcommand hfiles hsettings hfound
  have hexit : (run w args).exit =
      (reportOutcome w format (checkLog w path invocation.config)
        (.ok (files.map w.report))).exit := by
    simp [run, hparse, runCommand, hcommand, checkReports, hfiles, Except.map]
  rw [checkProject_of_found hsettings hfound]
  have hagree := agreeOn_files w files root format (checkLog w path invocation.config)
  exact ⟨by rw [hexit]; exact hagree.exit, hagree.fails, hagree.printed⟩

/-! ## A project with failures of both kinds -/

/-- A suite that compiles, a file that is no suite, and a suite with a case whose marker is missing.
-/
def mixedProject : World where
  tree := .directory [("p", .directory
    [("a.fixture.toml", .file
        "[[invalid]]\ndescription=''\nannotated_source=\"x\\n~\"\nmessage_id='m'".toUTF8),
     ("b.fixture.toml", .file "[".toUTF8),
     ("c.fixture.toml", .file
        "[[invalid]]\ndescription=''\nannotated_source='x'\nmessage_id='m'".toUTF8)])]
  workingDir := []
  home := none
  configDir := none

def mixedFiles : List String :=
  ["/p/./a.fixture.toml", "/p/./b.fixture.toml", "/p/./c.fixture.toml"]

theorem discover_mixedProject : discover mixedProject {} "/p" = .ok mixedFiles :=
  discoverWith_of_ordered (by decide +kernel) (by decide +kernel)

/-- Both checks of the project fail, and two of the three files are counted. -/
theorem mixedProject_checks_agree :
    parse ["check", "/p"] = .ok ⟨false, none, .check "/p" .text⟩ ∧
      checkedFiles mixedProject "/p" none = .ok mixedFiles ∧
      mixedProject.projectSettings "/p" none = .ok {} ∧
      Accounts mixedProject "/p/./c.fixture.toml" (mixedProject.report "/p/./c.fixture.toml") ∧
      (run mixedProject ["check", "/p"]).exit = 1 ∧
      ∃ fault listing, mixedProject.checkProject "/p" none = .error fault ∧
        fault.message = failureHead 2 3 ++ listing := by
  have hparse : parse ["check", "/p"] = .ok ⟨false, none, .check "/p" .text⟩ := rfl
  have hchecked : checkedFiles mixedProject "/p" none = .ok mixedFiles :=
    checkedFiles_eq_ok_iff.2 ⟨{}, rfl, discover_mixedProject⟩
  have hsettings : mixedProject.projectSettings "/p" none = .ok {} := rfl
  have hfailed : failedReports (mixedFiles.map mixedProject.report) = 2 := by
    decide +kernel
  obtain ⟨haccounts, -, hruns⟩ := checks_agree mixedProject mixedFiles
  have hagree := hruns _ _ _ _ _ _ _ hparse rfl hchecked hsettings discover_mixedProject
  obtain ⟨fault, hfault⟩ := hagree.fails.2 (by rw [hfailed]; decide)
  obtain ⟨listing, hlisting⟩ := hagree.printed fault hfault
  rw [hfailed] at hlisting
  exact ⟨hparse, hchecked, hsettings, haccounts _ (by simp [mixedFiles]),
    hagree.exit.2 ⟨fault, hfault⟩, fault, listing, hfault, hlisting⟩

end MarkLine
