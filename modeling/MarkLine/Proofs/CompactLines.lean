import MarkLine.Proofs.Lines
import MarkLine.Report.Compact
import Mathlib.Data.List.Forall2

/-!
# Lines of compact reports

A compact report puts an error on what is meant to be one line. The path of the file and the numbers
cannot break it, but the message id, the name of the case and the message of an error are printed as
they are. A text of which each part is ended by a line feed has the lines of its parts, all of them
(`linesOf_ended`), so it has as many lines as parts only if no part goes over a line end. Hence
there is one line for each error exactly if none of the printed texts holds a line feed
(`compact_one_line_iff`).
-/

namespace MarkLine

namespace Text

/-- The lines of a text of which every line is ended by a line feed. -/
def endedLines (text : String) : List String :=
  (linesOf text).dropLast.map String.ofList

theorem length_linesOf_pos (text : String) : 0 < (linesOf text).length :=
  List.length_pos_iff.2 (linesOf_ne_nil text)

/-- A text is one line exactly if it holds no line feed. -/
theorem length_linesOf_eq_one_iff {text : String} :
    (linesOf text).length = 1 ↔ '\n' ∉ text.toList := by
  constructor
  · intro h
    obtain ⟨line, hline⟩ := List.length_eq_one_iff.1 h
    have htext : text.toList = line := by
      rw [← textOf_linesOf text, hline, textOf, List.intercalate_singleton, String.toList_ofList]
    have hmem : line ∈ linesOf text := by simp [hline]
    exact htext ▸ newline_not_mem_linesOf line hmem
  · intro h
    rw [linesOf_of_newline_not_mem h, List.length_singleton]

/-- Parts that are ended by line feeds are cut into their own lines. -/
theorem linesOf_ended (parts : List String) :
    linesOf (String.join (parts.map (· ++ "\n"))) = parts.flatMap linesOf ++ [[]] := by
  induction parts with
  | nil => rfl
  | cons part parts ih =>
    have hpart : String.join ((part :: parts).map (· ++ "\n")) =
        part ++ "\n" ++ String.join (parts.map (· ++ "\n")) := by
      simp
    rw [hpart, linesOf_join, ih, List.flatMap_cons, List.append_assoc]

theorem endedLines_join (parts : List String) :
    endedLines (String.join (parts.map (· ++ "\n"))) =
      (parts.flatMap linesOf).map String.ofList := by
  rw [endedLines, linesOf_ended, List.dropLast_concat]

/-- Each part has a line at least, so there are more lines than parts as soon as one part has two.
-/
theorem length_flatMap_linesOf_le (parts : List String) :
    parts.length ≤ (parts.flatMap linesOf).length := by
  induction parts with
  | nil => simp
  | cons part parts ih =>
    have hpos := length_linesOf_pos part
    simp only [List.length_cons, List.flatMap_cons, List.length_append]
    omega

theorem newline_not_mem_of_length {parts : List String}
    (h : (parts.flatMap linesOf).length = parts.length) :
    ∀ part ∈ parts, '\n' ∉ part.toList := by
  induction parts with
  | nil => simp
  | cons part parts ih =>
    have hpos := length_linesOf_pos part
    have hrest := length_flatMap_linesOf_le parts
    simp only [List.length_cons, List.flatMap_cons, List.length_append] at h
    refine List.forall_mem_cons.2 ⟨length_linesOf_eq_one_iff.1 (by omega), ih (by omega)⟩

theorem endedLines_of_newline_not_mem {parts : List String}
    (h : ∀ part ∈ parts, '\n' ∉ part.toList) :
    endedLines (String.join (parts.map (· ++ "\n"))) = parts := by
  rw [endedLines_join]
  induction parts with
  | nil => rfl
  | cons part parts ih =>
    obtain ⟨hpart, hparts⟩ := List.forall_mem_cons.1 h
    simp [linesOf_of_newline_not_mem hpart, ih hparts]

end Text

namespace SuiteReport

/-! ## One line for each error -/

def errorCount (r : SuiteReport) : Nat :=
  (r.cases.flatMap (·.errors)).length + r.errors.length

/-- A text has one line for each error of some reports, in their order, and each line starts with
the path of its report's file. -/
def OneLineEach (reports : List SuiteReport) (text : String) : Prop :=
  List.Forall₂ (fun (file line : String) => (file ++ ":").toList <+: line.toList)
    (reports.flatMap fun r => List.replicate r.errorCount r.file) (Text.endedLines text)

/-- None of the texts that a compact report prints as they are goes over a line end. -/
def Unbroken (r : SuiteReport) : Prop :=
  (∀ c ∈ r.cases, ∀ e ∈ c.errors, '\n' ∉ e.messageId.toList ∧ '\n' ∉ c.name.toList) ∧
    ∀ e ∈ r.errors, '\n' ∉ e.message.toList

instance : DecidablePred Unbroken := fun r =>
  inferInstanceAs (Decidable ((∀ c ∈ r.cases, ∀ e ∈ c.errors, _ ∧ _) ∧ ∀ e ∈ r.errors, _))

section
variable {r : SuiteReport} {file : String}

theorem newline_not_mem_toDigits (n : Nat) : '\n' ∉ Nat.toDigits 10 n := by
  intro h
  have hdigit := Nat.isDigit_of_mem_toDigits (by decide) (by decide) h
  exact absurd hdigit (by decide)

theorem newline_not_mem_shownName {c : FailingCase} :
    '\n' ∉ c.shownName.toList ↔ '\n' ∉ c.name.toList := by
  rw [FailingCase.shownName]
  split
  · next h => simp [h]
  · rfl

theorem newline_not_mem_expectationLine (hfile : '\n' ∉ file.toList) {c : FailingCase}
    {e : Expectation} :
    '\n' ∉ (expectationLine file c e).toList ↔
      '\n' ∉ e.messageId.toList ∧ '\n' ∉ c.name.toList := by
  simp [expectationLine, hfile, newline_not_mem_toDigits, newline_not_mem_shownName]

theorem newline_not_mem_errorLine (hfile : '\n' ∉ file.toList) {e : ReportError} :
    '\n' ∉ (errorLine file e).toList ↔ '\n' ∉ e.message.toList := by
  cases e with
  | file message => simp [errorLine, ReportError.case?, hfile]
  | case failure =>
    simp [errorLine, ReportError.case?, hfile, Draft.item, newline_not_mem_toDigits]

theorem newline_not_mem_compactLines (hfile : '\n' ∉ r.file.toList) :
    (∀ line ∈ r.compactLines, '\n' ∉ line.toList) ↔ r.Unbroken := by
  simp only [compactLines, List.forall_mem_append, List.forall_mem_flatMap, List.forall_mem_map,
    newline_not_mem_expectationLine hfile, newline_not_mem_errorLine hfile, Unbroken]

theorem length_compactLines (r : SuiteReport) : r.compactLines.length = r.errorCount := by
  simp [compactLines, errorCount, List.length_flatMap]

theorem file_starts_compactLines :
    ∀ line ∈ r.compactLines, (r.file ++ ":").toList <+: line.toList := by
  have hstart : ∀ rest : String, (r.file ++ ":").toList <+: (r.file ++ ":" ++ rest).toList :=
    fun rest => by simp
  intro line hline
  rcases List.mem_append.1 hline with hline | hline
  · obtain ⟨c, -, hline⟩ := List.mem_flatMap.1 hline
    obtain ⟨e, -, rfl⟩ := List.mem_map.1 hline
    simp only [expectationLine, String.append_assoc]
    simpa only [String.append_assoc] using hstart _
  · obtain ⟨e, -, rfl⟩ := List.mem_map.1 hline
    simp only [errorLine, String.append_assoc]
    simpa only [String.append_assoc] using hstart _

theorem forall₂_replicate_length {α β : Type} {R : α → β → Prop} {a : α} {items : List β}
    (h : ∀ x ∈ items, R a x) : List.Forall₂ R (List.replicate items.length a) items := by
  induction items with
  | nil => exact .nil
  | cons x items ih =>
    obtain ⟨hx, hitems⟩ := List.forall_mem_cons.1 h
    exact .cons hx (ih hitems)

theorem forall₂_compactLines (r : SuiteReport) :
    List.Forall₂ (fun (file line : String) => (file ++ ":").toList <+: line.toList)
      (List.replicate r.errorCount r.file) r.compactLines := by
  rw [← length_compactLines]
  exact forall₂_replicate_length file_starts_compactLines

end

/-! ## Compact reports -/

section
variable {reports : List SuiteReport}

/-- The lines of unbroken reports are the ones that were written for their errors. -/
theorem endedLines_compact (hfiles : ∀ r ∈ reports, '\n' ∉ r.file.toList)
    (h : ∀ r ∈ reports, r.Unbroken) :
    Text.endedLines (compact reports) = reports.flatMap compactLines := by
  refine Text.endedLines_of_newline_not_mem (List.forall_mem_flatMap.2 fun r hr => ?_)
  exact (newline_not_mem_compactLines (hfiles r hr)).2 (h r hr)

theorem oneLineEach_of_unbroken (hfiles : ∀ r ∈ reports, '\n' ∉ r.file.toList)
    (h : ∀ r ∈ reports, r.Unbroken) : OneLineEach reports (compact reports) := by
  rw [OneLineEach, endedLines_compact hfiles h]
  refine List.rel_flatMap (List.forall₂_same.2 fun _ _ => rfl) ?_
  rintro r _ rfl
  exact forall₂_compactLines r

theorem unbroken_of_oneLineEach (hfiles : ∀ r ∈ reports, '\n' ∉ r.file.toList)
    (h : OneLineEach reports (compact reports)) : ∀ r ∈ reports, r.Unbroken := by
  -- As many lines as errors, so as many as there are parts of the text.
  have hlength : ((reports.flatMap compactLines).flatMap linesOf).length =
      (reports.flatMap compactLines).length := by
    have hlines := h.length_eq
    rw [compact, Text.endedLines_join, List.length_map] at hlines
    rw [← hlines]
    simp [List.length_flatMap, length_compactLines]
  intro r hr
  rw [← newline_not_mem_compactLines (hfiles r hr)]
  intro line hline
  exact Text.newline_not_mem_of_length hlength line (List.mem_flatMap.2 ⟨r, hr, hline⟩)

end

end SuiteReport

open SuiteReport

theorem file_report (w : World) (file : String) : (w.report file).file = file := by
  unfold World.report
  split
  · rfl
  · split <;> rfl

/-- **When a compact report is one line for each error.** For files without a line feed in their
paths, there is one line for each error, and it starts with its file, exactly if no message id that
is expected, no name of its case and no message of an error holds a line feed; and then the lines
are the ones written for the errors, in their order. -/
theorem compact_one_line_iff (w : World) (files : List String)
    (hfiles : ∀ file ∈ files, '\n' ∉ file.toList) :
    (OneLineEach (files.map w.report) (compact (files.map w.report)) ↔
      ∀ r ∈ files.map w.report, r.Unbroken) ∧
    ((∀ r ∈ files.map w.report, r.Unbroken) →
      Text.endedLines (compact (files.map w.report)) =
        (files.map w.report).flatMap compactLines) := by
  have hreports : ∀ r ∈ files.map w.report, '\n' ∉ r.file.toList := by
    refine List.forall_mem_map.2 fun file hfile => ?_
    rw [file_report]
    exact hfiles file hfile
  exact ⟨⟨unbroken_of_oneLineEach hreports, oneLineEach_of_unbroken hreports⟩,
    endedLines_compact hreports⟩

/-- A suite whose message id goes over a line end, and one whose message id does not. -/
def brokenMessageId : World where
  tree := .directory
    [("a.fixture.toml", .file
        "[[invalid]]\ndescription=''\nannotated_source=\"x\\n~\"\nmessage_id=\"a\\nb\"".toUTF8),
     ("b.fixture.toml", .file
        "[[invalid]]\ndescription='n'\nannotated_source=\"x\\n~\"\nmessage_id='m'".toUTF8)]
  workingDir := []
  home := none
  configDir := none

/-- The second suite has one error and one line. -/
theorem brokenMessageId_one_line :
    (∀ file ∈ ["b.fixture.toml"], '\n' ∉ file.toList) ∧
      (∀ r ∈ ["b.fixture.toml"].map brokenMessageId.report, r.Unbroken) ∧
      OneLineEach (["b.fixture.toml"].map brokenMessageId.report)
        (compact (["b.fixture.toml"].map brokenMessageId.report)) ∧
      Text.endedLines (compact (["b.fixture.toml"].map brokenMessageId.report)) =
        ["b.fixture.toml:1:1: m [n]"] := by
  have hfiles : ∀ file ∈ ["b.fixture.toml"], '\n' ∉ file.toList := by decide +kernel
  have hunbroken : ∀ r ∈ ["b.fixture.toml"].map brokenMessageId.report, r.Unbroken := by
    decide +kernel
  obtain ⟨heach, hlines⟩ := compact_one_line_iff brokenMessageId ["b.fixture.toml"] hfiles
  exact ⟨hfiles, hunbroken, heach.2 hunbroken, (hlines hunbroken).trans (by decide +kernel)⟩

/-- The first has one error and two lines, of which the second does not name the file. -/
theorem brokenMessageId_two_lines :
    '\n' ∉ "a.fixture.toml".toList ∧
      (brokenMessageId.report "a.fixture.toml").errorCount = 1 ∧
      compact [brokenMessageId.report "a.fixture.toml"] =
        "a.fixture.toml:1:1: a\nb [<unnamed>]\n" ∧
      ¬ OneLineEach [brokenMessageId.report "a.fixture.toml"]
        (compact [brokenMessageId.report "a.fixture.toml"]) := by
  refine ⟨by decide, by decide +kernel, by decide +kernel, fun h => ?_⟩
  exact absurd h.length_eq (by decide +kernel)

end MarkLine
