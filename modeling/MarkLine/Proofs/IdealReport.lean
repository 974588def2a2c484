import MarkLine.Proofs.Build
import MarkLine.Proofs.DataEquality
import MarkLine.Proofs.Passes
import MarkLine.Proofs.SpanOrder

/-!
# The ideal report of a case

A rule that reports exactly the expected errors and gives exactly the expected text is the best a
case can ask for. Its errors are always accepted: both sides are sorted alike, since they are the
same list, and spans, message ids and data match themselves. Its fix is accepted unless the
expected text is the code itself, for a fix that leaves the code as it is counts as no fix
(`build_accepts_ideal_iff`, `fixedToItself_refuses_ideal`).
-/

namespace MarkLine

/-! ## The errors -/

/-- The diagnostic that an expectation asks for. -/
def Expectation.asReported (e : Expectation) : Reported :=
  { messageId := e.messageId, span := e.span, data := e.data }

/-- The report that a case asks for, in the order of its errors. -/
def FailingCase.idealReport (c : FailingCase) : List Reported :=
  c.errors.map Expectation.asReported

theorem comparePair_asReported (index : Nat) (e : Expectation) :
    comparePair index e e.asReported = [] := by
  unfold comparePair Expectation.asReported
  cases hdata : e.data with
  | none => simp
  | some data => simp [sameData, Json.sameFields_refl]

theorem comparePairs_asReported (k : Nat) (es : List Expectation) :
    comparePairs k es (es.map Expectation.asReported) = [] := by
  induction es generalizing k with
  | nil => simp [comparePairs]
  | cons e rest ih => simp [comparePairs, comparePair_asReported, ih]

/-- Errors that coincide stay lined up, since both sides are sorted from the same order. -/
theorem compareErrors_idealReport (c : FailingCase) :
    compareErrors c.errors c.idealReport = [] := by
  have hsort : sortReported c.idealReport = (sortExpected c.errors).map Expectation.asReported :=
    sortBySpan_map Expectation.span Reported.span Expectation.asReported (fun _ => rfl) c.errors
  unfold compareErrors
  rw [hsort, comparePairs_asReported]
  simp [FailingCase.idealReport]

/-! ## The fix -/

/-- A text passes as the fix unless it is the code. -/
theorem effectiveFix_eq_self_iff {code : String} {fixed : Option String} :
    fixed = effectiveFix code fixed ↔ fixed ≠ some code := by
  cases fixed with
  | none => simp [effectiveFix]
  | some text =>
    rw [eq_comm, effectiveFix_eq_some_iff]
    simp

theorem verify_idealReport_isOk_iff (c : FailingCase) :
    (verify c c.idealReport (c.output.bind Fixed.finalText)).isOk = true ↔
      c.output.bind Fixed.finalText ≠ some c.code := by
  rw [verify_isOk_iff, effectiveFix_eq_self_iff]
  simp [compareErrors_idealReport]

theorem verifyPasses_idealReport_isOk_iff {c : FailingCase} {texts : List String}
    (hout : c.output = some (.passes texts)) :
    (verifyPasses c c.idealReport texts).isOk = true ↔ texts.getLast? ≠ some c.code := by
  have hverify := verify_idealReport_isOk_iff c
  simp only [hout, Option.bind_some, Fixed.finalText] at hverify
  rw [verifyPasses_isOk_iff_agree hout, hverify]
  exact and_iff_left fun _ _ => rfl

/-- **A built case accepts its ideal report** exactly if the text it expects in the end is not its
own code, and so it does pass by pass. -/
theorem build_accepts_ideal_iff {m : MarkedCase} {c : FailingCase} (h : m.build = .ok c) :
    ((verify c c.idealReport (c.output.bind Fixed.finalText)).isOk = true ↔
      c.output.bind Fixed.finalText ≠ some c.code) ∧
    ∀ texts, c.output = some (.passes texts) →
      texts ≠ [] ∧
        ((verifyPasses c c.idealReport texts).isOk = true ↔ texts.getLast? ≠ some c.code) := by
  refine ⟨verify_idealReport_isOk_iff c, fun texts hout => ?_⟩
  exact ⟨MarkedCase.passes_ne_nil_of_build h hout, verifyPasses_idealReport_isOk_iff hout⟩

/-- Two markers under one character, data for one of them, and a fix in two passes. -/
def fixedInTwoPasses : MarkedCase :=
  { MarkedCase.multiple "fixed in two passes" "x\n~\n^"
      [{ messageId := "a", data := some [("name", .text "x")] },
       { marker := '^', messageId := "b" }] with
    outputs := ["y", "z"] }

def fixedToZ : FailingCase :=
  { name := "fixed in two passes", code := "x", options := []
    errors := [⟨"a", some [("name", .text "x")], ⟨1, 1, 1, 1⟩, none⟩,
      ⟨"b", none, ⟨1, 1, 1, 1⟩, none⟩]
    output := some (.passes ["y", "z"]), filename := none, only := false }

/-- It accepts its ideal report, with the last text and with all passes. -/
theorem fixedToZ_accepts_ideal :
    fixedInTwoPasses.build = .ok fixedToZ ∧
      (verify fixedToZ fixedToZ.idealReport (some "z")).isOk = true ∧
      (verifyPasses fixedToZ fixedToZ.idealReport ["y", "z"]).isOk = true := by
  have hbuild : fixedInTwoPasses.build = .ok fixedToZ := rfl
  have hideal := build_accepts_ideal_iff hbuild
  refine ⟨hbuild, hideal.1.2 ?_, (hideal.2 ["y", "z"] rfl).2.2 ?_⟩
  · simp [fixedToZ, Fixed.finalText]
  · simp [fixedToZ]

/-- A case that expects its own code as the fixed text. -/
def expectsItsCode : MarkedCase :=
  { MarkedCase.single "expects its code" "x\n~" { messageId := "id" } with output := some "x" }

def fixedToItself : FailingCase :=
  { name := "expects its code", code := "x", options := []
    errors := [⟨"id", none, ⟨1, 1, 1, 1⟩, none⟩]
    output := some (.single "x"), filename := none, only := false }

/-- It refuses its ideal report. -/
theorem fixedToItself_refuses_ideal :
    expectsItsCode.build = .ok fixedToItself ∧
      fixedToItself.output.bind Fixed.finalText = some "x" ∧
      (verify fixedToItself fixedToItself.idealReport (some "x")).isOk = false := by
  refine ⟨rfl, rfl, ?_⟩
  cbv

end MarkLine
