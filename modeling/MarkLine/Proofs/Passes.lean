import MarkLine.Case.Marked
import MarkLine.Proofs.Comparison

/-!
# Passes of a fix

The last text of a fix is compared as the fixed text, all texts before it one by one, up to one less
than the longer of the two lists. The two checks meet at the seam: when one list is one text longer
than the other, its last text is compared with no partner.

So a list of passes that differs from the expected one is accepted exactly if the longer of the two
is the shorter with its last text once more (`verifyPasses_isOk_iff`). A rule that stops one pass
early goes unnoticed if the last two expected texts are the same (`verifyPasses_misses_a_pass`).
Which mismatches are about the fix does not depend on the diagnostics (`verifyPasses_outcome`).
-/

namespace MarkLine

/-- The second list is the first with its last text once more. -/
def RepeatsLast (texts longer : List String) : Prop :=
  ∃ last, texts.getLast? = some last ∧ longer = texts ++ [last]

theorem getLast?_of_repeatsLast {texts longer : List String} (h : RepeatsLast texts longer) :
    longer.getLast? = texts.getLast? := by
  obtain ⟨last, hlast, rfl⟩ := h
  simp [hlast]

/-- What the pass loop checks: the texts agree at every place but the last of the longer list. -/
def AgreeBeforeLast (texts others : List String) : Prop :=
  ∀ i < max texts.length others.length - 1, texts[i]? = others[i]?

theorem agreeBeforeLast_symm {texts others : List String} (h : AgreeBeforeLast texts others) :
    AgreeBeforeLast others texts :=
  fun i hi => (h i (by rwa [Nat.max_comm])).symm

theorem flatMap_comparePass_eq_nil_iff {expected passes : List String} :
    (List.range (max expected.length passes.length - 1)).flatMap (comparePass expected passes) = []
      ↔ AgreeBeforeLast expected passes := by
  simp [AgreeBeforeLast, comparePass, List.flatMap_eq_nil_iff]

/-- Agreement before the last place and equal last texts leave two shapes for the longer list. -/
theorem eq_or_repeatsLast {texts longer : List String} (hne : texts ≠ [])
    (hlen : texts.length ≤ longer.length) (hlast : texts.getLast? = longer.getLast?)
    (h : AgreeBeforeLast texts longer) : longer = texts ∨ RepeatsLast texts longer := by
  rcases List.eq_nil_or_concat longer with rfl | ⟨front, last, rfl⟩
  · exact absurd (List.length_eq_zero_iff.1 (Nat.le_zero.1 hlen)) hne
  rw [List.concat_eq_append] at *
  simp only [List.getLast?_append, List.getLast?_singleton, Option.some_or] at hlast
  simp only [List.length_append, List.length_singleton] at hlen
  have hfront : ∀ i < front.length, texts[i]? = front[i]? := by
    intro i hi
    rw [h i (by simp; omega), List.getElem?_append_left hi]
  -- Every place of `front` is one of `texts`, so the lengths differ by at most one.
  have hle : front.length ≤ texts.length := by
    rcases Nat.eq_zero_or_pos front.length with h0 | hpos
    · omega
    · have hend : texts[front.length - 1]? = some front[front.length - 1] := by
        rw [hfront _ (by omega), List.getElem?_eq_getElem]
      obtain ⟨hlt, -⟩ := List.getElem?_eq_some_iff.1 hend
      omega
  have htake : texts.take front.length = front := by
    apply List.ext_getElem?
    intro i
    rw [List.getElem?_take]
    split
    · exact hfront i (by assumption)
    · rw [List.getElem?_eq_none (by omega)]
  rcases Nat.eq_or_lt_of_le hle with heq | hlt
  · right
    rw [heq, List.take_length] at htake
    subst htake
    exact ⟨last, hlast, rfl⟩
  · left
    obtain ⟨before, hbefore⟩ := List.getLast?_eq_some_iff.1 hlast
    subst hbefore
    have hlen' : before.length = front.length := by simp at hlen hlt; omega
    rw [← hlen', List.take_left] at htake
    rw [htake]

theorem agreeBeforeLast_of_repeatsLast {texts longer : List String} (h : RepeatsLast texts longer) :
    AgreeBeforeLast texts longer := by
  obtain ⟨last, -, rfl⟩ := h
  intro i hi
  rw [List.getElem?_append_left (by simp at hi; omega)]

/-- With equal last texts, the loop accepts the expected passes and their two neighbours. -/
theorem agreeBeforeLast_iff {expected passes : List String} (hne : expected ≠ [])
    (hlast : expected.getLast? = passes.getLast?) :
    AgreeBeforeLast expected passes ↔
      passes = expected ∨ RepeatsLast expected passes ∨ RepeatsLast passes expected := by
  have hne' : passes ≠ [] := by
    rintro rfl
    exact hne (by simpa using hlast)
  constructor
  · intro h
    rcases Nat.le_total expected.length passes.length with hlen | hlen
    · rcases eq_or_repeatsLast hne hlen hlast h with heq | hrep
      · exact .inl heq
      · exact .inr (.inl hrep)
    · rcases eq_or_repeatsLast hne' hlen hlast.symm (agreeBeforeLast_symm h) with heq | hrep
      · exact .inl heq.symm
      · exact .inr (.inr hrep)
  · rintro (rfl | hrep | hrep)
    · exact fun _ _ => rfl
    · exact agreeBeforeLast_of_repeatsLast hrep
    · exact agreeBeforeLast_symm (agreeBeforeLast_of_repeatsLast hrep)

/-- Lists of passes that the loop takes for one another end with the same text. -/
theorem getLast?_eq_of_repeats {expected passes : List String}
    (h : passes = expected ∨ RepeatsLast expected passes ∨ RepeatsLast passes expected) :
    expected.getLast? = passes.getLast? := by
  rcases h with rfl | hrep | hrep
  · rfl
  · exact (getLast?_of_repeatsLast hrep).symm
  · exact getLast?_of_repeatsLast hrep

/-! ## Acceptance -/

/-- The passes are checked on top of the last text. -/
theorem verifyPasses_isOk_iff_agree {c : FailingCase} {expected : List String}
    (hout : c.output = some (.passes expected)) (reported : List Reported) (passes : List String) :
    (verifyPasses c reported passes).isOk = true ↔
      (verify c reported passes.getLast?).isOk = true ∧ AgreeBeforeLast expected passes := by
  rw [← flatMap_comparePass_eq_nil_iff]
  simp [verifyPasses, hout, Verification.isOk]

/-- An accepted fix ends with the expected last text. -/
theorem getLast?_eq_of_verify_isOk {c : FailingCase} {expected : List String}
    (hout : c.output = some (.passes expected)) (hne : expected ≠ []) {reported : List Reported}
    {fixed : Option String} (h : (verify c reported fixed).isOk = true) :
    expected.getLast? = fixed := by
  obtain ⟨-, hfix⟩ := verify_isOk_iff.1 h
  have hlast := List.getLast?_eq_some_getLast hne
  simp only [hout, Option.bind_some, Fixed.finalText, hlast] at hfix
  rw [hlast, (effectiveFix_eq_some_iff.1 hfix.symm).1]

/-- **Which passes are accepted.** Beside the expected passes, exactly those where the longer of the
two lists is the shorter with its last text once more. -/
theorem verifyPasses_isOk_iff {c : FailingCase} {expected : List String}
    (hout : c.output = some (.passes expected)) (hne : expected ≠ []) (reported : List Reported)
    (passes : List String) :
    (verifyPasses c reported passes).isOk = true ↔
      (verify c reported expected.getLast?).isOk = true ∧
        (passes = expected ∨ RepeatsLast expected passes ∨ RepeatsLast passes expected) := by
  rw [verifyPasses_isOk_iff_agree hout]
  constructor
  · rintro ⟨hok, hagree⟩
    have hlast := getLast?_eq_of_verify_isOk hout hne hok
    exact ⟨hlast ▸ hok, (agreeBeforeLast_iff hne hlast).1 hagree⟩
  · rintro ⟨hok, hshape⟩
    have hlast := getLast?_eq_of_repeats hshape
    exact ⟨hlast ▸ hok, (agreeBeforeLast_iff hne hlast).2 hshape⟩

/-- A case whose fix takes two passes. -/
def nestedCalls : FailingCase :=
  { name := "nested", code := "f(g(x));", options := []
    errors := [⟨"call", none, ⟨1, 1, 1, 7⟩, none⟩]
    output := some (.passes ["f(x_g);", "x_g_f;"]), filename := none, only := false }

/-- One pass too many, with the last text once more, is accepted. -/
theorem verifyPasses_isOk_one_too_many :
    nestedCalls.output = some (.passes ["f(x_g);", "x_g_f;"]) ∧ ["f(x_g);", "x_g_f;"] ≠ [] ∧
      (verifyPasses nestedCalls [{ messageId := "call", span := ⟨1, 1, 1, 7⟩ }]
        ["f(x_g);", "x_g_f;", "x_g_f;"]).isOk = true := by
  have hne : ["f(x_g);", "x_g_f;"] ≠ [] := by simp
  have hok : (verify nestedCalls [{ messageId := "call", span := ⟨1, 1, 1, 7⟩ }]
      (some "x_g_f;")).isOk = true := by cbv
  have hshape : RepeatsLast ["f(x_g);", "x_g_f;"] ["f(x_g);", "x_g_f;", "x_g_f;"] :=
    ⟨"x_g_f;", rfl, rfl⟩
  exact ⟨rfl, hne, (verifyPasses_isOk_iff rfl hne _ _).2 ⟨hok, .inr (.inl hshape)⟩⟩

/-- A fix in two passes that expects the same text after both. -/
def sameTextTwice : MarkedCase :=
  { MarkedCase.single "two passes" "a;;\n ~~" { messageId := "extra" } with
    outputs := ["a;\n ~", "a;"] }

def extraSemicolon : FailingCase :=
  { name := "two passes", code := "a;;", options := []
    errors := [⟨"extra", none, ⟨1, 2, 1, 3⟩, none⟩]
    output := some (.passes ["a;", "a;"]), filename := none, only := false }

/-- One pass too few is accepted where the last two expected texts are the same. -/
theorem verifyPasses_misses_a_pass :
    sameTextTwice.build = .ok extraSemicolon ∧
      (verifyPasses extraSemicolon [{ messageId := "extra", span := ⟨1, 2, 1, 3⟩ }]
        ["a;"]).isOk = true ∧ ["a;"] ≠ ["a;", "a;"] := by
  refine ⟨rfl, ?_, by simp⟩
  cbv

/-! ## Mismatches of the fix -/

/-- Whether a mismatch is about the fix: the fixed text or one of the passes. -/
def Mismatch.isFix : Mismatch → Bool
  | .output _ _ | .pass _ _ _ => true
  | .count _ _ | .span _ _ _ | .messageId _ _ _ | .data _ _ _ => false

theorem isFix_of_mem_compareErrors {errors : List Expectation} {reported : List Reported}
    {m : Mismatch} (h : m ∈ compareErrors errors reported) : m.isFix = false := by
  rcases List.mem_append.1 h with h | h
  · split at h <;> simp at h
    subst h; rfl
  · obtain ⟨i, hi, -⟩ := pair?_of_mem_comparePairs h
    cases m <;> simp [Mismatch.pair?] at hi <;> rfl

theorem isFix_of_mem_compareOutput {expected actual : Option String} {m : Mismatch}
    (h : m ∈ compareOutput expected actual) : m.isFix = true := by
  unfold compareOutput at h
  split at h <;> simp at h
  subst h; rfl

theorem compareOutput_eq_nil_iff {expected actual : Option String} :
    compareOutput expected actual = [] ↔ expected = actual := by
  simp [compareOutput]

/-- A mismatch of a pass holds what was expected and what came, and these differ. -/
theorem mem_comparePass {expected passes : List String} {pass : Nat} {m : Mismatch} :
    m ∈ comparePass expected passes pass ↔
      expected[pass]? ≠ passes[pass]? ∧ m = .pass pass expected[pass]? passes[pass]? := by
  unfold comparePass
  split
  · next h => simp [h]
  · next h => simp [h]

theorem forall_isFix_eq_false_iff {mismatches : List Mismatch}
    (h : ∀ m ∈ mismatches, m.isFix = true) :
    (∀ m ∈ mismatches, m.isFix = false) ↔ mismatches = [] := by
  constructor
  · intro hnone
    refine List.eq_nil_iff_forall_not_mem.2 fun m hm => ?_
    have hboth := (h m hm).symm.trans (hnone m hm)
    cases hboth
  · rintro rfl
    simp

/-- No mismatch is about the fix exactly if the last text is accepted and the passes before it
agree. -/
theorem noFix_iff_agree {c : FailingCase} {expected : List String}
    (hout : c.output = some (.passes expected)) (reported : List Reported) (passes : List String) :
    (∀ m ∈ (verifyPasses c reported passes).mismatches, m.isFix = false) ↔
      expected.getLast? = effectiveFix c.code passes.getLast? ∧
        AgreeBeforeLast expected passes := by
  have hpasses : ∀ m ∈ (List.range (max expected.length passes.length - 1)).flatMap
      (comparePass expected passes), m.isFix = true := by
    intro m hm
    obtain ⟨pass, -, hm⟩ := List.mem_flatMap.1 hm
    obtain ⟨-, rfl⟩ := mem_comparePass.1 hm
    rfl
  simp only [verifyPasses, hout, verify, List.forall_mem_append]
  rw [forall_isFix_eq_false_iff fun m => isFix_of_mem_compareOutput,
    forall_isFix_eq_false_iff hpasses, compareOutput_eq_nil_iff, flatMap_comparePass_eq_nil_iff,
    and_iff_right fun m => isFix_of_mem_compareErrors, Option.bind_some, Fixed.finalText]

/-- The last text and the passes before it are accepted together exactly if the last text changes
the code and the passes are the expected ones or one of their two neighbours. -/
theorem agree_iff_repeats {code : String} {expected passes : List String} (hne : expected ≠ []) :
    expected.getLast? = effectiveFix code passes.getLast? ∧ AgreeBeforeLast expected passes ↔
      expected.getLast? ≠ some code ∧
        (passes = expected ∨ RepeatsLast expected passes ∨ RepeatsLast passes expected) := by
  have hend := List.getLast?_eq_some_getLast hne
  constructor
  · rintro ⟨hfix, hagree⟩
    rw [hend] at hfix
    obtain ⟨hlast, hchanged⟩ := effectiveFix_eq_some_iff.1 hfix.symm
    rw [← hend] at hlast
    exact ⟨by simpa [hend] using hchanged, (agreeBeforeLast_iff hne hlast.symm).1 hagree⟩
  · rintro ⟨hchanged, hrepeats⟩
    have hlast := getLast?_eq_of_repeats hrepeats
    refine ⟨?_, (agreeBeforeLast_iff hne hlast).2 hrepeats⟩
    rw [← hlast, hend]
    exact (effectiveFix_eq_some_iff.2 ⟨rfl, by simpa [hend] using hchanged⟩).symm

/-- **Exact outcome of comparing passes.** Where several passes are expected, the mismatches are
those of the last text alone, followed by mismatches of passes; and none of them is about the fix
exactly if the last expected text changes the code and the passes are the expected ones, or the
longer of both lists is the shorter with its last text once more. In all other cases only the last
text is compared. -/
theorem verifyPasses_outcome (c : FailingCase) (reported : List Reported) (passes : List String) :
    (∀ expected, c.output = some (.passes expected) → expected ≠ [] →
      (∃ others, (verifyPasses c reported passes).mismatches =
          (verify c reported passes.getLast?).mismatches ++ others ∧
        ∀ m ∈ others, ∃ pass, expected[pass]? ≠ passes[pass]? ∧
          m = .pass pass expected[pass]? passes[pass]?) ∧
      ((∀ m ∈ (verifyPasses c reported passes).mismatches, m.isFix = false) ↔
        expected.getLast? ≠ some c.code ∧
          (passes = expected ∨ RepeatsLast expected passes ∨ RepeatsLast passes expected))) ∧
    ((∀ expected, c.output ≠ some (.passes expected)) →
      verifyPasses c reported passes = verify c reported passes.getLast?) := by
  constructor
  · intro expected hout hne
    refine ⟨⟨_, by simp only [verifyPasses, hout]; rfl, ?_⟩, ?_⟩
    · intro m hm
      obtain ⟨pass, -, hm⟩ := List.mem_flatMap.1 hm
      exact ⟨pass, mem_comparePass.1 hm⟩
    · rw [noFix_iff_agree hout, agree_iff_repeats hne]
  · intro hother
    unfold verifyPasses
    split
    · next expected hout => exact absurd hout (hother expected)
    · rfl

/-- A pass too many with the last text once more is not about the fix, and a report without any
diagnostic still has its mismatch. -/
theorem verifyPasses_outcome_one_too_many :
    nestedCalls.output = some (.passes ["f(x_g);", "x_g_f;"]) ∧ ["f(x_g);", "x_g_f;"] ≠ [] ∧
      (∀ m ∈ (verifyPasses nestedCalls [] ["f(x_g);", "x_g_f;", "x_g_f;"]).mismatches,
        m.isFix = false) ∧
      (verifyPasses nestedCalls [] ["f(x_g);", "x_g_f;", "x_g_f;"]).isOk = false := by
  have hne : ["f(x_g);", "x_g_f;"] ≠ [] := by simp
  have hrepeats : RepeatsLast ["f(x_g);", "x_g_f;"] ["f(x_g);", "x_g_f;", "x_g_f;"] :=
    ⟨"x_g_f;", rfl, rfl⟩
  obtain ⟨houtcome, -⟩ := verifyPasses_outcome nestedCalls [] ["f(x_g);", "x_g_f;", "x_g_f;"]
  obtain ⟨-, haccepted⟩ := houtcome _ rfl hne
  exact ⟨rfl, hne, haccepted.2 ⟨by decide, .inr (.inl hrepeats)⟩, by cbv⟩

end MarkLine
