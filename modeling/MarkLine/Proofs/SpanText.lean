import MarkLine.Position

/-!
# Spans as texts

A span is shown as four decimal numbers with a colon or a dash between neighbours. No digit is a
separator, so the text can be cut at the first character that is no digit and each number read back
from its digits: two spans have one text exactly if they are the same span (`Span.display_inj`).
-/

namespace MarkLine

theorem toDigits_inj {m n : Nat} : Nat.toDigits 10 m = Nat.toDigits 10 n ↔ m = n := by
  refine ⟨fun h => ?_, fun h => h ▸ rfl⟩
  have hread := congrArg (fun digits => Nat.ofDigitChars 10 digits 0) h
  simpa using hread

/-- A separator ends the digits of a number: two texts that start with a number and a separator are
equal exactly if the numbers are and what follows is. -/
theorem digits_append_inj {m n : Nat} {sep : Char} (hsep : sep.isDigit = false)
    {rest others : List Char} :
    Nat.toDigits 10 m ++ sep :: rest = Nat.toDigits 10 n ++ sep :: others ↔
      m = n ∧ rest = others := by
  have htake (k : Nat) (xs : List Char) :
      (Nat.toDigits 10 k ++ sep :: xs).takeWhile Char.isDigit = Nat.toDigits 10 k := by
    rw [List.takeWhile_append_of_pos fun c hc =>
      Nat.isDigit_of_mem_toDigits (by decide) (by decide) hc]
    simp [hsep]
  constructor
  · intro h
    have hcut := congrArg (List.takeWhile Char.isDigit) h
    rw [htake, htake, toDigits_inj] at hcut
    subst hcut
    exact ⟨rfl, (List.cons.inj (List.append_cancel_left h)).2⟩
  · rintro ⟨rfl, rfl⟩
    rfl

namespace Span

theorem toList_display (s : Span) :
    s.display.toList =
      Nat.toDigits 10 s.line ++ ':' :: (Nat.toDigits 10 s.column ++ '-' ::
        (Nat.toDigits 10 s.endLine ++ ':' :: Nat.toDigits 10 s.endColumn)) := by
  simp [display]

/-- **The text of a span determines the span.** -/
theorem display_inj {s t : Span} : s.display = t.display ↔ s = t := by
  have hcolon : ':'.isDigit = false := by decide
  have hdash : '-'.isDigit = false := by decide
  rw [← String.toList_inj, toList_display, toList_display, digits_append_inj hcolon,
    digits_append_inj hdash, digits_append_inj hcolon, toDigits_inj]
  cases s; cases t
  simp

end Span
end MarkLine
