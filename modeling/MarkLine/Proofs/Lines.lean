import MarkLine.Text.Lines

/-!
# Cutting and joining lines

Cutting a text at its line feeds undoes joining, for lines that hold no line feed of their own
(`linesOf_textOf`). Together with `textOf_linesOf` this makes a text and its lines the same thing,
which is how the scan is read: it drops some lines and joins the others. Two texts, one below the
other, have the lines of both (`linesOf_join`, `textOf_append`).
-/

namespace MarkLine

namespace Text

variable {α : Type} {a c : α} {text : List α} {pieces above below : List (List α)}

section
variable [BEq α] [LawfulBEq α]

theorem splitOn_cons_self (a : α) (text : List α) :
    (a :: text).splitOn a = [] :: text.splitOn a := by
  simp [List.splitOn_cons_eq_if_modifyHead]

/-- Anything but the separator goes in front of the first piece. -/
theorem splitOn_cons_of_ne (hc : c ≠ a) {piece : List α} (h : text.splitOn a = piece :: pieces) :
    (c :: text).splitOn a = (c :: piece) :: pieces := by
  simp [List.splitOn_cons_eq_if_modifyHead, hc, h]

theorem not_mem_of_mem_splitOn : ∀ piece ∈ text.splitOn a, a ∉ piece := by
  induction text with
  | nil => simp
  | cons c rest ih =>
    by_cases hc : c = a
    · subst hc
      rw [splitOn_cons_self]
      simpa using ih
    · obtain ⟨first, others, h⟩ := List.exists_cons_of_ne_nil (List.splitOn_ne_nil a rest)
      rw [h, List.forall_mem_cons] at ih
      rw [splitOn_cons_of_ne hc h, List.forall_mem_cons]
      exact ⟨by simpa [Ne.symm hc] using ih.1, ih.2⟩

end

/-- Joining lists of pieces is joining the first ones, the last ones, and both. -/
theorem intercalate_append (ha : above ≠ []) (hb : below ≠ []) :
    [a].intercalate (above ++ below) = [a].intercalate above ++ a :: [a].intercalate below := by
  induction above with
  | nil => exact absurd rfl ha
  | cons piece rest ih =>
    cases rest with
    | nil => simp [List.intercalate_cons_of_ne_nil hb]
    | cons next more =>
      rw [List.cons_append, List.intercalate_cons_of_ne_nil (by simp), ih (by simp),
        List.intercalate_cons_cons]
      simp

/-- A piece and those before it, each of these with its separator, fit in the whole. -/
theorem add_length_le_length_intercalate {i : Nat} {piece : List α} (h : pieces[i]? = some piece) :
    i + piece.length ≤ ([a].intercalate pieces).length := by
  induction pieces generalizing i with
  | nil => simp at h
  | cons first rest ih =>
    cases i with
    | zero =>
      obtain rfl : first = piece := by simpa using h
      cases rest with
      | nil => simp
      | cons next more =>
        rw [List.intercalate_cons_cons, List.length_append, List.length_append]
        omega
    | succ i =>
      have hi : rest[i]? = some piece := by simpa using h
      have hne : rest ≠ [] := List.ne_nil_of_mem (List.mem_of_getElem? hi)
      have hle := ih hi
      rw [List.intercalate_cons_of_ne_nil hne, List.length_append, List.length_append,
        List.length_singleton]
      omega

end Text

/-! ## Lines of a text -/

theorem linesOf_ne_nil (source : String) : linesOf source ≠ [] :=
  List.splitOn_ne_nil _ _

theorem newline_not_mem_linesOf {source : String} : ∀ line ∈ linesOf source, '\n' ∉ line :=
  Text.not_mem_of_mem_splitOn

theorem linesOf_of_newline_not_mem {source : String} (h : '\n' ∉ source.toList) :
    linesOf source = [source.toList] :=
  List.splitOn_eq_singleton h

/-- A line feed between two texts keeps their lines apart. -/
theorem linesOf_join (above below : String) :
    linesOf (above ++ "\n" ++ below) = linesOf above ++ linesOf below := by
  simp [linesOf, List.splitOn_append_cons_self]

/-- A text is the text of its lines. -/
theorem textOf_linesOf (source : String) : textOf (linesOf source) = source := by
  rw [textOf, linesOf, List.intercalate_splitOn, String.ofList_toList]

/-- **Cutting undoes joining** for any lines that hold no line feed. -/
theorem linesOf_textOf {lines : List (List Char)} (hne : lines ≠ [])
    (h : ∀ line ∈ lines, '\n' ∉ line) : linesOf (textOf lines) = lines := by
  rw [textOf, linesOf, String.toList_ofList, List.splitOn_intercalate _ h hne]

theorem textOf_append {above below : List (List Char)} (ha : above ≠ []) (hb : below ≠ []) :
    textOf (above ++ below) = textOf above ++ "\n" ++ textOf below := by
  rw [textOf, Text.intercalate_append ha hb]
  apply String.toList_injective
  simp [textOf]

end MarkLine
