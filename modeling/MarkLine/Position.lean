import MarkLine.Shape

/-!
# Positions, spans and regions

A position counts lines and characters from zero, a span counts them from one. Positions are
ordered as a reader meets them: by line, and by character within a line. A region runs from a first
to a last position, both included.
-/

namespace MarkLine

/-- `SourcePosition`: a point of a text, counted from zero. -/
structure Position where
  line : Nat
  character : Nat
  deriving DecidableEq, Repr, Inhabited

namespace Position

/-- Document order: an earlier line, or the same line and no later character. -/
def before (p q : Position) : Bool :=
  p.line < q.line || (p.line = q.line && p.character ≤ q.character)

def earlier (p q : Position) : Position := if p.before q then p else q

def later (p q : Position) : Position := if p.before q then q else p

/-- `one_based`: line and column counted from one. -/
def oneBased (p : Position) : Nat × Nat := (p.line + 1, p.character + 1)

/-- A position as `line:column`, counted from one. -/
def display (p : Position) : String :=
  toString p.oneBased.1 ++ ":" ++ toString p.oneBased.2

theorem before_iff (p q : Position) :
    p.before q = true ↔ p.line < q.line ∨ (p.line = q.line ∧ p.character ≤ q.character) := by
  simp [before]

theorem before_refl (p : Position) : p.before p = true := by
  simp [before]

theorem before_trans {p q r : Position} (hpq : p.before q = true) (hqr : q.before r = true) :
    p.before r = true := by
  rw [before_iff] at *
  omega

theorem before_total (p q : Position) : p.before q = true ∨ q.before p = true := by
  rw [before_iff, before_iff]
  omega

theorem before_antisymm {p q : Position} (hpq : p.before q = true) (hqp : q.before p = true) :
    p = q := by
  rw [before_iff] at *
  cases p; cases q
  simp only [Position.mk.injEq] at *
  omega

def toJson (p : Position) : Json.Value :=
  .object [("line", .nat p.line), ("character", .nat p.character)]

def read {α : Type} [Shape α] : α → Read Position :=
  Record.read "SourcePosition"
    (Position.mk <$> Record.required "line" Shape.nat <*> Record.required "character" Shape.nat)

/-- Positions in document order, equal ones in the order given. -/
def sort (positions : List Position) : List Position :=
  positions.mergeSort before

end Position

/-- A stretch of text counted from one, last column included. -/
structure Span where
  line : Nat
  column : Nat
  endLine : Nat
  endColumn : Nat
  deriving DecidableEq, Repr, Inhabited

namespace Span

/-- The order of `sort_key`: by start line, start column, end line and end column. -/
def before (s t : Span) : Bool :=
  s.line < t.line || (s.line = t.line &&
    (s.column < t.column || (s.column = t.column &&
      (s.endLine < t.endLine || (s.endLine = t.endLine && s.endColumn ≤ t.endColumn)))))

/-- `span`: the text `line:column-endLine:endColumn`. -/
def display (s : Span) : String :=
  toString s.line ++ ":" ++ toString s.column ++ "-" ++ toString s.endLine ++ ":" ++
    toString s.endColumn

end Span

/-- `ExpectedFailure`: the region of one marker, from its first to its last marked position. The
message is free for the reader of a region and empty in every scanned one. -/
structure Region where
  first : Position
  last : Position
  message : String := ""
  deriving DecidableEq, Repr, Inhabited

namespace Region

def point (p : Position) : Region := { first := p, last := p }

/-- A region widened to hold a position. -/
def widen (r : Region) (p : Position) : Region :=
  { r with first := r.first.earlier p, last := r.last.later p }

/-- The span of a region, counted from one. -/
def span (r : Region) : Span :=
  { line := r.first.oneBased.1, column := r.first.oneBased.2,
    endLine := r.last.oneBased.1, endColumn := r.last.oneBased.2 }

def toJson (r : Region) : Json.Value :=
  .object [("start_position", r.first.toJson), ("end_position", r.last.toJson),
    ("message", .text r.message)]

def read {α : Type} [Shape α] : α → Read Region :=
  Record.read "ExpectedFailure"
    (Region.mk <$> Record.required "start_position" Position.read
      <*> Record.required "end_position" Position.read <*> Record.required "message" Shape.text)

end Region
end MarkLine
