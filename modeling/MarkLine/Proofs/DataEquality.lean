import MarkLine.Verification

/-!
# Equal data

Data is compared value by value, and the two zeros count as one number. So the comparison is plain
equality once every zero has lost its sign (`Json.sameFields_iff`), and in particular data matches
itself. An expectation is content with data that is equal in this sense and with nothing else
(`sameData_iff`).
-/

namespace MarkLine

/-- The number without the sign of a zero. -/
def Double.unsignedZero (d : Double) : Double := if d.isZero then zero false else d

theorem Double.same_iff {a b : Double} :
    a.same b = true ↔ a.unsignedZero = b.unsignedZero := by
  have hzero : (zero false).isZero = true := by decide
  unfold Double.same Double.unsignedZero
  by_cases ha : a.isZero <;> by_cases hb : b.isZero
  · simp [ha, hb]
  · have hne : a ≠ b := fun h => hb (h ▸ ha)
    have hne' : zero false ≠ b := fun h => hb (h ▸ hzero)
    simp [ha, hb, hne, hne']
  · have hne : a ≠ b := fun h => ha (h ▸ hb)
    have hne' : a ≠ zero false := fun h => ha (h ▸ hzero)
    simp [ha, hb, hne, hne']
  · simp [ha, hb]

namespace Json

def Number.unsignedZero : Number → Number
  | .int value => .int value
  | .float value => .float value.unsignedZero

theorem Number.same_iff {a b : Number} :
    a.same b = true ↔ a.unsignedZero = b.unsignedZero := by
  cases a <;> cases b <;> simp [Number.same, Number.unsignedZero, Double.same_iff]

mutual

/-- The value with no sign on any zero. -/
def Value.unsignedZeros : Value → Value
  | .null => .null
  | .bool value => .bool value
  | .number value => .number value.unsignedZero
  | .text value => .text value
  | .list items => .list (itemsUnsigned items)
  | .object fields => .object (fieldsUnsigned fields)

def itemsUnsigned : List Value → List Value
  | [] => []
  | v :: rest => v.unsignedZeros :: itemsUnsigned rest

def fieldsUnsigned : List (String × Value) → List (String × Value)
  | [] => []
  | (key, v) :: rest => (key, v.unsignedZeros) :: fieldsUnsigned rest

end

mutual

theorem Value.same_iff : ∀ a b : Value, a.same b = true ↔ a.unsignedZeros = b.unsignedZeros
  | .null, b => by cases b <;> simp [Value.same, Value.unsignedZeros]
  | .bool _, b => by cases b <;> simp [Value.same, Value.unsignedZeros]
  | .number _, b => by cases b <;> simp [Value.same, Value.unsignedZeros, Number.same_iff]
  | .text _, b => by cases b <;> simp [Value.same, Value.unsignedZeros]
  | .list as, b => by
    cases b with
    | list bs => simp [Value.same, Value.unsignedZeros, sameItems_iff as]
    | _ => simp [Value.same, Value.unsignedZeros]
  | .object as, b => by
    cases b with
    | object bs => simp [Value.same, Value.unsignedZeros, sameFields_iff as]
    | _ => simp [Value.same, Value.unsignedZeros]

theorem sameItems_iff : ∀ as bs : List Value,
    sameItems as bs = true ↔ itemsUnsigned as = itemsUnsigned bs
  | [], bs => by cases bs <;> simp [sameItems, itemsUnsigned]
  | a :: as, bs => by
    cases bs with
    | nil => simp [sameItems, itemsUnsigned]
    | cons b bs =>
      simp [sameItems, itemsUnsigned, Value.same_iff a, sameItems_iff as]

/-- **Objects are the same** exactly if they are equal up to the signs of their zeros. -/
theorem sameFields_iff : ∀ as bs : List (String × Value),
    sameFields as bs = true ↔ fieldsUnsigned as = fieldsUnsigned bs
  | [], bs => by cases bs <;> simp [sameFields, fieldsUnsigned]
  | (k, a) :: as, bs => by
    cases bs with
    | nil => simp [sameFields, fieldsUnsigned]
    | cons entry bs =>
      simp [sameFields, fieldsUnsigned, Value.same_iff a, sameFields_iff as]

end

theorem sameFields_refl (fields : List (String × Value)) : sameFields fields fields = true :=
  (sameFields_iff fields fields).2 rfl

end Json

/-- An expectation with data asks for data, and for equal data. -/
theorem sameData_iff {expected : Json.Object} {actual : Option Json.Object} :
    sameData expected actual = true ↔
      actual.map Json.fieldsUnsigned = some (Json.fieldsUnsigned expected) := by
  cases actual with
  | none => simp [sameData]
  | some object => simp [sameData, Json.sameFields_iff]

end MarkLine
