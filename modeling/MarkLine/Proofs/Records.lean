import MarkLine.Shape
import Mathlib.Data.List.Forall2

/-!
# What a record reads from a map

A record is put together from fields, and reading it goes over the entries of a map twice: once to
check every entry under a known key, once to build the fields. `Record.Gives` says that both passes
go well and which value comes out. It is passed on from the fields to the record (`gives_map`,
`Gives.seq`), and a field asks for one thing only: which values stand under its name
(`valuesOf`). So entries under other names and the order of the entries play no part.
-/

namespace MarkLine

variable {α β γ : Type}

/-- The values that stand under a key, in their order. -/
def valuesOf (key : String) (entries : List (String × α)) : List α :=
  (entries.filter fun entry => entry.1 = key).map (·.2)

@[simp] theorem valuesOf_nil (key : String) : valuesOf key ([] : List (String × α)) = [] := rfl

@[simp] theorem valuesOf_cons (key : String) (entry : String × α) (rest : List (String × α)) :
    valuesOf key (entry :: rest) =
      if entry.1 = key then entry.2 :: valuesOf key rest else valuesOf key rest := by
  by_cases h : entry.1 = key <;> simp [valuesOf, h]

@[simp] theorem valuesOf_append (key : String) (entries more : List (String × α)) :
    valuesOf key (entries ++ more) = valuesOf key entries ++ valuesOf key more := by
  simp [valuesOf]

@[simp] theorem valuesOf_ite (key : String) (p : Prop) [Decidable p]
    (entries others : List (String × α)) :
    valuesOf key (if p then entries else others) =
      if p then valuesOf key entries else valuesOf key others :=
  apply_ite (valuesOf key) p entries others

theorem mem_valuesOf {key : String} {entries : List (String × α)} {v : α} :
    v ∈ valuesOf key entries ↔ (key, v) ∈ entries := by
  simp [valuesOf]

theorem valuesOf_eq_nil {key : String} {entries : List (String × α)}
    (h : ∀ entry ∈ entries, entry.1 ≠ key) : valuesOf key entries = [] := by
  simpa [valuesOf] using h

theorem valuesOf_perm {entries others : List (String × α)} (h : entries.Perm others)
    (key : String) : (valuesOf key entries).Perm (valuesOf key others) :=
  (h.filter _).map _

/-- Under distinct keys at most one value stands under each. -/
theorem length_valuesOf_le_one {entries : List (String × α)}
    (h : (entries.map (·.1)).Nodup) (key : String) : (valuesOf key entries).length ≤ 1 := by
  induction entries with
  | nil => simp
  | cons entry rest ih =>
    obtain ⟨hentry, hrest⟩ := List.nodup_cons.1 h
    rw [valuesOf_cons]
    split
    · next hkey =>
      have hnone : valuesOf key rest = [] := by
        refine valuesOf_eq_nil fun other hother heq => hentry ?_
        exact List.mem_map.2 ⟨other, hother, heq.trans hkey.symm⟩
      simp [hnone]
    · exact ih hrest

/-- Looking a key up gives the first of its values. -/
theorem lookup_eq_head?_valuesOf (key : String) (entries : List (String × α)) :
    entries.lookup key = (valuesOf key entries).head? := by
  induction entries with
  | nil => rfl
  | cons entry rest ih =>
    rw [List.lookup_cons, valuesOf_cons, ih]
    by_cases h : entry.1 = key
    · simp [h]
    · have hne : (key == entry.1) = false := by simpa using Ne.symm h
      simp [h, hne]

namespace Record

/-- A record gives a value on some entries: each of its checks accepts every value under its key,
and its fields build the value. -/
structure Gives (r : Record α β) (entries : List (String × α)) (value : β) : Prop where
  checked : ∀ key check, (key, check) ∈ r.checks → ∀ v ∈ valuesOf key entries, check v = .ok ()
  built : ∀ line, r.build line entries = .ok value

variable {entries : List (String × α)}

/-! ## Records from fields -/

theorem Gives.seq {f : Record α (β → γ)} {r : Record α β} {make : β → γ} {value : β}
    (hf : f.Gives entries make) (hr : r.Gives entries value) :
    (f <*> r).Gives entries (make value) := by
  refine ⟨fun key check hcheck => ?_, fun line => ?_⟩
  · rcases List.mem_append.1 hcheck with hcheck | hcheck
    · exact hf.checked key check hcheck
    · exact hr.checked key check hcheck
  · simp [Seq.seq, andThen, hf.built line, hr.built line, bind, Except.bind, pure, Except.pure]

theorem gives_map {r : Record α β} {value : β} (make : β → γ) (hr : r.Gives entries value) :
    (make <$> r).Gives entries (make value) := by
  have hconst : (const make : Record α (β → γ)).Gives entries make :=
    ⟨fun _ _ hcheck => by simp [const] at hcheck, fun _ => rfl⟩
  exact hconst.seq hr

/-- A field under whose name one value stands gives what it reads there. -/
theorem gives_present {name : String} {read : α → Read β} {inMap inList : ShapeError → Read β}
    (v : α) {value : β} (hv : valuesOf name entries = [v]) (hread : read v = .ok value) :
    (field name read inMap inList).Gives entries value := by
  refine ⟨fun key check hcheck w hw => ?_, fun line => ?_⟩
  · obtain ⟨rfl, rfl⟩ : key = name ∧ check = fun v => (fun _ => ()) <$> read v := by
      simpa [field] using hcheck
    obtain rfl : w = v := by simpa [hv] using hw
    simp [hread, Functor.map, Except.map]
  · have hlookup : entries.lookup name = some v := by
      rw [lookup_eq_head?_valuesOf, hv, List.head?_cons]
    simp [field, hlookup, hread]

/-- A field under whose name nothing stands gives what it takes for that. -/
theorem gives_absent {name : String} {read : α → Read β} {inMap inList : ShapeError → Read β}
    {value : β} (hv : valuesOf name entries = []) (hdefault : ∀ e, inMap e = .ok value) :
    (field name read inMap inList).Gives entries value := by
  refine ⟨fun key check hcheck w hw => ?_, fun line => ?_⟩
  · obtain ⟨rfl, rfl⟩ : key = name ∧ check = fun v => (fun _ => ()) <$> read v := by
      simpa [field] using hcheck
    simp [hv] at hw
  · have hlookup : entries.lookup name = none := by
      rw [lookup_eq_head?_valuesOf, hv, List.head?_nil]
    simp [field, hlookup, hdefault]

/-- A field that may be missing gives the value that was left out or encoded under its name. -/
theorem gives_optional [Shape α] {name : String} {read : α → Read β} (encode : β → α)
    {value : Option β} (hv : valuesOf name entries = (value.map encode).toList)
    (hread : ∀ x, Shape.nullable read (encode x) = .ok (some x)) :
    (optional name read).Gives entries value := by
  unfold optional withDefault
  cases value with
  | none => exact gives_absent hv fun _ => rfl
  | some x => exact gives_present (encode x) hv (hread x)

/-! ## Reading a map -/

theorem checkEntries_eq_ok {checks : List (String × (α → Read Unit))}
    (h : ∀ key check, (key, check) ∈ checks → ∀ v ∈ valuesOf key entries, check v = .ok ()) :
    checkEntries checks entries = .ok () := by
  induction entries with
  | nil => rfl
  | cons entry rest ih =>
    obtain ⟨key, v⟩ := entry
    have hrest : checkEntries checks rest = .ok () := by
      refine ih fun k check hcheck w hw => h k check hcheck w ?_
      exact mem_valuesOf.2 (List.mem_cons_of_mem _ (mem_valuesOf.1 hw))
    cases hlookup : checks.lookup key with
    | none => simp [checkEntries, hlookup, hrest, bind, Except.bind]
    | some check =>
      obtain ⟨_, _, hchecks, -⟩ := List.lookup_eq_some_iff.1 hlookup
      have hmem : (key, check) ∈ checks := by rw [hchecks]; simp
      have hv : check v = .ok () := h key check hmem v (mem_valuesOf.2 List.mem_cons_self)
      simp [checkEntries, hlookup, hv, hrest, bind, Except.bind]

/-- **A record that gives a value on the entries of a map is read from the map.** -/
theorem read_of_gives [Shape α] {r : Record α β} {value : β} (h : r.Gives entries value)
    {v : α} (hv : Shape.view v = .map entries) (type : String) : r.read type v = .ok value := by
  simp [read, hv, checkEntries_eq_ok h.checked, h.built, bind, Except.bind]

end Record

/-! ## Reading a list -/

theorem items_eq_ok {read : α → Read β} {vs : List α} {values : List β}
    (h : List.Forall₂ (fun v value => read v = .ok value) vs values) :
    Shape.items read vs = .ok values := by
  induction h with
  | nil => rfl
  | cons hv _ ih => simp [Shape.items, hv, ih, bind, Except.bind, pure, Except.pure]

end MarkLine
