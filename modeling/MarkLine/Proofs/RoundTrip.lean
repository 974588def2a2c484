import MarkLine.Proofs.Records
import MarkLine.Verification

/-!
# JSON forms and back

Every record has a JSON form and is read from it. Some fields are left out of the form where they
hold their default, some are kept then, and an expected fix has a form of its own for one text, for
several passes and for none. Reading a form gives the record back in all cases (`RoundTrips`).

A form may have been handed on with more in it: further entries in any of the objects that stand for
records, at all depths, and the entries in another order (`Extended`). Data and options are values
of their own and stay as they are. Reading an extended form gives the record back too, because each
field finds under its name what was encoded there (`valuesOf_extended`).
-/

namespace MarkLine

namespace Json

/-- One object extended to another: its entries, their values extended as `within` says for their
key, and further entries under none of the declared names, all in any order. -/
def Extended (names : List String) (within : String → Value → Value → Prop) (v w : Value) : Prop :=
  ∃ entries kept added all, v = .object entries ∧ w = .object all ∧
    List.Forall₂ (fun entry other => entry.1 = other.1 ∧ within entry.1 entry.2 other.2)
      entries kept ∧
    (∀ entry ∈ added, entry.1 ∉ names) ∧ all.Perm (kept ++ added)

def EachExtended (item : Value → Value → Prop) (v w : Value) : Prop :=
  ∃ items others, v = .list items ∧ w = .list others ∧ List.Forall₂ item items others

theorem forall₂_valuesOf {within : String → Value → Value → Prop} {entries kept : Object}
    (h : List.Forall₂ (fun entry other => entry.1 = other.1 ∧ within entry.1 entry.2 other.2)
      entries kept) (name : String) :
    List.Forall₂ (within name) (valuesOf name entries) (valuesOf name kept) := by
  induction h with
  | nil => exact .nil
  | @cons entry other _ _ hentry _ ih =>
    obtain ⟨hkey, hvalue⟩ := hentry
    rw [valuesOf_cons, valuesOf_cons, ← hkey]
    by_cases hname : entry.1 = name
    · rw [if_pos hname, if_pos hname]
      exact .cons (hname ▸ hvalue) ih
    · rw [if_neg hname, if_neg hname]
      exact ih

/-- Under a declared name stands in the extended object what stood there before, extended. -/
theorem valuesOf_extended {names : List String} {within : String → Value → Value → Prop}
    {entries : Object} {w : Value} (h : Extended names within (.object entries) w)
    (hkeys : (entries.map (·.1)).Nodup) :
    ∃ all, w = .object all ∧ ∀ name ∈ names,
      List.Forall₂ (within name) (valuesOf name entries) (valuesOf name all) := by
  obtain ⟨_, kept, added, all, hentries, rfl, hkept, hadded, hall⟩ := h
  obtain rfl := Value.object.inj hentries
  refine ⟨all, rfl, fun name hname => ?_⟩
  have hrel := forall₂_valuesOf hkept name
  have hnone : valuesOf name added = [] :=
    valuesOf_eq_nil fun entry hentry heq => hadded entry hentry (heq ▸ hname)
  have hperm : (valuesOf name all).Perm (valuesOf name kept) := by
    simpa [hnone] using valuesOf_perm hall name
  -- One value at most, so there is nothing to reorder.
  have hle : (valuesOf name kept).length ≤ 1 := by
    rw [← hrel.length_eq]
    exact length_valuesOf_le_one hkeys name
  have heq : valuesOf name all = valuesOf name kept := by
    match valuesOf name kept, hle, hperm with
    | [], _, hperm => exact List.perm_nil.1 hperm
    | [_], _, hperm => exact List.perm_singleton.1 hperm
  rw [heq]
  exact hrel

/-- Values stay as they are but for those under one key. -/
def nestedAt (key : String) (nested : Value → Value → Prop) (name : String) :
    Value → Value → Prop :=
  if name = key then nested else Eq

theorem valuesOf_nested {names : List String} {key : String} {nested : Value → Value → Prop}
    {entries : Object} {w : Value} (h : Extended names (nestedAt key nested) (.object entries) w)
    (hkeys : (entries.map (·.1)).Nodup) (hkey : key ∈ names) :
    ∃ all, w = .object all ∧
      (∀ name ∈ names, name ≠ key → valuesOf name entries = valuesOf name all) ∧
      List.Forall₂ nested (valuesOf key entries) (valuesOf key all) := by
  obtain ⟨all, rfl, hall⟩ := valuesOf_extended h hkeys
  refine ⟨all, rfl, fun name hname hne => ?_, ?_⟩
  · have hvalues := hall name hname
    rwa [nestedAt, if_neg hne, List.forall₂_eq_eq_eq] at hvalues
  · have hvalues := hall key hkey
    rwa [nestedAt, if_pos rfl] at hvalues

theorem extended_refl {names : List String} {within : String → Value → Value → Prop}
    {entries : Object} (hkept : ∀ entry ∈ entries, within entry.1 entry.2 entry.2) :
    Extended names within (.object entries) (.object entries) := by
  refine ⟨entries, entries, [], entries, rfl, rfl, ?_, List.forall_mem_nil _, by simp⟩
  exact List.forall₂_same.2 fun entry hentry => ⟨rfl, hkept entry hentry⟩

/-- One more entry in front extends an object. -/
theorem extended_cons {names : List String} {within : String → Value → Value → Prop}
    {entries kept : Object} {key : String} {v : Value}
    (hkept : List.Forall₂ (fun entry other => entry.1 = other.1 ∧ within entry.1 entry.2 other.2)
      entries kept) (hkey : key ∉ names) :
    Extended names within (.object entries) (.object ((key, v) :: kept)) := by
  refine ⟨entries, kept, [(key, v)], _, rfl, rfl, hkept, by simpa using hkey, ?_⟩
  exact (List.perm_append_singleton (key, v) kept).symm

theorem nestedAt_refl {key : String} {nested : Value → Value → Prop} {entries : Object}
    (h : ∀ v ∈ valuesOf key entries, nested v v) :
    ∀ entry ∈ entries, nestedAt key nested entry.1 entry.2 entry.2 := by
  intro entry hentry
  unfold nestedAt
  split
  · next hkey => exact h entry.2 (mem_valuesOf.2 (hkey ▸ hentry))
  · rfl

@[simp] theorem valuesOf_optional {α : Type} (key name : String) (encode : α → Value)
    (value : Option α) :
    valuesOf key (optional name encode value) =
      if name = key then (value.map encode).toList else [] := by
  cases value <;> simp [optional]

end Json

open Json

/-- Reading undoes encoding, for the encoded value and for every extension of it. -/
def RoundTrips {α : Type} (toJson : α → Value) (read : Value → Read α)
    (extended : Value → Value → Prop) : Prop :=
  ∀ x, read (toJson x) = .ok x ∧ ∀ v, extended (toJson x) v → read v = .ok x

theorem items_of_eachExtended {α : Type} {toJson : α → Value} {read : Value → Read α}
    {extended : Value → Value → Prop} (h : RoundTrips toJson read extended) {xs : List α}
    {v : Value} (hv : EachExtended extended (.list (xs.map toJson)) v) :
    ∃ vs, v = .list vs ∧ Shape.items read vs = .ok xs := by
  obtain ⟨_, others, hitems, rfl, hall⟩ := hv
  obtain rfl := Value.list.inj hitems
  refine ⟨others, rfl, items_eq_ok ?_⟩
  rw [List.forall₂_map_left_iff] at hall
  exact (hall.imp fun x w hw => (h x).2 w hw).flip

theorem eachExtended_refl {α : Type} {toJson : α → Value} {extended : Value → Value → Prop}
    (h : ∀ x, extended (toJson x) (toJson x)) (xs : List α) :
    EachExtended extended (.list (xs.map toJson)) (.list (xs.map toJson)) := by
  refine ⟨_, _, rfl, rfl, List.forall₂_same.2 fun v hv => ?_⟩
  obtain ⟨x, -, rfl⟩ := List.mem_map.1 hv
  exact h x

theorem gives_text {name text : String} {entries : Object}
    (h : valuesOf name entries = [.text text]) :
    (Record.required name Shape.text).Gives entries text :=
  Record.gives_present (Value.text text) h rfl

theorem gives_nat {name : String} {n : Nat} {entries : Object}
    (h : valuesOf name entries = [.nat n]) : (Record.required name Shape.nat).Gives entries n :=
  Record.gives_present (Value.nat n) h rfl

theorem gives_data {name : String} {data : Option Object} {entries : Object}
    (h : valuesOf name entries = (data.map .object).toList) :
    (Record.optional name Shape.map).Gives entries data :=
  Record.gives_optional .object h fun _ => rfl

theorem forall₂_singleton_left {α β : Type} {r : α → β → Prop} {a : α} {bs : List β}
    (h : List.Forall₂ r [a] bs) : ∃ b, bs = [b] ∧ r a b := by
  obtain ⟨b, rest, hb, hrest, rfl⟩ := List.forall₂_cons_left_iff.1 h
  obtain rfl := List.forall₂_nil_left_iff.1 hrest
  exact ⟨b, rfl, hb⟩

/-- A required list of records, each extended, is read from the one value under its name. -/
theorem gives_list {α : Type} {toJson : α → Value} {read : Value → Read α}
    {extended : Value → Value → Prop} (h : RoundTrips toJson read extended) {name : String}
    {entries : Object} {xs : List α}
    (hvalues : List.Forall₂ (EachExtended extended) [.list (xs.map toJson)]
      (valuesOf name entries)) :
    (Record.required name (Shape.list read)).Gives entries xs := by
  obtain ⟨v, hlist, hv⟩ := forall₂_singleton_left hvalues
  obtain ⟨vs, rfl, hitems⟩ := items_of_eachExtended h hv
  exact Record.gives_present (Value.list vs) hlist hitems

/-- The same of a list that may be missing. -/
theorem gives_optional_list {α : Type} {toJson : α → Value} {read : Value → Read α}
    {extended : Value → Value → Prop} (h : RoundTrips toJson read extended) {name : String}
    {entries : Object} {value : Option (List α)}
    (hvalues : List.Forall₂ (EachExtended extended)
      (value.map fun xs => .list (xs.map toJson)).toList (valuesOf name entries)) :
    (Record.optional name (Shape.list read)).Gives entries value := by
  unfold Record.optional Record.withDefault
  cases value with
  | none =>
    have hnone : valuesOf name entries = [] := List.forall₂_nil_left_iff.1 hvalues
    exact Record.gives_absent hnone fun _ => rfl
  | some xs =>
    obtain ⟨v, hlist, hv⟩ := forall₂_singleton_left hvalues
    obtain ⟨vs, rfl, hitems⟩ := items_of_eachExtended h hv
    refine Record.gives_present (Value.list vs) hlist ?_
    change some <$> Shape.items read vs = .ok (some xs)
    rw [hitems]
    rfl

/-! ## Suggestions -/

namespace Suggestion

def fieldNames : List String := ["messageId", "data", "output"]

/-- A JSON form of a suggestion with further entries. -/
def Extended : Value → Value → Prop := Json.Extended fieldNames fun _ => Eq

theorem extended_toJson (s : Suggestion) : Extended s.toJson s.toJson :=
  extended_refl fun _ _ => rfl

theorem read_extended {s : Suggestion} {v : Value} (h : Extended s.toJson v) :
    Suggestion.read v = .ok s := by
  obtain ⟨all, rfl, hall⟩ := valuesOf_extended h (by cases s.data <;> simp [Json.optional])
  simp only [List.forall₂_eq_eq_eq, fieldNames] at hall
  have hid : (Record.required "messageId" Shape.text).Gives all s.messageId :=
    gives_text (by simp [← hall])
  have hdata : (Record.optional "data" Shape.map).Gives all s.data :=
    gives_data (by simp [← hall])
  have houtput : (Record.required "output" Shape.text).Gives all s.output :=
    gives_text (by simp [← hall])
  exact Record.read_of_gives (((Record.gives_map Suggestion.mk hid).seq hdata).seq houtput) rfl _

theorem roundTrips : RoundTrips Suggestion.toJson Suggestion.read Extended := fun s =>
  ⟨read_extended s.extended_toJson, fun _ => read_extended⟩

end Suggestion

/-! ## Expectations -/

namespace Expectation

def fieldNames : List String :=
  ["messageId", "data", "line", "column", "endLine", "endColumn", "suggestions"]

/-- A JSON form of an expectation with further entries, in its suggestions too. -/
def Extended : Value → Value → Prop :=
  Json.Extended fieldNames (nestedAt "suggestions" (EachExtended Suggestion.Extended))

theorem extended_toJson (e : Expectation) : Extended e.toJson e.toJson := by
  refine extended_refl (nestedAt_refl fun v hv => ?_)
  obtain ⟨list, -, rfl⟩ : ∃ list, e.suggestions = some list ∧
      .list (list.map Suggestion.toJson) = v := by simpa using hv
  exact eachExtended_refl Suggestion.extended_toJson list

theorem read_extended {e : Expectation} {v : Value} (h : Extended e.toJson v) :
    Expectation.read v = .ok e := by
  obtain ⟨all, rfl, hsame, hnested⟩ := valuesOf_nested h
    (by cases e.data <;> cases e.suggestions <;> simp [Json.optional]) (by simp [fieldNames])
  simp only [fieldNames] at hsame
  have hid : (Record.required "messageId" Shape.text).Gives all e.messageId :=
    gives_text (by simp [← hsame])
  have hdata : (Record.optional "data" Shape.map).Gives all e.data :=
    gives_data (by simp [← hsame])
  have hline : (Record.required "line" Shape.nat).Gives all e.span.line :=
    gives_nat (by simp [← hsame])
  have hcolumn : (Record.required "column" Shape.nat).Gives all e.span.column :=
    gives_nat (by simp [← hsame])
  have hendLine : (Record.required "endLine" Shape.nat).Gives all e.span.endLine :=
    gives_nat (by simp [← hsame])
  have hendColumn : (Record.required "endColumn" Shape.nat).Gives all e.span.endColumn :=
    gives_nat (by simp [← hsame])
  have hsuggestions :
      (Record.optional "suggestions" (Shape.list Suggestion.read)).Gives all e.suggestions :=
    gives_optional_list Suggestion.roundTrips (by simpa using hnested)
  exact Record.read_of_gives (((((((Record.gives_map Expectation.make hid).seq hdata).seq
    hline).seq hcolumn).seq hendLine).seq hendColumn).seq hsuggestions) rfl _

theorem roundTrips : RoundTrips Expectation.toJson Expectation.read Extended := fun e =>
  ⟨read_extended e.extended_toJson, fun _ => read_extended⟩

end Expectation

/-! ## Expected fixes -/

theorem Fixed.read_toJson (fixed : Fixed) : Fixed.read fixed.toJson = .ok fixed := by
  cases fixed with
  | single text => rfl
  | passes texts =>
    have htexts : Shape.list Shape.text (Value.list (texts.map .text)) = .ok texts := by
      refine items_eq_ok ?_
      rw [List.forall₂_map_left_iff]
      exact List.forall₂_same.2 fun _ _ => rfl
    simp only [Fixed.toJson, Fixed.read, htexts]
    rfl

/-- An expected fix is a text or a list of texts, to which no entry can be added. -/
theorem Fixed.roundTrips : RoundTrips Fixed.toJson Fixed.read Eq := fun fixed =>
  ⟨fixed.read_toJson, fun _ h => h ▸ fixed.read_toJson⟩

/-- The form of no fix is null, and no form of a fix is. -/
theorem Fixed.nullable_toJson? (output : Option Fixed) :
    Shape.nullable Fixed.read (Fixed.toJson? output) = .ok output := by
  cases output with
  | none => rfl
  | some fixed =>
    have hread := fixed.read_toJson
    cases fixed with
    | single text => rfl
    | passes texts =>
      change some <$> Fixed.read (Fixed.toJson (.passes texts)) = _
      rw [hread]
      rfl

/-! ## Failing cases -/

namespace FailingCase

def fieldNames : List String :=
  ["name", "code", "options", "errors", "output", "filename", "only"]

/-- A JSON form of a failing case with further entries, in its errors and their suggestions too. -/
def Extended : Value → Value → Prop :=
  Json.Extended fieldNames (nestedAt "errors" (EachExtended Expectation.Extended))

theorem extended_toJson (c : FailingCase) : Extended c.toJson c.toJson := by
  refine extended_refl (nestedAt_refl fun v hv => ?_)
  obtain rfl : v = .list (c.errors.map Expectation.toJson) := by
    by_cases hname : c.name = "" <;> by_cases honly : c.only <;> simpa [hname, honly] using hv
  exact eachExtended_refl Expectation.extended_toJson c.errors

theorem read_extended {c : FailingCase} {v : Value} (h : Extended c.toJson v) :
    FailingCase.read v = .ok c := by
  obtain ⟨all, rfl, hsame, hnested⟩ := valuesOf_nested h (by
    by_cases hname : c.name = "" <;> by_cases honly : c.only <;> cases c.filename <;>
      simp [hname, honly, Json.optional]) (by simp [fieldNames])
  simp only [fieldNames] at hsame
  have hname : (Record.withDefault "name" "" Shape.text).Gives all c.name := by
    by_cases hempty : c.name = ""
    · rw [hempty]
      exact Record.gives_absent (by simp [← hsame, hempty]) fun _ => rfl
    · exact Record.gives_present (Value.text c.name) (by simp [← hsame, hempty]) rfl
  have hcode : (Record.required "code" Shape.text).Gives all c.code :=
    gives_text (by simp [← hsame])
  have hoptions : (Record.withDefault "options" [] (Shape.list .ok)).Gives all c.options := by
    refine Record.gives_present (Value.list c.options) (by simp [← hsame]) ?_
    exact items_eq_ok (List.forall₂_same.2 fun _ _ => rfl)
  have herrors : (Record.required "errors" (Shape.list Expectation.read)).Gives all c.errors :=
    gives_list Expectation.roundTrips (by simpa using hnested)
  have houtput : (Record.nullable "output" Fixed.read).Gives all c.output :=
    Record.gives_present (Fixed.toJson? c.output) (by simp [← hsame])
      (Fixed.nullable_toJson? c.output)
  have hfilename : (Record.optional "filename" Shape.text).Gives all c.filename :=
    Record.gives_optional .text (by simp [← hsame]) fun _ => rfl
  have honly : (Record.withDefault "only" false Shape.bool).Gives all c.only := by
    cases hset : c.only with
    | false => exact Record.gives_absent (by simp [← hsame, hset]) fun _ => rfl
    | true => exact Record.gives_present (Value.bool true) (by simp [← hsame, hset]) rfl
  exact Record.read_of_gives (((((((Record.gives_map FailingCase.mk hname).seq hcode).seq
    hoptions).seq herrors).seq houtput).seq hfilename).seq honly) rfl _

theorem roundTrips : RoundTrips FailingCase.toJson FailingCase.read Extended := fun c =>
  ⟨read_extended c.extended_toJson, fun _ => read_extended⟩

end FailingCase

/-! ## Reported diagnostics -/

namespace Reported

def fieldNames : List String := ["messageId", "line", "column", "endLine", "endColumn", "data"]

/-- A JSON form of a diagnostic with further entries. -/
def Extended : Value → Value → Prop := Json.Extended fieldNames fun _ => Eq

theorem extended_toJson (r : Reported) : Extended r.toJson r.toJson :=
  extended_refl fun _ _ => rfl

theorem read_extended {r : Reported} {v : Value} (h : Extended r.toJson v) :
    Reported.read v = .ok r := by
  obtain ⟨all, rfl, hall⟩ := valuesOf_extended h (by cases r.data <;> simp [Json.optional])
  simp only [List.forall₂_eq_eq_eq, fieldNames] at hall
  have hid : (Record.required "messageId" Shape.text).Gives all r.messageId :=
    gives_text (by simp [← hall])
  have hline : (Record.required "line" Shape.nat).Gives all r.span.line :=
    gives_nat (by simp [← hall])
  have hcolumn : (Record.required "column" Shape.nat).Gives all r.span.column :=
    gives_nat (by simp [← hall])
  have hendLine : (Record.required "endLine" Shape.nat).Gives all r.span.endLine :=
    gives_nat (by simp [← hall])
  have hendColumn : (Record.required "endColumn" Shape.nat).Gives all r.span.endColumn :=
    gives_nat (by simp [← hall])
  have hdata : (Record.optional "data" Shape.map).Gives all r.data :=
    gives_data (by simp [← hall])
  exact Record.read_of_gives ((((((Record.gives_map Reported.make hid).seq hline).seq
    hcolumn).seq hendLine).seq hendColumn).seq hdata) rfl _

theorem roundTrips : RoundTrips Reported.toJson Reported.read Extended := fun r =>
  ⟨read_extended r.extended_toJson, fun _ => read_extended⟩

end Reported

/-- **Every record is read back from its JSON form** and from all extensions of the form. -/
theorem json_forms_round_trip :
    RoundTrips Suggestion.toJson Suggestion.read Suggestion.Extended ∧
      RoundTrips Expectation.toJson Expectation.read Expectation.Extended ∧
      RoundTrips Fixed.toJson Fixed.read Eq ∧
      RoundTrips FailingCase.toJson FailingCase.read FailingCase.Extended ∧
      RoundTrips Reported.toJson Reported.read Reported.Extended :=
  ⟨Suggestion.roundTrips, Expectation.roundTrips, Fixed.roundTrips, FailingCase.roundTrips,
    Reported.roundTrips⟩

/-- A case without a name, with empty data, no pass and one suggestion. -/
def oneSuggestion : FailingCase :=
  { name := "", code := "x", options := [.null]
    errors := [⟨"id", some [], ⟨1, 1, 1, 1⟩, some [⟨"fix", none, "y"⟩]⟩]
    output := some (.passes []), filename := none, only := true }

/-- The suggestion of that case with an entry in front. -/
def notedSuggestion : Value :=
  .object [("kind", .text "quick"), ("messageId", .text "fix"), ("output", .text "y")]

/-- The error of that case with an entry in front, around the suggestion with one. -/
def notedError : Value :=
  .object [("severity", .nat 2), ("messageId", .text "id"), ("data", .object []), ("line", .nat 1),
    ("column", .nat 1), ("endLine", .nat 1), ("endColumn", .nat 1),
    ("suggestions", .list [notedSuggestion])]

/-- That case with an entry in front, around the error with one. -/
def notedCase : Value :=
  .object [("author", .null), ("code", .text "x"), ("options", .list [.null]),
    ("errors", .list [notedError]), ("output", .list []), ("only", .bool true)]

theorem notedCase_read :
    FailingCase.Extended oneSuggestion.toJson notedCase ∧
      FailingCase.read notedCase = .ok oneSuggestion := by
  have hsuggestion : Suggestion.Extended (Suggestion.toJson ⟨"fix", none, "y"⟩) notedSuggestion :=
    extended_cons (List.forall₂_same.2 fun _ _ => ⟨rfl, rfl⟩) (by decide)
  have herror : Expectation.Extended
      (Expectation.toJson ⟨"id", some [], ⟨1, 1, 1, 1⟩, some [⟨"fix", none, "y"⟩]⟩) notedError := by
    refine extended_cons ?_ (by decide)
    simpa [Json.optional, nestedAt, EachExtended] using hsuggestion
  have hcase : FailingCase.Extended oneSuggestion.toJson notedCase := by
    refine extended_cons ?_ (by decide)
    simpa [Json.optional, nestedAt, EachExtended, oneSuggestion, Fixed.toJson?, Fixed.toJson]
      using herror
  exact ⟨hcase, (json_forms_round_trip.2.2.2.1 oneSuggestion).2 notedCase hcase⟩

end MarkLine
