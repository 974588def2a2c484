import MarkLine.Proofs.Compilation

/-!
# Drafts and what they stand for

A draft can have several defects in several cases; loading it reports one. `CaseDraft.Defect` names
the four ways in which a drafted case can be wrong, ranked in the order in which they count, and
`CaseDraft.FirstFault` is what is reported of a case. Of the cases the first that is not well formed
is blamed, and of its messages the first with a bad marker.

Cases and messages are gone through in the same way (`Numbered`). A draft of which every case is
well formed stands for one suite, with all fields carried over (`ofDraft_outcome`).
-/

namespace MarkLine

/-! ## Messages -/

/-- A message is the drafted one, under the one character of its marker. -/
structure MessageDraft.StandsFor (d : MessageDraft) (m : Message) : Prop where
  marker : d.marker = String.singleton m.marker
  messageId : m.messageId = d.messageId
  data : m.data = d.data
  suggestions : m.suggestions = d.suggestions

theorem MessageDraft.exists_standsFor_iff {d : MessageDraft} :
    (∃ m, d.StandsFor m) ↔ d.marker.length = 1 := by
  rw [← String.length_toList, List.length_eq_one_iff]
  constructor
  · rintro ⟨m, hmarker, -, -, -⟩
    exact ⟨m.marker, by rw [hmarker, String.toList_singleton]⟩
  · rintro ⟨c, hc⟩
    rw [← String.toList_singleton, String.toList_inj] at hc
    exact ⟨{ marker := c, messageId := d.messageId, data := d.data, suggestions := d.suggestions },
      hc, rfl, rfl, rfl⟩

namespace Draft

theorem markerOf_eq_ok_iff {context value : String} {c : Char} :
    markerOf context value = .ok c ↔ value = String.singleton c := by
  rw [← String.toList_inj, String.toList_singleton]
  unfold markerOf
  split
  · next d hd => simp [hd]
  · next hne => simpa using hne c

theorem markerOf_eq_error_iff {context value : String} {fault : DraftFault} :
    markerOf context value = .error fault ↔
      value.length ≠ 1 ∧ fault = .invalidMarker context value := by
  rw [← String.length_toList, ne_eq, List.length_eq_one_iff]
  unfold markerOf
  split
  · next d hd => simp [hd]
  · next hne => simpa [eq_comm] using fun _ c => hne c

variable {context : String} {fault : DraftFault}

theorem messageOf_eq_ok_iff {d : MessageDraft} {m : Message} :
    messageOf context d = .ok m ↔ d.StandsFor m := by
  simp only [messageOf, map_eq_ok_iff, markerOf_eq_ok_iff]
  constructor
  · rintro ⟨c, hmarker, rfl⟩
    exact ⟨hmarker, rfl, rfl, rfl⟩
  · rintro ⟨hmarker, hid, hdata, hsuggestions⟩
    exact ⟨m.marker, hmarker, by rw [← hid, ← hdata, ← hsuggestions]⟩

theorem messageOf_eq_error_iff {d : MessageDraft} :
    messageOf context d = .error fault ↔
      d.marker.length ≠ 1 ∧ fault = .invalidMarker (context ++ ".char") d.marker := by
  rw [messageOf, map_eq_error_iff, markerOf_eq_error_iff]

theorem exists_messageOf_iff {d : MessageDraft} :
    (∃ m, messageOf context d = .ok m) ↔ d.marker.length = 1 := by
  simp only [messageOf_eq_ok_iff, MessageDraft.exists_standsFor_iff]

theorem numbered_messagesOf (context : String) :
    Numbered (fun index => messageOf (context ++ item ".messages" index)) (messagesOf context) :=
  ⟨fun _ => rfl, fun _ _ _ => rfl⟩

theorem messagesOf_eq_ok_iff {index : Nat} {drafts : List MessageDraft} {messages : List Message} :
    messagesOf context index drafts = .ok messages ↔
      List.Forall₂ MessageDraft.StandsFor drafts messages :=
  (numbered_messagesOf context).eq_ok_iff fun _ _ _ => messageOf_eq_ok_iff

theorem messagesOf_eq_error_iff {drafts : List MessageDraft} :
    messagesOf context 0 drafts = .error fault ↔
      ∃ j m, FirstAt (fun _ m => m.marker.length ≠ 1) drafts j m ∧
        fault = .invalidMarker (context ++ ".messages[" ++ toString j ++ "].char") m.marker := by
  rw [(numbered_messagesOf context).eq_error_iff fun _ _ => exists_messageOf_iff]
  refine exists_congr fun j => exists_congr fun m => and_congr_right fun hfirst => ?_
  have hcontext : context ++ item ".messages" (0 + j) ++ ".char" =
      context ++ ".messages[" ++ toString j ++ "].char" := by
    apply String.toList_injective
    simp [item]
  rw [messageOf_eq_error_iff, hcontext]
  exact and_iff_right hfirst.holds

end Draft

/-! ## Cases -/

namespace CaseDraft

/-- A drafted case that can be loaded. -/
structure WellFormed (d : CaseDraft) : Prop where
  /-- It has one message or a list of messages, and not both. -/
  oneShape : d.messageId.isSome ≠ d.messages.isSome
  /-- Beside a list of messages there are no data. -/
  data : d.messages.isSome → d.data = none
  /-- Beside a list of messages there are no suggestions. -/
  suggestions : d.messages.isSome → d.suggestions = none
  /-- Every marker is one character. -/
  markers : ∀ drafts, d.messages = some drafts → ∀ m ∈ drafts, m.marker.length = 1

/-- A case is the drafted one, with all its fields. -/
structure StandsFor (d : CaseDraft) (c : MarkedCase) : Prop where
  description : c.description = d.description
  source : c.source = d.source
  /-- The one message is drawn under the default marker. -/
  oneMessage : ∀ messageId, d.messageId = some messageId →
    c.messages = [{ marker := '~', messageId, data := d.data, suggestions := d.suggestions }]
  /-- Of a list, each message is drawn under its own. -/
  messages : ∀ drafts, d.messages = some drafts →
    List.Forall₂ MessageDraft.StandsFor drafts c.messages
  options : c.options = d.options
  output : c.output = d.output
  outputs : c.outputs = d.outputs
  filename : c.filename = d.filename
  only : c.only = d.only

/-- The ways in which a drafted case can be wrong. -/
inductive Defect where
  /-- There are both one message and a list of messages, or neither. -/
  | ambiguous
  /-- There are data beside the list. -/
  | misplacedData
  /-- There are suggestions beside the list. -/
  | misplacedSuggestions
  /-- A marker is not one character. -/
  | badMarker

/-- The place of a defect in the order in which they count. -/
def Defect.rank : Defect → Nat
  | .ambiguous => 0
  | .misplacedData => 1
  | .misplacedSuggestions => 2
  | .badMarker => 3

theorem Defect.rank_injective : Function.Injective Defect.rank := by
  intro a b h
  cases a <;> cases b <;> first | rfl | cases h

/-- The fault of a drafted case for a defect of it. -/
def Faulty (d : CaseDraft) (context : String) : Defect → DraftFault → Prop
  | .ambiguous, fault => d.messageId.isSome = d.messages.isSome ∧
      fault = .ambiguousMessages context
  | .misplacedData, fault => d.messages.isSome ∧ d.data.isSome ∧
      fault = .misplacedField context "data"
  | .misplacedSuggestions, fault => d.messages.isSome ∧ d.suggestions.isSome ∧
      fault = .misplacedField context "suggestions"
  | .badMarker, fault => ∃ drafts j m, d.messages = some drafts ∧
      FirstAt (fun _ m => m.marker.length ≠ 1) drafts j m ∧
        fault = .invalidMarker (context ++ ".messages[" ++ toString j ++ "].char") m.marker

/-- The fault that counts first. -/
def FirstFault (d : CaseDraft) (context : String) (fault : DraftFault) : Prop :=
  CountsFirst Defect.rank (d.Faulty context) fault

/-- The same case with its one message as a list. -/
def listed (d : CaseDraft) : CaseDraft :=
  match d.messageId, d.messages with
  | some messageId, none =>
    { d with
      messageId := none, data := none, suggestions := none
      messages := some [{ marker := "~", messageId, data := d.data,
                          suggestions := d.suggestions }] }
  | _, _ => d

variable {d : CaseDraft} {context : String} {fault : DraftFault}

/-- Both shapes, or none: nothing else counts. -/
theorem firstFault_of_ambiguous (h : d.messageId.isSome = d.messages.isSome) :
    d.FirstFault context fault ↔ fault = .ambiguousMessages context := by
  have hown : d.Faulty context .ambiguous (.ambiguousMessages context) := ⟨h, rfl⟩
  rw [FirstFault, countsFirst_iff Defect.rank_injective
    (fun _ hlt => absurd hlt (Nat.not_lt_zero _)) fun _ _ _ _ => ⟨_, hown⟩]
  exact and_iff_right h

/-- One message and no list has no fault. -/
theorem not_firstFault_of_oneMessage (hid : d.messageId.isSome) (hmessages : d.messages = none) :
    ¬ d.FirstFault context fault := by
  rintro ⟨kind, hfault, -⟩
  cases kind <;> simp [Faulty, hid, hmessages] at hfault

section
variable {drafts : List MessageDraft} (hid : d.messageId = none)
  (hmessages : d.messages = some drafts)
include hid hmessages

/-- A list alone is one shape. -/
theorem not_ambiguous (context : String) (other : DraftFault) :
    ¬ d.Faulty context .ambiguous other := by
  simp [Faulty, hid, hmessages]

theorem firstFault_of_data (hdata : d.data.isSome) :
    d.FirstFault context fault ↔ fault = .misplacedField context "data" := by
  have hambiguous := not_ambiguous hid hmessages context
  have hown : d.Faulty context .misplacedData (.misplacedField context "data") := by
    simp [Faulty, hmessages, hdata]
  have hsooner : ∀ sooner : Defect, sooner.rank < Defect.misplacedData.rank →
      ∀ other, ¬ d.Faulty context sooner other
    | .ambiguous, _ => hambiguous
  rw [FirstFault, countsFirst_iff Defect.rank_injective hsooner fun _ _ _ _ => ⟨_, hown⟩]
  simp [Faulty, hmessages, hdata]

theorem firstFault_of_suggestions (hdata : d.data = none) (hsuggestions : d.suggestions.isSome) :
    d.FirstFault context fault ↔ fault = .misplacedField context "suggestions" := by
  have hambiguous := not_ambiguous hid hmessages context
  have hown : d.Faulty context .misplacedSuggestions (.misplacedField context "suggestions") := by
    simp [Faulty, hmessages, hsuggestions]
  have hsooner : ∀ sooner : Defect, sooner.rank < Defect.misplacedSuggestions.rank →
      ∀ other, ¬ d.Faulty context sooner other
    | .ambiguous, _ => hambiguous
    | .misplacedData, _ => by simp [Faulty, hdata]
  rw [FirstFault, countsFirst_iff Defect.rank_injective hsooner fun _ _ _ _ => ⟨_, hown⟩]
  simp [Faulty, hmessages, hsuggestions]

theorem firstFault_of_markers (hdata : d.data = none) (hsuggestions : d.suggestions = none) :
    d.FirstFault context fault ↔
      ∃ j m, FirstAt (fun _ m => m.marker.length ≠ 1) drafts j m ∧
        fault = .invalidMarker (context ++ ".messages[" ++ toString j ++ "].char") m.marker := by
  have hambiguous := not_ambiguous hid hmessages context
  have hsooner : ∀ sooner : Defect, sooner.rank < Defect.badMarker.rank →
      ∀ other, ¬ d.Faulty context sooner other
    | .ambiguous, _ => hambiguous
    | .misplacedData, _ => by simp [Faulty, hdata]
    | .misplacedSuggestions, _ => by simp [Faulty, hsuggestions]
  have hlast : ∀ later : Defect, ¬ Defect.badMarker.rank < later.rank := by
    rintro (_ | _ | _ | _) <;> decide
  rw [FirstFault, countsFirst_iff Defect.rank_injective hsooner fun later hlt =>
    absurd hlt (hlast later)]
  simp [Faulty, hmessages]

end

theorem wellFormed_iff :
    d.WellFormed ↔
      (∃ messageId, d.messageId = some messageId ∧ d.messages = none) ∨
      ∃ drafts, d.messageId = none ∧ d.messages = some drafts ∧ d.data = none ∧
        d.suggestions = none ∧ ∀ m ∈ drafts, m.marker.length = 1 := by
  constructor
  · rintro ⟨hshape, hdata, hsuggestions, hmarkers⟩
    cases hid : d.messageId with
    | some messageId => exact .inl ⟨messageId, rfl, by simpa [hid] using hshape⟩
    | none =>
      have hne : d.messages ≠ none := by simpa [hid] using hshape.symm
      obtain ⟨drafts, hmessages⟩ := Option.ne_none_iff_exists'.1 hne
      have hsome : d.messages.isSome := by simp [hmessages]
      exact .inr ⟨drafts, rfl, hmessages, hdata hsome, hsuggestions hsome,
        hmarkers drafts hmessages⟩
  · rintro (⟨messageId, hid, hmessages⟩ | ⟨drafts, hid, hmessages, hdata, hsuggestions, hmarkers⟩)
    · exact ⟨by simp [hid, hmessages], by simp [hmessages], by simp [hmessages],
        by simp [hmessages]⟩
    · exact ⟨by simp [hid, hmessages], fun _ => hdata, fun _ => hsuggestions, by
        simpa [hmessages] using hmarkers⟩

end CaseDraft

namespace Draft

variable {d : CaseDraft} {context : String} {fault : DraftFault}

/-- **The fault of a case** is the one that counts first. -/
theorem shapeOf_eq_error_iff : shapeOf context d = .error fault ↔ d.FirstFault context fault := by
  unfold shapeOf
  cases hid : d.messageId with
  | some messageId =>
    cases hmessages : d.messages with
    | none =>
      exact iff_of_false (by simp)
        (CaseDraft.not_firstFault_of_oneMessage (by simp [hid]) hmessages)
    | some drafts =>
      rw [CaseDraft.firstFault_of_ambiguous (by simp [hid, hmessages])]
      simp [eq_comm]
  | none =>
    cases hmessages : d.messages with
    | none =>
      rw [CaseDraft.firstFault_of_ambiguous (by simp [hid, hmessages])]
      simp [eq_comm]
    | some drafts =>
      cases hdata : d.data with
      | some data =>
        rw [CaseDraft.firstFault_of_data hid hmessages (by simp [hdata])]
        simp [eq_comm]
      | none =>
        cases hsuggestions : d.suggestions with
        | some suggestions =>
          rw [CaseDraft.firstFault_of_suggestions hid hmessages hdata (by simp [hsuggestions])]
          simp [eq_comm]
        | none =>
          rw [CaseDraft.firstFault_of_markers hid hmessages hdata hsuggestions]
          simp [map_eq_error_iff, messagesOf_eq_error_iff]

/-- The two shapes of a case without a fault. -/
theorem shapeOf_eq_ok_iff {c : MarkedCase} :
    shapeOf context d = .ok c ↔
      (∃ messageId, d.messageId = some messageId ∧ d.messages = none ∧
        c = MarkedCase.single d.description d.source
          { messageId, data := d.data, suggestions := d.suggestions }) ∨
      (∃ drafts messages, d.messageId = none ∧ d.messages = some drafts ∧ d.data = none ∧
        d.suggestions = none ∧ List.Forall₂ MessageDraft.StandsFor drafts messages ∧
        c = MarkedCase.multiple d.description d.source messages) := by
  unfold shapeOf
  cases hid : d.messageId with
  | some messageId => cases hmessages : d.messages <;> simp [eq_comm]
  | none =>
    cases hmessages : d.messages with
    | none => simp
    | some drafts =>
      cases hdata : d.data with
      | some data => simp
      | none =>
        cases hsuggestions : d.suggestions with
        | some suggestions => simp
        | none => simp [map_eq_ok_iff, messagesOf_eq_ok_iff]

theorem exists_shapeOf_iff : (∃ c, shapeOf context d = .ok c) ↔ d.WellFormed := by
  simp only [shapeOf_eq_ok_iff, CaseDraft.wellFormed_iff]
  constructor
  · rintro ⟨c, ⟨messageId, hid, hmessages, -⟩ | ⟨drafts, messages, hid, hmessages, hdata,
      hsuggestions, hall, -⟩⟩
    · exact .inl ⟨messageId, hid, hmessages⟩
    · refine .inr ⟨drafts, hid, hmessages, hdata, hsuggestions, fun m hm => ?_⟩
      exact MessageDraft.exists_standsFor_iff.1 (exists_forall₂_iff.1 ⟨messages, hall⟩ m hm)
  · rintro (⟨messageId, hid, hmessages⟩ | ⟨drafts, hid, hmessages, hdata, hsuggestions, hmarkers⟩)
    · exact ⟨_, .inl ⟨messageId, hid, hmessages, rfl⟩⟩
    · obtain ⟨messages, hall⟩ := exists_forall₂_iff.2 fun m hm =>
        MessageDraft.exists_standsFor_iff.2 (hmarkers m hm)
      exact ⟨_, .inr ⟨drafts, messages, hid, hmessages, hdata, hsuggestions, hall, rfl⟩⟩

theorem exists_caseOf_iff : (∃ c, caseOf context d = .ok c) ↔ d.WellFormed := by
  rw [← @exists_shapeOf_iff d context]
  simp [caseOf, map_eq_ok_iff]

theorem caseOf_eq_error_iff : caseOf context d = .error fault ↔ d.FirstFault context fault := by
  rw [caseOf, map_eq_error_iff, shapeOf_eq_error_iff]

/-- **A case that is loaded** was well formed, and it is the drafted one. -/
theorem caseOf_eq_ok_iff {c : MarkedCase} :
    caseOf context d = .ok c ↔ d.WellFormed ∧ d.StandsFor c := by
  constructor
  · intro h
    refine ⟨exists_caseOf_iff.1 ⟨c, h⟩, ?_⟩
    obtain ⟨shape, hshape, rfl⟩ := map_eq_ok_iff.1 h
    rcases shapeOf_eq_ok_iff.1 hshape with
      ⟨messageId, hid, hmessages, rfl⟩ | ⟨drafts, messages, hid, hmessages, -, -, hall, rfl⟩
    · refine ⟨rfl, rfl, ?_, by simp [hmessages], rfl, rfl, rfl, rfl, rfl⟩
      intro other hother
      obtain rfl : messageId = other := by simpa [hid] using hother
      rfl
    · refine ⟨rfl, rfl, by simp [hid], ?_, rfl, rfl, rfl, rfl, rfl⟩
      intro other hother
      obtain rfl : drafts = other := by simpa [hmessages] using hother
      exact hall
  · rintro ⟨hwell, hc⟩
    have hshape : shapeOf context d =
        .ok { description := d.description, source := d.source, messages := c.messages } := by
      rw [shapeOf_eq_ok_iff]
      rcases CaseDraft.wellFormed_iff.1 hwell with
        ⟨messageId, hid, hmessages⟩ | ⟨drafts, hid, hmessages, hdata, hsuggestions, -⟩
      · refine .inl ⟨messageId, hid, hmessages, ?_⟩
        rw [hc.oneMessage messageId hid]
        rfl
      · exact .inr ⟨drafts, c.messages, hid, hmessages, hdata, hsuggestions,
          hc.messages drafts hmessages, rfl⟩
    rw [caseOf, hshape]
    obtain ⟨description, source, messages, options, output, outputs, filename, only⟩ := c
    obtain ⟨rfl, rfl, -, -, rfl, rfl, rfl, rfl, rfl⟩ := hc
    rfl

/-! ## All cases -/

theorem numbered_casesOf : Numbered (fun index => caseOf (item "invalid" index)) casesOf :=
  ⟨fun _ => rfl, fun _ _ _ => rfl⟩

theorem casesOf_eq_ok_iff {index : Nat} {drafts : List CaseDraft} {cases : List MarkedCase} :
    casesOf index drafts = .ok cases ↔
      List.Forall₂ (fun d c => d.WellFormed ∧ d.StandsFor c) drafts cases :=
  numbered_casesOf.eq_ok_iff fun _ _ _ => caseOf_eq_ok_iff

theorem exists_casesOf_iff {index : Nat} {drafts : List CaseDraft} :
    (∃ cases, casesOf index drafts = .ok cases) ↔ ∀ d ∈ drafts, d.WellFormed := by
  simp only [casesOf_eq_ok_iff, exists_forall₂_iff]
  refine forall₂_congr fun d _ => ?_
  simpa only [caseOf_eq_ok_iff] using @exists_caseOf_iff d ""

/-- **The fault of some cases** is that of the first one that is not well formed. -/
theorem casesOf_eq_error_iff {drafts : List CaseDraft} :
    casesOf 0 drafts = .error fault ↔
      ∃ i d, FirstAt (fun _ d => ¬ d.WellFormed) drafts i d ∧
        d.FirstFault ("invalid[" ++ toString i ++ "]") fault := by
  rw [numbered_casesOf.eq_error_iff fun _ _ => exists_caseOf_iff]
  refine exists_congr fun i => exists_congr fun d => and_congr_right fun _ => ?_
  have hcontext : item "invalid" (0 + i) = "invalid[" ++ toString i ++ "]" := by
    apply String.toList_injective
    simp [item]
  rw [caseOf_eq_error_iff, hcontext]

/-- A case with one message is loaded as the list of that message under the default marker. -/
theorem caseOf_listed (context : String) (d : CaseDraft) :
    caseOf context d.listed = caseOf context d := by
  unfold CaseDraft.listed
  split
  · next messageId hid hmessages =>
    have hlist : messagesOf context 0
        [{ marker := "~", messageId, data := d.data, suggestions := d.suggestions }] =
          .ok [{ marker := '~', messageId, data := d.data, suggestions := d.suggestions }] :=
      messagesOf_eq_ok_iff.2 (.cons ⟨rfl, rfl, rfl, rfl⟩ .nil)
    simp [caseOf, shapeOf, hid, hmessages, hlist, Except.map, MarkedCase.single,
      MarkedCase.multiple, defaultMarker]
  · rfl

theorem casesOf_map_listed (index : Nat) (drafts : List CaseDraft) :
    casesOf index (drafts.map CaseDraft.listed) = casesOf index drafts := by
  induction drafts generalizing index with
  | nil => rfl
  | cons d rest ih => simp only [List.map_cons, casesOf, caseOf_listed, ih]

end Draft

/-- **Exact outcome of loading a draft.** It succeeds exactly if every case is well formed, and then
the suite has the rule of the draft and the drafted cases, in order. Otherwise the fault is the one
that counts first in the first case that is not well formed, and names the index of the case. A case
with one message gives the same as with the list of that message. -/
theorem Suite.ofDraft_outcome (d : SuiteDraft) :
    ((∃ s, Suite.ofDraft d = .ok s) ↔ ∀ c ∈ d.cases, c.WellFormed) ∧
    (∀ s, Suite.ofDraft d = .ok s →
      s.rule = d.rule ∧ List.Forall₂ CaseDraft.StandsFor d.cases s.cases) ∧
    (∀ fault, Suite.ofDraft d = .error fault ↔
      ∃ i c, FirstAt (fun _ c => ¬ c.WellFormed) d.cases i c ∧
        c.FirstFault ("invalid[" ++ toString i ++ "]") fault) ∧
    Suite.ofDraft { d with cases := d.cases.map CaseDraft.listed } = Suite.ofDraft d := by
  refine ⟨?_, fun s h => ?_, fun fault => ?_, ?_⟩
  · rw [← @Draft.exists_casesOf_iff 0]
    simp [Suite.ofDraft, map_eq_ok_iff]
  · obtain ⟨cases, hcases, rfl⟩ := map_eq_ok_iff.1 h
    exact ⟨rfl, (Draft.casesOf_eq_ok_iff.1 hcases).imp fun _ _ h => h.2⟩
  · rw [Suite.ofDraft, map_eq_error_iff, Draft.casesOf_eq_error_iff]
  · simp only [Suite.ofDraft, Draft.casesOf_map_listed]

-- The second and the third case are wrong, the second in two ways.
example : Suite.ofDraft { rule := none, cases :=
    [⟨"right", "x\n~", some "a", none, none, none, [], none, [], none, false⟩,
     ⟨"data and a long marker", "x\n~", none, some [], none, some [⟨"~~", "a", none, none⟩], [],
      none, [], none, false⟩,
     ⟨"no message", "x\n~", none, none, none, none, [], none, [], none, false⟩] } =
      .error (.misplacedField "invalid[1]" "data") := rfl

end MarkLine
