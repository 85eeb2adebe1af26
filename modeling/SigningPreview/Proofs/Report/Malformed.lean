import SigningPreview.Proofs.Report.Conservation
import SigningPreview.Proofs.Wire.Places

/-! # A malformed record and the run around it

The records of a response are read before any of them is decided on, so leniency does not reach a
record that cannot be read: a run has an outcome if and only if every record is well formed, and
otherwise ends with the fault of the first one that is not (`Outcome.ofText_envelope`). Nothing is
reported of the records that are well formed. -/
namespace SigningPreview

open Json (Document Node)
open Json.Node (ofMembers ofString whole_obj_iff)

variable {c : Chain}

/-- A text is a response around some trees of records when everything else in it is well formed:
without the records it would be read as `r`. -/
def Response.Envelope (text : String) (records : List Node) (r : Response (Record c)) : Prop :=
  ∃ m m', EffectsSwap (.arr [] true) (.arr records true) m m' ∧
    (codec (Record.codec c)).read m = .ok r ∧ Document.ofText text = ⟨m', true⟩

theorem Response.Envelope.read {text : String} {records : List Node} {r : Response (Record c)}
    (h : Envelope text records r) :
    Response.ofText c text =
      (records.mapM (Record.codec c).read).map fun effects => { r with effects } := by
  obtain ⟨m, m', swap, hr, htext⟩ := h
  obtain ⟨-, hm'⟩ := read_effectsSwap swap hr
  rw [Response.ofText, htext, Document.read, hm']
  change (((records.mapM (Record.codec c).read >>= fun effects => pure effects).map _) >>= _) = _
  cases records.mapM (Record.codec c).read <;> rfl

namespace Outcome

variable {text : String} {records : List Node} {r : Response (Record c)}

theorem ofText_of_wellFormed (h : Response.Envelope text records r) {effects : List (Record c)}
    (heffects : records.mapM (Record.codec c).read = .ok effects) :
    ofText c false text = .ok (lenient { r with effects }) := by
  rw [ofText, h.read, heffects]; rfl

theorem ofText_of_malformed (h : Response.Envelope text records r) {before after : List Node}
    {record : Node} {effects : List (Record c)} {fault : Json.Fault}
    (hrecords : records = before ++ record :: after)
    (hbefore : before.mapM (Record.codec c).read = .ok effects)
    (hrecord : (Record.codec c).read record = .error fault) :
    ofText c false text = .error (.unreadable fault) := by
  rw [ofText, h.read, hrecords, mapM_append_cons_error hbefore hrecord]; rfl

/-- A lenient run has an outcome exactly when every record is well formed, and then the outcome of
all of them; otherwise it ends with the fault of the first malformed record. -/
theorem ofText_envelope (h : Response.Envelope text records r) :
    ((∃ o, ofText c false text = .ok o) ↔
      ∀ record ∈ records, ∃ s, (Record.codec c).read record = .ok s) ∧
    (∀ effects, records.mapM (Record.codec c).read = .ok effects →
      ofText c false text = .ok (lenient { r with effects })) ∧
    ∀ before record after effects fault, records = before ++ record :: after →
      before.mapM (Record.codec c).read = .ok effects →
      (Record.codec c).read record = .error fault →
      ofText c false text = .error (.unreadable fault) := by
  refine ⟨⟨fun ⟨o, ho⟩ record hrecord => ?_, fun wellFormed => ?_⟩,
    fun effects => ofText_of_wellFormed h,
    fun before record after effects fault => ofText_of_malformed h⟩
  · rcases mapM_cases (Record.codec c).read records with
      ⟨effects, heffects⟩ | ⟨before, bad, after, effects, fault, hrecords, hbefore, hbad⟩
    · obtain ⟨before, after, rfl⟩ := List.append_of_mem hrecord
      obtain ⟨-, s, -, -, hs, -⟩ := mapM_append_cons_eq_ok_iff.1 heffects
      exact ⟨s, hs⟩
    · rw [ofText_of_malformed h hrecords hbefore hbad] at ho
      cases ho
  · rcases mapM_cases (Record.codec c).read records with
      ⟨effects, heffects⟩ | ⟨before, bad, after, effects, fault, hrecords, hbefore, hbad⟩
    · exact ⟨_, ofText_of_wellFormed h heffects⟩
    · obtain ⟨s, hs⟩ := wellFormed bad (by simp [hrecords])
      rw [hbad] at hs
      cases hs

/-! ## A record without content -/

/-- A record of a coin that is sent. -/
def coinSent : Node :=
  ofMembers [("humanReadableDiff", ofString "Send 1 ETH"),
    ("rawInfo", ofMembers [("data", ofMembers [("nativeAssetTransferData", ofMembers [("amount",
      ofMembers [("before", ofString "1000000000000000000"), ("after", ofString "0")])])])])]

theorem envelope_around (records : List Node) (h : ∀ record ∈ records, record.Whole) :
    Response.Envelope (c := .evm) (Response.around (.arr records true)).compact records
      ⟨.none, [], none, []⟩ := by
  have whole : (Response.around (.arr records true)).Whole := Response.whole_around (.arr h)
  exact ⟨_, _, Response.effectsSwap_around _ _, rfl, Node.ofText_compact whole⟩

theorem whole_coinSent : coinSent.Whole := by
  simp [coinSent, ofMembers, ofString, whole_obj_iff, Node.Whole.str]

/-- The coin that is sent has an entry when it is alone, but not beside a record without content. -/
theorem ofText_envelope_coinSent :
    (∃ o, ofText .evm false (Response.around (.arr [coinSent] true)).compact = .ok o ∧
      o.report.sections.map (fun s => (s.category, s.entries.map Entry.headline)) =
        [(.transfer, ["Send 1 ETH"])]) ∧
    ofText .evm false (Response.around (.arr [coinSent, .obj [] true] true)).compact =
      .error (.unreadable (.missingField "rawInfo")) := by
  have alone := envelope_around [coinSent] (by simp [whole_coinSent])
  have beside := envelope_around [coinSent, .obj [] true] (by simp [whole_coinSent, whole_obj_iff])
  constructor
  · obtain ⟨-, outcome, -⟩ := ofText_envelope alone
    refine ⟨_, outcome _ rfl, ?_⟩
    decide +kernel
  · obtain ⟨-, -, failure⟩ := ofText_envelope beside
    exact failure [coinSent] (.obj [] true) [] _ _ rfl rfl rfl

/-- A record without content is an object, and leaves the run without an outcome. -/
theorem not_forall_envelope_outcome :
    ¬ ∀ (text : String) (records : List Node) (r : Response (Record .evm)),
      Response.Envelope text records r →
        (∀ record ∈ records, ∃ members, record = .obj members true) →
          ∃ o, ofText .evm false text = .ok o := by
  intro h
  have envelope := envelope_around [.obj [] true] (by simp [whole_obj_iff])
  obtain ⟨o, ho⟩ := h _ _ _ envelope (by simp)
  have first : [Node.obj [] true] = [] ++ .obj [] true :: [] := rfl
  have failure := ofText_of_malformed envelope first rfl rfl
  rw [failure] at ho
  cases ho

end Outcome

end SigningPreview
