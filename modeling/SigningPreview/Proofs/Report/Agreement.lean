import SigningPreview.Proofs.Report.Accounts
import SigningPreview.Proofs.Strict.Verdict

/-! # Strict and lenient runs agree

When strict grouping succeeds every record is sound. Then strict decoding is decoding, the two
groupings are the same, no effect is dropped or skipped, and the outcomes are equal, events
included. -/
namespace SigningPreview

variable {c : Chain}

theorem Record.decodeStrict_of_sound {r : Record c} (h : r.Sound) :
    r.decodeStrict = .ok r.decode := by
  obtain ⟨p, hp⟩ := h
  exact decodeStrict_of_only hp.only hp.tag

namespace Outcome

variable {r : Response (Record c)}

/-! ## Responses of sound records -/

theorem warnings_of_sound (h : ∀ s ∈ r.effects, s.Sound) :
    r.effects.flatMap Record.decodeEvents = [] := by
  refine List.flatMap_eq_nil_iff.2 fun s hs => ?_
  obtain ⟨p, hp⟩ := h s hs
  rw [Record.decodeEvents, Record.kinds_of_only hp.only]
  rfl

/-- Of a sound record there is an entry, and no event. -/
theorem shown_of_sound (h : ∀ s ∈ r.effects, s.Sound) :
    ∀ e ∈ r.decoded, ∃ v, e.category? = some v.category ∧ e.view = .ok (some v) := by
  intro e he
  obtain ⟨s, hs, rfl⟩ := List.mem_map.1 he
  exact s.view_of_sound (h s hs)

theorem drops_of_sound (h : ∀ s ∈ r.effects, s.Sound) :
    r.decoded.flatMap Effect.groupEvents = [] := by
  refine List.flatMap_eq_nil_iff.2 fun e he => ?_
  obtain ⟨v, hk, -⟩ := shown_of_sound h e he
  rw [Effect.groupEvents, hk]

theorem skips_of_sound (h : ∀ s ∈ r.effects, s.Sound) :
    Report.events (Grouping.ofEffects r.decoded) = [] := by
  refine List.flatMap_eq_nil_iff.2 fun k _ => List.flatMap_eq_nil_iff.2 fun e he => ?_
  rw [bucket_lenient] at he
  obtain ⟨v, -, hv⟩ := shown_of_sound h e (List.mem_filter.1 he).1
  rw [Effect.entryEvents, hv]

theorem events_of_sound (h : ∀ s ∈ r.effects, s.Sound) :
    (lenient r).events = [(Grouping.ofEffects r.decoded).event r.effects.length] := by
  change r.effects.flatMap Record.decodeEvents ++ r.decoded.flatMap Effect.groupEvents ++ _ :: _ = _
  rw [warnings_of_sound h, drops_of_sound h]
  exact congrArg (_ :: ·) (skips_of_sound h)

/-- On sound records the strict rules change nothing at all. -/
theorem strict_of_sound (h : ∀ s ∈ r.effects, s.Sound) : strict r = .ok (lenient r) := by
  rw [strict, Grouping.ofRecordsStrict_of_sound h]
  change Except.ok (Outcome.mk (lenient r).report (r.effects.flatMap Record.decodeEvents
    ++ (Grouping.ofEffects r.decoded).event r.effects.length
    :: Report.events (Grouping.ofEffects r.decoded))) = _
  rw [warnings_of_sound h, skips_of_sound h, List.nil_append, ← events_of_sound h]

theorem length_entries_of_sound (h : ∀ s ∈ r.effects, s.Sound) :
    ((lenient r).report.sections.flatMap Section.entries).length = r.effects.length := by
  rw [length_entries_lenient, List.length_filterMap_eq_countP]
  refine (List.countP_eq_length.2 fun e he => ?_).trans (List.length_map ..)
  obtain ⟨v, -, hv⟩ := shown_of_sound h e he
  rw [Effect.shown?, hv]; rfl

/-! ## The agreement -/

/-- What it means that the strict rules made no difference to a response: `g` is the grouping and
`o` the outcome, whichever way the response is run. -/
structure Agrees (r : Response (Record c)) (g : Grouping (Effect c)) (o : Outcome) : Prop where
  decoding : r.mapM Record.decodeStrict = .ok (r.map Record.decode)
  grouping : g = Grouping.ofEffects (r.map Record.decode).effects
  runs : ∀ isStrict, ofResponse isStrict r = .ok o
  reads : ∀ text, Response.ofText c text = .ok r → ∀ isStrict, ofText c isStrict text = .ok o
  /-- No record is without an entry. -/
  complete : (o.report.sections.flatMap Section.entries).length = r.effects.length
  /-- Nothing is noted but the sizes of the lists. -/
  quiet : o.events = [.grouped r.effects.length g.transfers.length g.approvals.length
    g.stakeAuthorityChanges.length]

theorem strict_agrees {r : Response (Record c)} {g : Grouping (Effect c)}
    (h : Grouping.ofRecordsStrict r.effects = .ok g) : ∃ o, Agrees r g o := by
  have sound := Grouping.sound_of_ofRecordsStrict h
  have hg : g = Grouping.ofEffects r.decoded := by
    rw [Grouping.ofRecordsStrict_of_sound sound] at h
    exact (Except.ok.inj h).symm
  have runs (isStrict : Bool) : ofResponse isStrict r = .ok (lenient r) := by
    cases isStrict with
    | true => exact strict_of_sound sound
    | false => rfl
  refine ⟨lenient r, ?_, hg, runs, ?_, length_entries_of_sound sound, ?_⟩
  · have decoding := mapM_eq_ok fun s hs => Record.decodeStrict_of_sound (sound s hs)
    rw [Response.mapM, decoding]; rfl
  · intro text htext isStrict
    rw [ofText, htext]
    change (ofResponse isStrict r).mapError RunError.refused = _
    rw [runs]; rfl
  · rw [events_of_sound sound, hg]; rfl

/-- A coin transfer and an allowance that pass the strict rules: one tag names its payload's kind,
the other leaves it open. -/
def cleanResponse : Response (Record .evm) where
  action := .warn
  warnings := [⟨"NEW_DOMAIN", .warning, "This domain was registered recently"⟩]
  failure := none
  effects :=
    [⟨"Send 1 ETH", .known .nativeAssetTransfer, .ofPayload (some (.nativeTransfer
        ⟨⟨⟨"1000000000000000000"⟩, ⟨" 0 "⟩⟩, .blank,
          { Asset.blank with symbol := "ETH", decimals := 18, verified := true }⟩))⟩,
      ⟨"Approve 5 DAI", .other "", .ofPayload (some (.erc20Approval
        ⟨⟨⟨"0"⟩, ⟨"5"⟩⟩, { Asset.blank with symbol := "DAI" },
          .account "0x6b175474e89094c44da98b954eedeac495271d0f", .blank,
          .account "0X68B3465833FB72A70ECDF485E0E4C7BD8665FC45"⟩))⟩]

theorem strict_agrees_cleanResponse :
    ∃ g, Grouping.ofRecordsStrict cleanResponse.effects = .ok g ∧
      (g.transfers.length = 1 ∧ g.approvals.length = 1) ∧ ∃ o, Agrees cleanResponse g o := by
  have h : Grouping.ofRecordsStrict cleanResponse.effects =
      .ok (Grouping.ofEffects (cleanResponse.effects.map Record.decode)) := rfl
  exact ⟨_, h, by decide +kernel, strict_agrees h⟩

end Outcome

end SigningPreview
