import SigningPreview.Proofs.Strict.Record

/-! # Effects, and the records they are decided from

A record is decided on by the places of its data object and the order in which they count, and an
effect is written into the place of its own kind. The kinds of a record, the payload that counts and
the place of a payload are tables of their own; here they are held against each other. First the way
from an effect to its record and back: nothing is lost on it, and strict decoding takes the record
unless its tag contradicts it (`Effect.toRecord_coherent`). Then the way from a record with any
number of payloads to its effect and back, which is a normal form: it keeps what counts, and leaves
a record as it is exactly when there was nothing to leave out (`Record.normalizes`). -/
namespace SigningPreview

variable {c : Chain}

/-! ## The record of an effect -/

namespace Effect

theorem payloads_toRecord (e : Effect c) : c.payloads e.toRecord.data = e.payload.toList :=
  c.payloads_ofPayload e.payload

theorem kinds_toRecord (e : Effect c) : e.toRecord.kinds = e.kind?.toList := by
  rw [Record.kinds_eq_map, payloads_toRecord, kind?]
  cases e.payload <;> rfl

/-- The payload of an effect takes its own place in the record, and no other place is taken. -/
theorem holds_toRecord {e : Effect c} {p : c.Payload} :
    c.Holds e.toRecord.data p ↔ e.payload = some p := by
  rw [← Chain.mem_payloads, payloads_toRecord, Option.mem_toList]

theorem only_toRecord {e : Effect c} {p : c.Payload} (h : e.payload = some p) :
    Chain.Only e.toRecord.data p := by
  refine ⟨holds_toRecord.2 h, fun q hq => ?_⟩
  have hq : e.payload = some q := holds_toRecord.1 hq
  exact Option.some.inj (hq.symm.trans h)

theorem decodeStrict_toRecord {e : Effect c} {p : c.Payload} (h : e.payload = some p)
    (ht : e.tag.Allows (c.kind p)) : e.toRecord.decodeStrict = .ok e := by
  have strict := Record.decodeStrict_of_only (only_toRecord h) ht
  rw [strict, decode_toRecord]

theorem decodeStrict_toRecord_of_contradiction {e : Effect c} {p : c.Payload} {k : PayloadKind}
    (h : e.payload = some p) (ht : e.tag = .known k) (hk : k ≠ c.kind p) :
    e.toRecord.decodeStrict = .error (.contradictingTag e.tag (c.kind p)) :=
  Record.decodeStrict_of_contradiction (only_toRecord h) ht hk

theorem decodeStrict_toRecord_of_unrecognized {e : Effect c} (h : e.payload = none) :
    e.toRecord.decodeStrict = .error (.noPayload e.tag) := by
  refine Record.decodeStrict_of_none fun p hp => ?_
  have hp : e.payload = some p := holds_toRecord.1 hp
  rw [h] at hp
  cases hp

/-- What ties an effect to the record it is written as. -/
structure Coherent (e : Effect c) : Prop where
  places : ∀ p, c.Holds e.toRecord.data p ↔ e.payload = some p
  decoded : e.toRecord.decode = e
  kinds : e.toRecord.kinds = e.kind?.toList
  accepted : ∀ p, e.payload = some p → e.tag.Allows (c.kind p) → e.toRecord.decodeStrict = .ok e
  contradicted : ∀ p k, e.payload = some p → e.tag = .known k → k ≠ c.kind p →
    e.toRecord.decodeStrict = .error (.contradictingTag (.known k) (c.kind p))
  unrecognized : e.payload = none → e.toRecord.decodeStrict = .error (.noPayload e.tag)

/-- Every effect is coherent with its record, whatever its tag. An effect that is tagged with its
own kind therefore passes strict decoding unchanged. -/
theorem toRecord_coherent (e : Effect c) :
    e.Coherent ∧ ∀ headline p,
      (ofPayload headline (some p)).toRecord.decodeStrict =
        .ok (ofPayload (c := c) headline (some p)) := by
  constructor
  · constructor
    case places => exact fun p => holds_toRecord
    case decoded => exact e.decode_toRecord
    case kinds => exact e.kinds_toRecord
    case accepted => exact fun p => decodeStrict_toRecord
    case contradicted =>
      intro p k h ht hk
      rw [decodeStrict_toRecord_of_contradiction h ht hk, ht]
    case unrecognized => exact decodeStrict_toRecord_of_unrecognized
  · intro headline p
    have own : (Tag.known (c.kind p)).Allows (c.kind p) := .inr rfl
    exact decodeStrict_toRecord rfl own

end Effect

/-! ## The normal form of a record -/

namespace Record

/-- The record in which nothing is left but the payload that counts. -/
def normalize (r : Record c) : Record c := r.decode.toRecord

theorem kind?_decode (r : Record c) : r.decode.kind? = r.kinds.head? := by
  rw [Effect.kind?, decode_payload, kinds_eq_map, List.head?_map]

theorem decode_payload_eq_none_iff {r : Record c} : r.decode.payload = none ↔ r.kinds = [] := by
  rw [decode_payload, kinds_eq_map, List.map_eq_nil_iff, List.head?_eq_none_iff]

/-- The payload that counts is the one in the place of the first kind. Nothing is asked of the other
places, and no other payload has that kind. -/
theorem decode_payload_eq_some_iff {r : Record c} {p : c.Payload} :
    r.decode.payload = some p ↔ c.Holds r.data p ∧ r.kinds.head? = some (c.kind p) := by
  have distinct := c.nodup_kinds r.data
  rw [c.kinds_eq_map] at distinct
  rw [← Chain.mem_payloads, decode_payload, kinds_eq_map]
  cases hps : c.payloads r.data with
  | nil => simp
  | cons q qs =>
    rw [hps, List.map_cons, List.nodup_cons] at distinct
    simp only [List.head?_cons, List.map_cons, Option.some.injEq]
    constructor
    · rintro rfl
      exact ⟨List.mem_cons_self .., rfl⟩
    · rintro ⟨hp, hk⟩
      rcases List.mem_cons.1 hp with rfl | hp
      · rfl
      · have again : c.kind q ∈ qs.map c.kind := hk ▸ List.mem_map_of_mem hp
        exact absurd again distinct.1

theorem payloads_normalize (r : Record c) :
    c.payloads r.normalize.data = (c.payloads r.data).take 1 := by
  rw [normalize, Effect.payloads_toRecord, decode_payload]
  cases c.payloads r.data <;> rfl

theorem kinds_normalize (r : Record c) : r.normalize.kinds = r.kinds.take 1 := by
  rw [kinds_eq_map, kinds_eq_map, payloads_normalize, List.map_take]

theorem decode_normalize (r : Record c) : r.normalize.decode = r.decode := r.decode.decode_toRecord

theorem normalize_normalize (r : Record c) : r.normalize.normalize = r.normalize := by
  rw [normalize, decode_normalize, ← normalize]

theorem normalize_eq_self_iff {r : Record c} : r.normalize = r ↔ r.kinds.length ≤ 1 := by
  rw [kinds_eq_map, List.length_map]
  constructor
  · intro h
    have cut := r.payloads_normalize
    rw [h] at cut
    rw [cut]
    exact List.length_take_le ..
  · intro h
    have same : r.normalize.data = r.data := Chain.eq_of_payloads_eq <| by
      rw [payloads_normalize, List.take_of_length_le h]
    obtain ⟨headline, tag, data⟩ := r
    exact congrArg (mk headline tag) same

/-- How a record with any number of payloads is decided on, and what is left of it then. -/
structure Normalizes (r : Record c) : Prop where
  headline : r.decode.headline = r.headline
  tag : r.decode.tag = r.tag
  /-- The kinds are those whose places are taken, in the order in which they count. -/
  kinds : r.kinds = c.priority.filter (c.has r.data)
  kind : r.decode.kind? = r.kinds.head?
  unrecognized : r.decode.payload = none ↔ r.kinds = []
  first : ∀ p, r.decode.payload = some p ↔ c.Holds r.data p ∧ r.kinds.head? = some (c.kind p)
  cut : r.normalize.kinds = r.kinds.take 1
  decoded : r.normalize.decode = r.decode
  idempotent : r.normalize.normalize = r.normalize
  fixed : r.normalize = r ↔ r.kinds.length ≤ 1

/-- Deciding by priority normalizes every record. -/
theorem normalizes (r : Record c) : r.Normalizes where
  headline := rfl
  tag := rfl
  kinds := r.kinds_eq
  kind := r.kind?_decode
  unrecognized := decode_payload_eq_none_iff
  first _ := decode_payload_eq_some_iff
  cut := r.kinds_normalize
  decoded := r.decode_normalize
  idempotent := r.normalize_normalize
  fixed := normalize_eq_self_iff

end Record

end SigningPreview
