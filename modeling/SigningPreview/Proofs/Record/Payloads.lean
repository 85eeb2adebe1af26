import SigningPreview.Record

/-! # The payloads of a data object

Which payloads a data object has is said place by place: `Chain.Holds` looks into the place of one
payload, `Chain.has` asks whether the place of a kind is taken. `Chain.payloads` lists the payloads
in the order in which they count. The table of kinds and the choice of one payload are made
independently of each other; both follow from that list (`Chain.kinds_eq_map`,
`Chain.payload?_eq_head?`), so they agree on the order. -/
namespace SigningPreview

/-! ## One place after the other -/

section
variable {α β : Type} {kind : β → PayloadKind} {place : Option α} {make : α → β} {k : PayloadKind}
  {places : List (Option β)}

/-- One place more at the front of a table, and at the front of the payloads. -/
theorem ofPlaces_cons_place {table : List (Bool × PayloadKind)} (hmake : ∀ a, kind (make a) = k)
    (ih : PayloadKind.ofPlaces table = (places.filterMap id).map kind) :
    PayloadKind.ofPlaces ((place.isSome, k) :: table) =
      ((place.map make :: places).filterMap id).map kind := by
  cases place with
  | none => exact ih
  | some a =>
    change k :: PayloadKind.ofPlaces table = kind (make a) :: (places.filterMap id).map kind
    rw [hmake, ih]

/-- One place more that is looked into before the others. -/
theorem eq_head?_cons_place {chosen : Option β} (taken : ∀ a, place = some a → chosen = make a)
    (free : place = none → chosen = (places.filterMap id).head?) :
    chosen = ((place.map make :: places).filterMap id).head? := by
  cases hplace : place with
  | none => exact free hplace
  | some a => exact taken a hplace

end

/-- A table in which every place is asked for by its kind. -/
theorem ofPlaces_map (has : PayloadKind → Bool) (ks : List PayloadKind) :
    PayloadKind.ofPlaces (ks.map fun k => (has k, k)) = ks.filter has := by
  rw [PayloadKind.ofPlaces, List.filterMap_map, ← List.filterMap_eq_filter]
  rfl

/-! ## Places -/

namespace Evm.Data

/-- The data object has this payload in its place. -/
def Holds (d : Data) : Payload → Prop
  | .erc20Transfer t => d.erc20Transfer = some t
  | .erc721Transfer t => d.erc721Transfer = some t
  | .erc1155Transfer t => d.erc1155Transfer = some t
  | .nativeTransfer t => d.nativeTransfer = some t
  | .erc20Approval a => d.erc20Approval = some a
  | .erc721Approval a => d.erc721Approval = some a
  | .erc721Operator a => d.erc721Operator = some a
  | .erc1155Operator a => d.erc1155Operator = some a

/-- Whether the place of a kind is taken. -/
def has (d : Data) : PayloadKind → Bool
  | .erc20Transfer => d.erc20Transfer.isSome
  | .erc721Transfer => d.erc721Transfer.isSome
  | .erc1155Transfer => d.erc1155Transfer.isSome
  | .nativeAssetTransfer => d.nativeTransfer.isSome
  | .erc20Approval => d.erc20Approval.isSome
  | .erc721Approval => d.erc721Approval.isSome
  | .erc721ApprovalForAll => d.erc721Operator.isSome
  | .erc1155ApprovalForAll => d.erc1155Operator.isSome
  | _ => false

/-- The payloads of a data object, the one that counts first. -/
def payloads (d : Data) : List Payload :=
  [d.erc20Approval.map .erc20Approval, d.erc721Approval.map .erc721Approval,
    d.erc721Operator.map .erc721Operator, d.erc1155Operator.map .erc1155Operator,
    d.erc20Transfer.map .erc20Transfer, d.erc721Transfer.map .erc721Transfer,
    d.erc1155Transfer.map .erc1155Transfer, d.nativeTransfer.map .nativeTransfer].filterMap id

theorem mem_payloads {d : Data} {p : Payload} : p ∈ d.payloads ↔ d.Holds p := by
  cases p <;> simp [payloads, Holds, List.mem_filterMap, eq_comm (a := some _)]

/-- A data object is nothing but its places. -/
theorem eq_of_holds {d d' : Data} (h : ∀ p, d.Holds p ↔ d'.Holds p) : d = d' := by
  cases d
  cases d'
  rw [mk.injEq]
  exact ⟨Option.ext fun t => h (.erc20Transfer t), Option.ext fun t => h (.erc721Transfer t),
    Option.ext fun t => h (.erc1155Transfer t), Option.ext fun t => h (.nativeTransfer t),
    Option.ext fun a => h (.erc20Approval a), Option.ext fun a => h (.erc721Approval a),
    Option.ext fun a => h (.erc721Operator a), Option.ext fun a => h (.erc1155Operator a)⟩

theorem payloads_ofPayload (p : Option Payload) : (ofPayload p).payloads = p.toList := by
  cases p with
  | none => rfl
  | some p => cases p <;> rfl

theorem kinds_eq_map (d : Data) : d.kinds = d.payloads.map Payload.kind := by
  iterate 8 refine ofPlaces_cons_place (fun _ => rfl) ?_
  rfl

theorem payload?_eq_head? (d : Data) : d.payload? = d.payloads.head? := by
  rw [payload?, payloads]
  -- One branch for each place, in the same order as in the list.
  iterate 8
    refine eq_head?_cons_place (fun a taken => by simp only [taken]) fun free => ?_
    simp only [free]
  rfl

end Evm.Data

namespace Solana.Data

/-- The data object has this payload in its place. -/
def Holds (d : Data) : Payload → Prop
  | .solTransfer t => d.solTransfer = some t
  | .splTransfer t => d.splTransfer = some t
  | .splApproval a => d.splApproval = some a
  | .authorityChange c => d.authorityChange = some c

/-- Whether the place of a kind is taken. -/
def has (d : Data) : PayloadKind → Bool
  | .solTransfer => d.solTransfer.isSome
  | .splTransfer => d.splTransfer.isSome
  | .splApproval => d.splApproval.isSome
  | .solStakeAuthorityChange => d.authorityChange.isSome
  | _ => false

/-- The payloads of a data object, the one that counts first. -/
def payloads (d : Data) : List Payload :=
  [d.authorityChange.map .authorityChange, d.splApproval.map .splApproval,
    d.solTransfer.map .solTransfer, d.splTransfer.map .splTransfer].filterMap id

theorem mem_payloads {d : Data} {p : Payload} : p ∈ d.payloads ↔ d.Holds p := by
  cases p <;> simp [payloads, Holds, List.mem_filterMap, eq_comm (a := some _)]

/-- A data object is nothing but its places. -/
theorem eq_of_holds {d d' : Data} (h : ∀ p, d.Holds p ↔ d'.Holds p) : d = d' := by
  cases d
  cases d'
  rw [mk.injEq]
  exact ⟨Option.ext fun t => h (.solTransfer t), Option.ext fun t => h (.splTransfer t),
    Option.ext fun a => h (.splApproval a), Option.ext fun c => h (.authorityChange c)⟩

theorem payloads_ofPayload (p : Option Payload) : (ofPayload p).payloads = p.toList := by
  cases p with
  | none => rfl
  | some p => cases p <;> rfl

theorem kinds_eq_map (d : Data) : d.kinds = d.payloads.map Payload.kind := by
  iterate 4 refine ofPlaces_cons_place (fun _ => rfl) ?_
  rfl

theorem payload?_eq_head? (d : Data) : d.payload? = d.payloads.head? := by
  rw [payload?, payloads]
  iterate 4
    refine eq_head?_cons_place (fun a taken => by simp only [taken]) fun free => ?_
    simp only [free]
  rfl

end Solana.Data

/-! ## Kinds by priority -/

namespace Chain

/-- The data object has this payload in its place. -/
def Holds : (c : Chain) → c.Data → c.Payload → Prop
  | evm => Evm.Data.Holds
  | svm => Solana.Data.Holds

/-- Whether the place of a kind is taken. -/
def has : (c : Chain) → c.Data → PayloadKind → Bool
  | evm => Evm.Data.has
  | svm => Solana.Data.has

/-- The kinds of a chain in the order in which they count. -/
def priority : Chain → List PayloadKind
  | evm => [.erc20Approval, .erc721Approval, .erc721ApprovalForAll, .erc1155ApprovalForAll,
    .erc20Transfer, .erc721Transfer, .erc1155Transfer, .nativeAssetTransfer]
  | svm => [.solStakeAuthorityChange, .splApproval, .solTransfer, .splTransfer]

/-- The payloads of a data object, the one that counts first. -/
def payloads : (c : Chain) → c.Data → List c.Payload
  | evm => Evm.Data.payloads
  | svm => Solana.Data.payloads

theorem payloads_ofPayload (c : Chain) (p : Option c.Payload) :
    c.payloads (c.ofPayload p) = p.toList := by
  cases c
  · exact Evm.Data.payloads_ofPayload p
  · exact Solana.Data.payloads_ofPayload p

theorem nodup_priority (c : Chain) : c.priority.Nodup := by cases c <;> decide

theorem mem_payloads {c : Chain} {d : c.Data} {p : c.Payload} :
    p ∈ c.payloads d ↔ c.Holds d p := by
  cases c
  · exact Evm.Data.mem_payloads
  · exact Solana.Data.mem_payloads

/-- The table of kinds lists the kinds of the payloads. -/
theorem kinds_eq_map (c : Chain) (d : c.Data) : c.kinds d = (c.payloads d).map c.kind := by
  cases c
  · exact Evm.Data.kinds_eq_map d
  · exact Solana.Data.kinds_eq_map d

/-- The payload that counts is the first. -/
theorem payload?_eq_head? (c : Chain) (d : c.Data) : c.payload? d = (c.payloads d).head? := by
  cases c
  · exact Evm.Data.payload?_eq_head? d
  · exact Solana.Data.payload?_eq_head? d

/-- The kinds are those whose places are taken, in the order in which they count. -/
theorem kinds_eq_filter (c : Chain) (d : c.Data) : c.kinds d = c.priority.filter (c.has d) := by
  rw [← ofPlaces_map]
  cases c <;> rfl

/-- No kind is listed twice. -/
theorem nodup_kinds (c : Chain) (d : c.Data) : (c.kinds d).Nodup := by
  rw [kinds_eq_filter]
  exact c.nodup_priority.filter _

/-- No payload is listed twice. -/
theorem nodup_payloads (c : Chain) (d : c.Data) : (c.payloads d).Nodup := by
  have distinct := c.nodup_kinds d
  rw [kinds_eq_map] at distinct
  exact List.Pairwise.of_map c.kind (fun _ _ hne heq => hne (congrArg c.kind heq)) distinct

/-- The payloads say everything that a data object says. -/
theorem eq_of_payloads_eq {c : Chain} {d d' : c.Data} (h : c.payloads d = c.payloads d') :
    d = d' := by
  have places : ∀ p, c.Holds d p ↔ c.Holds d' p := fun p => by
    rw [← mem_payloads, h, mem_payloads]
  cases c
  · exact Evm.Data.eq_of_holds places
  · exact Solana.Data.eq_of_holds places

/-- The only payload of a data object. -/
def Only {c : Chain} (d : c.Data) (p : c.Payload) : Prop :=
  c.Holds d p ∧ ∀ q, c.Holds d q → q = p

theorem payloads_eq_nil_iff {c : Chain} {d : c.Data} :
    c.payloads d = [] ↔ ∀ p, ¬ c.Holds d p := by
  rw [List.eq_nil_iff_forall_not_mem]
  exact forall_congr' fun p => not_congr mem_payloads

theorem payloads_eq_singleton_iff {c : Chain} {d : c.Data} {p : c.Payload} :
    c.payloads d = [p] ↔ Only d p := by
  constructor
  · intro h
    have mem (q : c.Payload) : c.Holds d q ↔ q = p := by
      rw [← mem_payloads, h, List.mem_singleton]
    exact ⟨(mem p).2 rfl, fun q hq => (mem q).1 hq⟩
  · rintro ⟨hp, only⟩
    have hall : ∀ q ∈ c.payloads d, q = p := fun q hq => only q (mem_payloads.1 hq)
    have hmem : p ∈ c.payloads d := mem_payloads.2 hp
    have hnd := nodup_payloads c d
    cases hd : c.payloads d with
    | nil => rw [hd] at hmem; cases hmem
    | cons q qs =>
      rw [hd] at hall hnd
      obtain ⟨rfl, rest⟩ := List.forall_mem_cons.1 hall
      cases qs with
      | nil => rfl
      | cons q' qs =>
        have : q' = q := rest q' (List.mem_cons_self ..)
        simp [this] at hnd

end Chain

namespace Record

variable {c : Chain}

theorem kinds_eq_map (r : Record c) : r.kinds = (c.payloads r.data).map c.kind :=
  c.kinds_eq_map r.data

theorem decode_payload (r : Record c) : r.decode.payload = (c.payloads r.data).head? :=
  c.payload?_eq_head? r.data

end Record

end SigningPreview
