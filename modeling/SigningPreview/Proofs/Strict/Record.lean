import SigningPreview.Proofs.Lists
import SigningPreview.Proofs.Record.Payloads
import SigningPreview.Strict

/-! # When a record passes the strict rules

`Record.Sound` says what a record must satisfy, `Record.Fails` which refusal it earns otherwise,
both without the checker: by the places of the data object, the tag, and the readers of amounts and
addresses. `accept_of_sound`, `accept_of_fails` and `sound_or_fails` together say that the checker
decides exactly this. -/
namespace SigningPreview

/-! ## Amounts and addresses -/

/-- Both sides can be read. -/
def BalanceChange.Readable (b : BalanceChange) : Prop :=
  (∃ n, b.before.value = .ok n) ∧ ∃ n, b.after.value = .ok n

theorem BalanceChange.values_ok {b : BalanceChange} {m n : Nat} (hm : b.before.value = .ok m)
    (hn : b.after.value = .ok n) : b.values = .ok (m, n) := by
  rw [values, hm, hn]; rfl

theorem BalanceChange.values_before {b : BalanceChange} {e : AmountError}
    (h : b.before.value = .error e) : b.values = .error e := by
  rw [values, h]; rfl

theorem BalanceChange.values_after {b : BalanceChange} {m : Nat} {e : AmountError}
    (hm : b.before.value = .ok m) (h : b.after.value = .error e) : b.values = .error e := by
  rw [values, hm, h]; rfl

namespace Chain

/-- The text is an address of the chain. -/
def IsAddress : Chain → String → Prop
  | evm, text => ∃ a, Evm.Address.ofText text = .ok a
  | svm, text => ∃ a, Solana.Address.ofText text = .ok a

/-- The text is refused as an address of the chain. -/
def AddressFails : Chain → String → AddressError → Prop
  | evm, text, e => Evm.Address.ofText text = .error e
  | svm, text, e => Solana.Address.ofText text = .error e

/-- Nothing, or an address of the chain. -/
def Acceptable (c : Chain) (text : String) : Prop := text = "" ∨ c.IsAddress text

variable {c : Chain}

theorem checkAddress_of_isAddress {text : String} (h : c.IsAddress text) :
    c.checkAddress text = .ok () := by
  cases c <;> obtain ⟨a, ha⟩ := h <;> rw [checkAddress, ha] <;> rfl

theorem checkAddress_of_fails {text : String} {e : AddressError} (h : c.AddressFails text e) :
    c.checkAddress text = .error e := by
  cases c <;> rw [checkAddress, show _ = Except.error e from h] <;> rfl

theorem isAddress_or_fails (c : Chain) (text : String) :
    c.IsAddress text ∨ ∃ e, c.AddressFails text e := by
  cases c with
  | evm =>
    cases h : Evm.Address.ofText text with
    | ok a => exact .inl ⟨a, h⟩
    | error e => exact .inr ⟨e, h⟩
  | svm =>
    cases h : Solana.Address.ofText text with
    | ok a => exact .inl ⟨a, h⟩
    | error e => exact .inr ⟨e, h⟩

theorem checkAddresses_cons {text : String} (h : c.Acceptable text) (texts : List String) :
    c.checkAddresses (text :: texts) = c.checkAddresses texts := by
  rw [checkAddresses]
  split
  · rfl
  · next hne =>
    rw [checkAddress_of_isAddress (h.resolve_left hne)]
    rfl

theorem checkAddresses_of_acceptable {texts : List String} (h : ∀ t ∈ texts, c.Acceptable t) :
    c.checkAddresses texts = .ok () := by
  induction texts with
  | nil => rfl
  | cons t ts ih =>
    obtain ⟨ht, hts⟩ := List.forall_mem_cons.1 h
    rw [checkAddresses_cons ht, ih hts]

/-- The first address that is not acceptable is the one that is reported. -/
theorem checkAddresses_append {before after : List String} {text : String} {e : AddressError}
    (hbefore : ∀ t ∈ before, c.Acceptable t) (hne : text ≠ "") (h : c.AddressFails text e) :
    c.checkAddresses (before ++ text :: after) = .error e := by
  induction before with
  | nil =>
    rw [List.nil_append, checkAddresses, if_neg hne, checkAddress_of_fails h]
    rfl
  | cons t ts ih =>
    obtain ⟨ht, hts⟩ := List.forall_mem_cons.1 hbefore
    rw [List.cons_append, checkAddresses_cons ht, ih hts]

theorem acceptable_or_first (c : Chain) (texts : List String) :
    (∀ t ∈ texts, c.Acceptable t) ∨ ∃ before text after e, texts = before ++ text :: after ∧
      (∀ t ∈ before, c.Acceptable t) ∧ text ≠ "" ∧ c.AddressFails text e := by
  obtain h | ⟨before, t, after, rfl, hbefore, ht⟩ := forall_or_first c.Acceptable texts
  · exact .inl h
  · have hne : t ≠ "" := fun h => ht (.inl h)
    obtain h | ⟨e, he⟩ := c.isAddress_or_fails t
    · exact absurd (.inr h) ht
    · exact .inr ⟨before, t, after, e, rfl, hbefore, hne, he⟩

end Chain

/-! ## Records -/

variable {c : Chain}

/-- The tag leaves the kind open or names it. -/
def Tag.Allows (t : Tag) (k : PayloadKind) : Prop := (∃ text, t = .other text) ∨ t = .known k

namespace Record

/-- Everything the strict rules ask of a record with the payload `p`. -/
structure SoundWith (r : Record c) (p : c.Payload) : Prop where
  only : Chain.Only r.data p
  tag : r.tag.Allows (c.kind p)
  amount : ∀ b, c.amount? p = some b → b.Readable
  addresses : ∀ text ∈ c.addresses p, c.Acceptable text

/-- A record that passes the strict rules. -/
def Sound (r : Record c) : Prop := ∃ p, r.SoundWith p

/-- The refusal of a record at some place of a list, by the first rule that it breaks. -/
inductive Fails (r : Record c) (index : Nat) : Refusal → Prop
  | noPayload : (∀ p, ¬ c.Holds r.data p) → Fails r index (.malformed index (.noPayload r.tag))
  | manyPayloads {p q : c.Payload} : c.Holds r.data p → c.Holds r.data q → p ≠ q →
      Fails r index (.malformed index (.manyPayloads (c.priority.filter (c.has r.data))))
  | contradictingTag {p : c.Payload} {k : PayloadKind} : Chain.Only r.data p → r.tag = .known k →
      k ≠ c.kind p → Fails r index (.malformed index (.contradictingTag r.tag (c.kind p)))
  | before {p : c.Payload} {b : BalanceChange} {e : AmountError} : Chain.Only r.data p →
      r.tag.Allows (c.kind p) → c.amount? p = some b → b.before.value = .error e →
      Fails r index (.invalid index (.amount e))
  | after {p : c.Payload} {b : BalanceChange} {n : Nat} {e : AmountError} : Chain.Only r.data p →
      r.tag.Allows (c.kind p) → c.amount? p = some b → b.before.value = .ok n →
      b.after.value = .error e → Fails r index (.invalid index (.amount e))
  | address {p : c.Payload} {good rest : List String} {text : String} {e : AddressError} :
      Chain.Only r.data p → r.tag.Allows (c.kind p) →
      (∀ b, c.amount? p = some b → b.Readable) → c.addresses p = good ++ text :: rest →
      (∀ t ∈ good, c.Acceptable t) → text ≠ "" → c.AddressFails text e →
      Fails r index (.invalid index (.address e))

/-! ## What strict decoding makes of the places -/

theorem kinds_eq (r : Record c) : r.kinds = c.priority.filter (c.has r.data) :=
  c.kinds_eq_filter r.data

theorem kinds_of_only {r : Record c} {p : c.Payload} (h : Chain.Only r.data p) :
    r.kinds = [c.kind p] := by
  rw [kinds_eq_map, Chain.payloads_eq_singleton_iff.2 h, List.map_singleton]

theorem decode_payload_of_only {r : Record c} {p : c.Payload} (h : Chain.Only r.data p) :
    r.decode.payload = some p := by
  rw [decode_payload, Chain.payloads_eq_singleton_iff.2 h, List.head?_cons]

theorem decodeStrict_of_none {r : Record c} (h : ∀ p, ¬ c.Holds r.data p) :
    r.decodeStrict = .error (.noPayload r.tag) := by
  have hk : r.kinds = [] := by rw [kinds_eq_map, Chain.payloads_eq_nil_iff.2 h, List.map_nil]
  rw [decodeStrict, hk]

theorem decodeStrict_of_many {r : Record c} {p q : c.Payload} (hp : c.Holds r.data p)
    (hq : c.Holds r.data q) (hne : p ≠ q) :
    r.decodeStrict = .error (.manyPayloads (c.priority.filter (c.has r.data))) := by
  have mp := Chain.mem_payloads.2 hp
  have mq := Chain.mem_payloads.2 hq
  rw [← kinds_eq, decodeStrict]
  cases hps : c.payloads r.data with
  | nil => rw [hps] at mp; cases mp
  | cons a ps =>
    cases ps with
    | nil =>
      rw [hps, List.mem_singleton] at mp mq
      exact absurd (mp.trans mq.symm) hne
    | cons b ps => rw [kinds_eq_map, hps, List.map_cons, List.map_cons]

theorem decodeStrict_of_contradiction {r : Record c} {p : c.Payload} {k : PayloadKind}
    (h : Chain.Only r.data p) (ht : r.tag = .known k) (hk : k ≠ c.kind p) :
    r.decodeStrict = .error (.contradictingTag r.tag (c.kind p)) := by
  rw [decodeStrict, kinds_of_only h]
  exact if_pos ⟨by rw [ht]; rfl, by rw [ht]; exact fun h => hk (Tag.known.inj h)⟩

theorem decodeStrict_of_only {r : Record c} {p : c.Payload} (h : Chain.Only r.data p)
    (ht : r.tag.Allows (c.kind p)) : r.decodeStrict = .ok r.decode := by
  rw [decodeStrict, kinds_of_only h]
  refine if_neg ?_
  rintro ⟨known, hne⟩
  obtain ⟨text, ht⟩ | ht := ht
  · rw [ht] at known; cases known
  · exact hne ht

/-! ## The verdict on one record -/

theorem accept_of_ok {r : Record c} {e : Effect c} (index : Nat) (h : r.decodeStrict = .ok e) :
    r.accept index = (do
      e.check.mapError (.invalid index)
      match e.category? with
      | some category => pure (category, e)
      | none => .error (.unrecognized index)) := by
  rw [accept, h]; rfl

/-- What is asked of a record whose payload is known to be its only one. -/
theorem accept_of_only {r : Record c} {p : c.Payload} (index : Nat) (h : Chain.Only r.data p)
    (ht : r.tag.Allows (c.kind p)) :
    r.accept index = (do
      (c.check p).mapError (.invalid index)
      pure ((c.kind p).category, r.decode)) := by
  have hp := decode_payload_of_only h
  rw [accept_of_ok index (decodeStrict_of_only h ht), Effect.check, Effect.category?, Effect.kind?,
    hp]
  rfl

theorem check_of_amount {p : c.Payload} (h : ∀ b, c.amount? p = some b → b.Readable) :
    c.check p = (c.checkAddresses (c.addresses p)).mapError .address := by
  have ha : c.checkAmount p = .ok () := by
    rw [Chain.checkAmount]
    split
    · next b hb =>
      obtain ⟨⟨m, hm⟩, n, hn⟩ := h b hb
      rw [BalanceChange.check, BalanceChange.values_ok hm hn]; rfl
    · rfl
  rw [Chain.check, ha]; rfl

theorem check_of_unreadable {p : c.Payload} {b : BalanceChange} {e : AmountError}
    (hb : c.amount? p = some b) (h : b.values = .error e) :
    c.check p = .error (.amount e) := by
  have ha : c.checkAmount p = .error e := by
    rw [Chain.checkAmount, hb]
    simp only [BalanceChange.check, h]; rfl
  rw [Chain.check, ha]; rfl

theorem accept_of_sound {r : Record c} {p : c.Payload} (index : Nat) (h : r.SoundWith p) :
    r.accept index = .ok ((c.kind p).category, r.decode) := by
  rw [accept_of_only index h.only h.tag, check_of_amount h.amount,
    Chain.checkAddresses_of_acceptable h.addresses]
  rfl

theorem accept_of_fails {r : Record c} {index : Nat} {refusal : Refusal}
    (h : r.Fails index refusal) : r.accept index = .error refusal := by
  cases h with
  | noPayload h => rw [accept, decodeStrict_of_none h]; rfl
  | manyPayloads hp hq hne => rw [accept, decodeStrict_of_many hp hq hne]; rfl
  | contradictingTag h ht hk => rw [accept, decodeStrict_of_contradiction h ht hk]; rfl
  | before h ht hb he =>
    rw [accept_of_only index h ht, check_of_unreadable hb (BalanceChange.values_before he)]; rfl
  | after h ht hb hn he =>
    rw [accept_of_only index h ht, check_of_unreadable hb (BalanceChange.values_after hn he)]; rfl
  | address h ht hb ha hgood hne he =>
    rw [accept_of_only index h ht, check_of_amount hb, ha,
      Chain.checkAddresses_append hgood hne he]
    rfl

/-- Of the rules on the contents of a payload, none is broken or one is the first. -/
theorem sound_or_fails_of_only {r : Record c} {p : c.Payload} (index : Nat)
    (h : Chain.Only r.data p) (ht : r.tag.Allows (c.kind p)) :
    r.Sound ∨ ∃ refusal, r.Fails index refusal := by
  have addresses (hb : ∀ b, c.amount? p = some b → b.Readable) :
      r.Sound ∨ ∃ refusal, r.Fails index refusal := by
    obtain hall | ⟨good, text, rest, e, ha, hgood, hne, he⟩ := c.acceptable_or_first (c.addresses p)
    · exact .inl ⟨p, h, ht, hb, hall⟩
    · exact .inr ⟨_, .address h ht hb ha hgood hne he⟩
  cases hb : c.amount? p with
  | none => exact addresses fun b hb' => by rw [hb] at hb'; cases hb'
  | some b =>
    cases hm : b.before.value with
    | error e => exact .inr ⟨_, .before h ht hb hm⟩
    | ok m =>
      cases hn : b.after.value with
      | error e => exact .inr ⟨_, .after h ht hb hm hn⟩
      | ok n =>
        refine addresses fun b' hb' => ?_
        rw [hb] at hb'
        cases hb'
        exact ⟨⟨m, hm⟩, n, hn⟩

theorem sound_or_fails (r : Record c) (index : Nat) :
    r.Sound ∨ ∃ refusal, r.Fails index refusal := by
  by_cases hnone : ∀ p, ¬ c.Holds r.data p
  · exact .inr ⟨_, .noPayload hnone⟩
  obtain ⟨p, hp⟩ := Classical.not_forall_not.1 hnone
  by_cases honly : ∀ q, c.Holds r.data q → q = p
  · by_cases ht : r.tag.Allows (c.kind p)
    · exact sound_or_fails_of_only index ⟨hp, honly⟩ ht
    · cases htag : r.tag with
      | other text => exact absurd (.inl ⟨text, htag⟩) ht
      | known k =>
        have other : k ≠ c.kind p := fun hk => ht (.inr (hk ▸ htag))
        exact .inr ⟨_, .contradictingTag ⟨hp, honly⟩ htag other⟩
  · obtain ⟨q, hq⟩ := Classical.not_forall.1 honly
    obtain ⟨hq, hne⟩ := Classical.not_imp.1 hq
    exact .inr ⟨_, .manyPayloads hp hq (Ne.symm hne)⟩

theorem not_sound_of_fails {r : Record c} {index : Nat} {refusal : Refusal}
    (h : r.Fails index refusal) : ¬ r.Sound := by
  rintro ⟨p, hp⟩
  have := (accept_of_sound index hp).symm.trans (accept_of_fails h)
  cases this

/-- No record is refused for want of a category. -/
theorem Fails.ne_unrecognized {r : Record c} {index : Nat} {refusal : Refusal}
    (h : r.Fails index refusal) (i : Nat) : refusal ≠ .unrecognized i := by
  cases h <;> exact Refusal.noConfusion

end Record

end SigningPreview
