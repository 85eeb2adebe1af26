import Mathlib.Logic.Relation
import SigningPreview.Proofs.Report.Congruence
import SigningPreview.Proofs.Wire.Places

/-! # The tag does not matter to a lenient run

Two documents that differ in the tags of their records alone (`Json.Document.Retagged`) are read as
responses that differ in these tags alone, and no stage after that consults a tag: a record is alike
with its tag and without. Main statement: the lenient runs of the two documents have the same
outcome, and their groupings hold the same effects in the same places but for the tags
(`Outcome.ofText_retagged`). -/
namespace SigningPreview

open Json (Document Node)
open Json.Node (isNamed ofMembers ofString whole_arr_iff whole_obj_iff)

variable {c : Chain}

/-! ## Documents that differ in tags -/

/-- What stands for a tag: `null` or a text. -/
inductive Tag.IsNode : Node → Prop
  | null : IsNode .null
  | text (s : String) : IsNode (.str (some s))

/-- The members that give the tag of a record: none, or one. -/
inductive Tag.AreMembers : List (Node × Node) → Prop
  | absent : AreMembers []
  | member {value : Node} (h : Tag.IsNode value) : AreMembers [(.str (some "kind"), value)]

/-- Two trees of a record's info that differ in the tag alone. In an object the tag may stand
anywhere, and may be missing from either. -/
inductive Record.InfoRetagged : Node → Node → Prop
  | members {members members' : List (Node × Node)}
    (tag : Tag.AreMembers (members.filter (isNamed "kind")))
    (tag' : Tag.AreMembers (members'.filter (isNamed "kind")))
    (others : (members.filter fun m => !isNamed "kind" m) =
      members'.filter fun m => !isNamed "kind" m) (closed : Bool) :
    InfoRetagged (.obj members closed) (.obj members' closed)
  | items {tag tag' : Node} (h : Tag.IsNode tag) (h' : Tag.IsNode tag') (items : List Node)
    (closed : Bool) : InfoRetagged (.arr (tag :: items) closed) (.arr (tag' :: items) closed)

/-- Two trees of a response that differ in the tag of one record alone. -/
inductive Response.Retagged : Node → Node → Prop
  | record {info info' record record' m m' : Node} (before after : List Node) (closed : Bool)
    (tag : Record.InfoRetagged info info') (swap : Node.Swap "rawInfo" 1 info info' record record')
    (effects : EffectsSwap (.arr (before ++ record :: after) closed)
      (.arr (before ++ record' :: after) closed) m m') : Retagged m m'

/-- Two documents of responses that differ in the tags of any number of records alone. -/
def Json.Document.Retagged (d d' : Document) : Prop :=
  Relation.ReflTransGen Response.Retagged d.root d'.root ∧ d'.ends = d.ends

theorem Record.InfoRetagged.symm {n n' : Node} (h : InfoRetagged n n') : InfoRetagged n' n := by
  cases h with
  | members tag tag' others closed => exact .members tag' tag others.symm closed
  | items h h' items closed => exact .items h' h items closed

theorem Response.Retagged.symm {m m' : Node} (h : Retagged m m') : Retagged m' m := by
  cases h with
  | record before after closed tag swap effects =>
    exact .record before after closed tag.symm swap.symm effects.symm

theorem Json.Document.Retagged.symm {d d' : Document} (h : d.Retagged d') : d'.Retagged d :=
  ⟨Relation.ReflTransGen.mono (fun _ _ => Response.Retagged.symm) _ _ h.1.swap, h.2.symm⟩

/-! ## Records and responses without their tags -/

def Record.untagged (r : Record c) : Record c := { r with tag := .blank }

def Effect.untagged (e : Effect c) : Effect c := { e with tag := .blank }

def Response.untagged (r : Response (Record c)) : Response (Record c) := r.map Record.untagged

/-! ## Reading -/

theorem Tag.IsNode.read {n : Node} (h : IsNode n) :
    ∃ tag, (Tag.codec.nullable .blank).read n = .ok tag := by
  cases h with
  | null => exact ⟨.blank, rfl⟩
  | text s => exact ⟨.ofText s, rfl⟩

/-- Whatever the members for the tag are, there is a tag that they match. -/
theorem Tag.AreMembers.exists_matches {members : List (Node × Node)} (h : AreMembers members) :
    ∃ tag, (Json.Field.nullable "kind" Tag.codec .blank).Matches members tag := by
  cases h with
  | absent => exact ⟨.blank, .blank rfl⟩
  | member h =>
    obtain ⟨tag, htag⟩ := h.read
    exact ⟨tag, .member htag⟩

theorem Record.InfoRetagged.read {n n' : Node} (h : InfoRetagged n n') {tag : Tag} {data : c.Data}
    (hn : (infoLayout c).codec.read n = .ok (tag, data)) :
    ∃ tag', (infoLayout c).codec.read n' = .ok (tag', data) := by
  cases h with
  | @members members members' _ areTag others closed =>
    obtain ⟨values, hvalues, heq⟩ := exists_of_map_eq_ok hn
    obtain ⟨_, data, ⟨⟩⟩ := values
    cases heq
    obtain ⟨hclosed, -, hdata⟩ := Json.Fields.readMembers_eq_ok_iff.1 hvalues
    obtain ⟨tag', htag'⟩ := areTag.exists_matches
    have hdata' := others ▸ hdata
    have hvalues' : (infoLayout c).fields.readMembers members' closed = .ok (tag', data, ()) :=
      Json.Fields.readMembers_eq_ok_iff.2 ⟨hclosed, htag', hdata'⟩
    refine ⟨tag', ?_⟩
    change ((infoLayout c).fields.readMembers members' closed).map _ = _
    rw [hvalues']; rfl
  | @items node node' _ h' items closed =>
    obtain ⟨tag', htag'⟩ := h'.read
    have swap : Node.Swap "kind" 0 node node' (.arr (node :: items) closed)
        (.arr (node' :: items) closed) :=
      .item (List.length_nil (α := Node)) items closed
    obtain ⟨values, heq, -, hswap⟩ := Json.Layout.read_swap (tagPlace c) swap hn
    obtain ⟨_, data, ⟨⟩⟩ := values
    cases heq
    refine ⟨tag', hswap.trans ?_⟩
    change ((Tag.codec.nullable .blank).read node').map _ = _
    rw [htag']; rfl

/-- Reading a record after it was retagged. -/
theorem Record.read_retagged {info info' m m' : Node} (tag : InfoRetagged info info')
    (swap : Node.Swap "rawInfo" 1 info info' m m') {r : Record c} (hr : (codec c).read m = .ok r) :
    ∃ r', (codec c).read m' = .ok r' ∧ r'.untagged = r.untagged := by
  obtain ⟨hinfo, hm'⟩ := read_infoSwap swap hr
  obtain ⟨tag', hinfo'⟩ := tag.read hinfo
  refine ⟨{ r with tag := tag' }, ?_, rfl⟩
  rw [hm', hinfo']; rfl

/-- Reading a response after one record was retagged. -/
theorem Response.Retagged.read {m m' : Node} (h : Retagged m m') {r : Response (Record c)}
    (hr : (codec (Record.codec c)).read m = .ok r) :
    ∃ r', (codec (Record.codec c)).read m' = .ok r' ∧ r'.untagged = r.untagged := by
  cases h with
  | record before after closed tag swap effects =>
    obtain ⟨heffects, hm'⟩ := read_effectsSwap effects hr
    obtain ⟨xs, s, ys, heq, hs, hlist⟩ := Json.Codec.read_list_swap heffects
    obtain ⟨s', hs', hsame⟩ := Record.read_retagged tag swap hs
    refine ⟨{ r with effects := xs ++ s' :: ys }, ?_, ?_⟩
    · rw [hm', hlist s' hs']; rfl
    · simp [untagged, map, heq, hsame]

/-- Reading a response after any number of records were retagged, by induction on their number. -/
theorem Response.read_retagged {m m' : Node} (h : Relation.ReflTransGen Retagged m m')
    {r : Response (Record c)} (hr : (codec (Record.codec c)).read m = .ok r) :
    ∃ r', (codec (Record.codec c)).read m' = .ok r' ∧ r'.untagged = r.untagged := by
  induction h with
  | refl => exact ⟨r, hr, rfl⟩
  | tail _ step ih =>
    obtain ⟨r₁, hr₁, hsame₁⟩ := ih
    obtain ⟨r₂, hr₂, hsame₂⟩ := step.read hr₁
    exact ⟨r₂, hr₂, hsame₂.trans hsame₁⟩

theorem Json.Document.Retagged.read {d d' : Document} (h : d.Retagged d')
    {r : Response (Record c)} (hr : d.read (Response.codec (Record.codec c)) = .ok r) :
    ∃ r', d'.read (Response.codec (Record.codec c)) = .ok r' ∧ r'.untagged = r.untagged := by
  obtain ⟨retagged, ends⟩ := h
  obtain ⟨r₁, hr₁, hends⟩ := exists_of_bind_eq_ok hr
  obtain ⟨r₂, hr₂, hsame⟩ := Response.read_retagged retagged hr₁
  cases hd : d.ends with
  | false => rw [hd] at hends; cases hends
  | true =>
    rw [hd] at hends ends
    cases hends
    refine ⟨r₂, ?_, hsame⟩
    rw [Document.read, hr₂, ends]; rfl

/-! ## Lenient runs -/

/-- The tag has no part in where an effect is put. -/
theorem Grouping.ofEffects_untagged (es : List (Effect c)) :
    ofEffects (es.map Effect.untagged) = (ofEffects es).map Effect.untagged :=
  ofList_map fun _ _ => rfl

theorem Response.decoded_untagged (r : Response (Record c)) :
    r.untagged.decoded = r.decoded.map Effect.untagged := by
  change (r.effects.map Record.untagged).map Record.decode = (r.effects.map Record.decode).map _
  rw [List.map_map, List.map_map]; rfl

/-- No stage of a lenient run consults a tag. -/
theorem Outcome.lenient_untagged (r : Response (Record c)) : lenient r.untagged = lenient r := by
  have alike (s : Record c) : s.untagged.Alike s := ⟨rfl, rfl, rfl, rfl⟩
  have records : List.Forall₂ Record.Alike (r.effects.map Record.untagged) r.effects :=
    List.forall₂_map_left_iff.2 (List.forall₂_same.2 fun s _ => alike s)
  exact lenient_congr r records

/-- Of two texts that differ in tags alone, one is read exactly when the other is, and then their
lenient runs cannot be told apart. -/
theorem Outcome.ofText_retagged {text text' : String}
    (h : (Document.ofText text).Retagged (Document.ofText text')) :
    ((∃ r, Response.ofText c text = .ok r) ↔ ∃ r', Response.ofText c text' = .ok r') ∧
    ∀ r r', Response.ofText c text = .ok r → Response.ofText c text' = .ok r' →
      (∃ o, ofText c false text = .ok o ∧ ofText c false text' = .ok o) ∧
      ∀ k, ((Grouping.ofEffects r'.decoded).bucket k).map Effect.untagged =
        ((Grouping.ofEffects r.decoded).bucket k).map Effect.untagged := by
  refine ⟨⟨fun ⟨r, hr⟩ => ?_, fun ⟨r', hr'⟩ => ?_⟩, fun r r' hr hr' => ?_⟩
  · obtain ⟨r', hr', -⟩ := h.read hr
    exact ⟨r', hr'⟩
  · obtain ⟨r, hr, -⟩ := h.symm.read hr'
    exact ⟨r, hr⟩
  obtain ⟨r₁, hr₁, same⟩ := h.read hr
  obtain rfl : r₁ = r' := Except.ok.inj (hr₁.symm.trans hr')
  constructor
  · refine ⟨lenient r, ?_, ?_⟩
    · rw [ofText, hr]; rfl
    · rw [ofText, hr', ← lenient_untagged r, ← same, lenient_untagged]; rfl
  · intro k
    rw [← Grouping.bucket_map, ← Grouping.bucket_map, ← Grouping.ofEffects_untagged,
      ← Grouping.ofEffects_untagged, ← Response.decoded_untagged, ← Response.decoded_untagged, same]

namespace Response

/-- The info of a record with a payload in which everything is left out. -/
def info (tag : List (Node × Node)) (place : String) : Node :=
  .obj (tag ++ [(ofString "data", ofMembers [(place, ofMembers [])])]) true

theorem retagged_info (place : String) {tag tag' : List (Node × Node)} (h : Tag.AreMembers tag)
    (h' : Tag.AreMembers tag') : Record.InfoRetagged (info tag place) (info tag' place) := by
  have apart {tag data} (h : Tag.AreMembers tag) :
      (tag ++ [(ofString "data", data)]).filter (isNamed "kind") = tag ∧
        ((tag ++ [(ofString "data", data)]).filter fun m => !isNamed "kind" m) =
          [(ofString "data", data)] := by
    cases h <;> exact ⟨rfl, rfl⟩
  refine .members ?_ ?_ ?_ true
  · rwa [(apart h).1]
  · rwa [(apart h').1]
  · rw [(apart h).2, (apart h').2]

/-- A response of records of which nothing is said but their infos. -/
def ofInfos (infos : List Node) : Node :=
  around (.arr (infos.map fun info => ofMembers [("rawInfo", info)]) true)

/-- The tags are those of the payloads, or are left out. -/
def honest : Node :=
  ofInfos [info [(ofString "kind", ofString "SPL_APPROVAL")] "splApprovalData",
    info [] "solTransferData"]

/-- One tag is `null`, and the other names the kind of a payload that is not there. -/
def hostile : Node :=
  ofInfos [info [(ofString "kind", .null)] "splApprovalData",
    info [(ofString "kind", ofString "SOL_STAKE_AUTHORITY_CHANGE")] "solTransferData"]

theorem retagged_ofInfos {n n' : Node} (h : Record.InfoRetagged n n') (before after : List Node) :
    Retagged (ofInfos (before ++ n :: after)) (ofInfos (before ++ n' :: after)) := by
  rw [ofInfos, ofInfos, List.map_append, List.map_append]
  exact .record _ _ true h (.member [] [] true) (effectsSwap_around _ _)

theorem whole_honest : honest.Whole := whole_around <| by
  simp [info, ofMembers, ofString, whole_obj_iff, whole_arr_iff, Node.Whole.str]

theorem whole_hostile : hostile.Whole := whole_around <| by
  simp [info, ofMembers, ofString, whole_obj_iff, whole_arr_iff, Node.Whole.str, Node.Whole.null]

theorem retagged_hostile :
    (Document.ofText honest.compact).Retagged (Document.ofText hostile.compact) := by
  rw [Node.ofText_compact whole_honest, Node.ofText_compact whole_hostile]
  have first := retagged_info "splApprovalData" (.member (.text "SPL_APPROVAL")) (.member .null)
  have second := retagged_info "solTransferData" .absent
    (.member (.text "SOL_STAKE_AUTHORITY_CHANGE"))
  exact ⟨.tail (.single (retagged_ofInfos first [] _)) (retagged_ofInfos second [_] []), rfl⟩

/-- What the honest response is read as. -/
def honestRead : Response (Record .svm) where
  action := .none
  warnings := []
  failure := none
  effects :=
    [⟨"", .known .splApproval,
        .ofPayload (some (.splApproval ⟨"", "", "", "", 0, 0, "", none, .blank⟩))⟩,
      ⟨"", .blank, .ofPayload (some (.solTransfer ⟨"", "", 0, .blank⟩))⟩]

theorem ofText_honest : Response.ofText .svm honest.compact = .ok honestRead := by
  rw [Response.ofText, Node.ofText_compact whole_honest]
  rfl

end Response

theorem Outcome.ofText_retagged_hostile :
    ∃ o, ofText .svm false Response.honest.compact = .ok o ∧
      ofText .svm false Response.hostile.compact = .ok o ∧
      o.report.sections.map Section.category = [.transfer, .approval] := by
  obtain ⟨read_iff, agree⟩ := ofText_retagged (c := .svm) Response.retagged_hostile
  obtain ⟨r', hr'⟩ := read_iff.1 ⟨_, Response.ofText_honest⟩
  obtain ⟨⟨o, ho, ho'⟩, -⟩ := agree _ r' Response.ofText_honest hr'
  refine ⟨o, ho, ho', ?_⟩
  rw [ofText, Response.ofText_honest] at ho
  cases ho
  decide +kernel

end SigningPreview
