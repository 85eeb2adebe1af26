import SigningPreview.Proofs.Json.Edit
import SigningPreview.Proofs.Json.Tree
import SigningPreview.Wire.Report

/-! # Where the records of a response stand

The effects of a response stand in its results, the tag and the data of a record in its info. What
these are exchanged for shows in the response in that one place (`Response.read_effectsSwap`,
`Record.read_infoSwap`). For examples there are the trees in which the least is said around effects
and around data (`Response.around`, `Record.around`). -/
namespace SigningPreview

open Json (Codec Document Edit Node Rule)
open Json.Field (nullable required withDefault)
open Json.Node (ofMembers ofString whole_obj_iff)

namespace Response

variable {α : Type}

def resultsPlace (effect : Codec α) :
    (layout effect).fields.Place (required "simulationResults" (resultLayout effect).codec) :=
  .later (show "simulationResults" ≠ "action" by decide) <|
    .later (show "simulationResults" ≠ "warnings" by decide) .here

def effectsPlace (effect : Codec α) :
    (resultLayout effect).fields.Place (withDefault "expectedStateChanges" effect.list []) :=
  .later (show "expectedStateChanges" ≠ "error" by decide) .here

/-- Two trees of a response that differ in the value of the effects at most: it is `n` in the one
and `n'` in the other. -/
def EffectsSwap (n n' m m' : Node) : Prop :=
  ∃ results results', Node.Swap "expectedStateChanges" 1 n n' results results' ∧
    Node.Swap "simulationResults" 2 results results' m m'

theorem EffectsSwap.symm {n n' m m' : Node} (h : EffectsSwap n n' m m') :
    EffectsSwap n' n m' m := by
  obtain ⟨results, results', effects, whole⟩ := h
  exact ⟨results', results, effects.symm, whole.symm⟩

theorem read_effectsSwap {effect : Codec α} {n n' m m' : Node} (h : EffectsSwap n n' m m')
    {r : Response α} (hr : (codec effect).read m = .ok r) :
    effect.list.read n = .ok r.effects ∧
      (codec effect).read m' = (effect.list.read n').map fun effects => { r with effects } := by
  obtain ⟨results, results', effects, whole⟩ := h
  obtain ⟨values, rfl, hresults, hwhole⟩ := Json.Layout.read_swap (resultsPlace effect) whole hr
  obtain ⟨values', heq, hn, hresults'⟩ :=
    Json.Layout.read_swap (effectsPlace effect) effects hresults
  obtain ⟨action, warnings, ⟨failure, effects⟩, ⟨⟩⟩ := values
  obtain ⟨failure', effects', ⟨⟩⟩ := values'
  cases heq
  refine ⟨hn, ?_⟩
  change (layout effect).codec.read m' = _
  rw [hwhole]
  change ((resultLayout effect).codec.read results').map _ = _
  rw [hresults']
  change ((effect.list.read n').map _).map _ = _
  cases effect.list.read n' <;> rfl

/-- A response of which nothing is said but its effects. -/
def around (effects : Node) : Node :=
  ofMembers [("action", ofString "NONE"),
    ("simulationResults", ofMembers [("expectedStateChanges", effects)])]

theorem effectsSwap_around (n n' : Node) : EffectsSwap n n' (around n) (around n') :=
  ⟨_, _, .member [] [] true, .member [(.str (some "action"), .str (some "NONE"))] [] true⟩

/-- An edit of the only effect is an edit of the response. -/
theorem edit_around {rule : Rule} {effect : Codec α} {n n' : Node}
    (h : Edit rule effect n n') :
    Edit rule (codec effect) (around (.arr [n] true)) (around (.arr [n'] true)) := by
  have effects : Edit rule effect.list (.arr [n] true) (.arr [n'] true) := .item [] [] true h
  have results := Edit.field (effectsPlace effect) (.member [] [] true) effects
  exact .field (resultsPlace effect) (.member [(ofString "action", ofString "NONE")] [] true)
    results

theorem edited_around {rule : Rule} {effect : Codec α} {n n' : Node}
    (h : Relation.ReflTransGen (Edit rule effect) n n') :
    Document.Edited rule (codec effect) ⟨around (.arr [n] true), true⟩
      ⟨around (.arr [n'] true), true⟩ := by
  refine ⟨?_, rfl⟩
  exact h.lift (fun n => around (.arr [n] true)) fun _ _ => edit_around

theorem whole_around {effects : Node} (h : effects.Whole) : (around effects).Whole := by
  simpa [around, ofMembers, ofString, whole_obj_iff, Node.Whole.str] using h

end Response

namespace Record

variable {c : Chain}

def infoPlace (c : Chain) :
    (layout c).fields.Place (required "rawInfo" (infoLayout c).codec) :=
  .later (show "rawInfo" ≠ "humanReadableDiff" by decide) .here

def tagPlace (c : Chain) :
    (infoLayout c).fields.Place (nullable "kind" Tag.codec .blank) := .here

def dataPlace (c : Chain) : (infoLayout c).fields.Place (required "data" c.dataCodec) :=
  .later (show "data" ≠ "kind" by decide) .here

/-- Reading a record after its info was exchanged. -/
theorem read_infoSwap {n n' m m' : Node} (h : Node.Swap "rawInfo" 1 n n' m m') {r : Record c}
    (hr : (codec c).read m = .ok r) :
    (infoLayout c).codec.read n = .ok (r.tag, r.data) ∧
      (codec c).read m' =
        ((infoLayout c).codec.read n').map fun (tag, data) => { r with tag, data } := by
  obtain ⟨values, rfl, hn, hm⟩ := Json.Layout.read_swap (infoPlace c) h hr
  obtain ⟨headline, ⟨tag, data⟩, ⟨⟩⟩ := values
  exact ⟨hn, hm⟩

/-- A record of which nothing is said but its data, and what is given. -/
def around (members : List (Node × Node)) (data : Node) : Node :=
  .obj (members ++ [(ofString "rawInfo", ofMembers [("data", data)])]) true

theorem edit_around {rule : Rule} {data data' : Node} (h : Edit rule c.dataCodec data data')
    (members : List (Node × Node)) :
    Edit rule (codec c) (around members data) (around members data') := by
  have info := Edit.field (dataPlace c) (.member [] [] true) h
  exact .field (infoPlace c) (.member members [] true) info

end Record

end SigningPreview
