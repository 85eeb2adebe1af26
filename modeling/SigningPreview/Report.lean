import SigningPreview.Event
import SigningPreview.Risk
import SigningPreview.Strict
import SigningPreview.View
import SigningPreview.Wire.Response

/-! # Reports

A report is what a confirmation screen shows of a response: the risk header, the simulation's
failure, and a section of entries for each category that occurs. An effect whose amounts cannot be
read has no entry; an event says so. -/
namespace SigningPreview

structure Entry where
  headline : String
  view : View
  deriving DecidableEq

structure Section where
  category : Category
  entries : List Entry
  deriving DecidableEq

structure Report where
  risk : Risk
  needsConfirmation : Bool
  siteFlagged : Bool
  /-- What is shown of the simulation's failure; empty when there is none. -/
  failure : String
  severalCategories : Bool
  sections : List Section
  deriving DecidableEq

variable {c : Chain}

namespace Effect

/-- The entry of an effect that has a view. -/
def shown? (e : Effect c) : Option Entry :=
  match e.view with
  | .ok (some view) => some ⟨e.headline, view⟩
  | _ => none

/-- What is noted when an entry is made of an effect. -/
def entryEvents (e : Effect c) : List Event :=
  match e.view with
  | .ok _ => []
  | .error error => [.unreadable e.headline error]

end Effect

namespace Report

/-- The section of a category. -/
def sectionOf (g : Grouping (Effect c)) (category : Category) : Section :=
  ⟨category, (g.bucket category).filterMap Effect.shown?⟩

/-- The report of a response whose effects are grouped. -/
def ofGrouping (r : Response (Effect c)) (g : Grouping (Effect c)) : Report :=
  let risk := Risk.ofResponse r
  { risk
    needsConfirmation := risk.needsConfirmation
    siteFlagged := risk.siteFlagged
    failure := r.failureText
    severalCategories := g.hasSeveralCategories
    sections := g.categories.map (sectionOf g) }

/-- What is noted when a report is made, section by section. -/
def events (g : Grouping (Effect c)) : List Event :=
  g.categories.flatMap fun category => (g.bucket category).flatMap Effect.entryEvents

end Report

/-! ## From a text to a report -/

/-- Why there is no report. -/
inductive RunError where
  | unreadable (fault : Json.Fault)
  | refused (refusal : Refusal)
  deriving DecidableEq

/-- A report and what was noted on the way to it, in order. -/
structure Outcome where
  report : Report
  events : List Event
  deriving DecidableEq

namespace Outcome

/-- The outcome for a response of which every effect counts that is recognized. -/
def lenient (r : Response (Record c)) : Outcome :=
  let effects := r.effects.map Record.decode
  let g := Grouping.ofEffects effects
  { report := .ofGrouping (r.map Record.decode) g
    events := r.effects.flatMap Record.decodeEvents ++ effects.flatMap Effect.groupEvents
      ++ g.event r.effects.length :: Report.events g }

/-- The outcome for a response whose records must all pass the strict rules. -/
def strict (r : Response (Record c)) : Except Refusal Outcome := do
  let g ← Grouping.ofRecordsStrict r.effects
  pure
    { report := .ofGrouping (r.map Record.decode) g
      events := r.effects.flatMap Record.decodeEvents
        ++ g.event r.effects.length :: Report.events g }

/-- The outcome for a response, by the strict rules or not. -/
def ofResponse (isStrict : Bool) (r : Response (Record c)) : Except Refusal Outcome :=
  if isStrict then strict r else .ok (lenient r)

/-- The outcome for a text. -/
def ofText (c : Chain) (isStrict : Bool) (text : String) : Except RunError Outcome := do
  let r ← (Response.ofText c text).mapError .unreadable
  (ofResponse isStrict r).mapError .refused

end Outcome

end SigningPreview
