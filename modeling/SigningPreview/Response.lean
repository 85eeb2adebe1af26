/-! # Responses

A response is a provider's verdict on a transaction: what to do, warnings, and either the predicted
effects or an error, possibly both. -/
namespace SigningPreview

/-- What the provider advises. -/
inductive Action where
  | none
  | warn
  | block
  deriving DecidableEq

inductive Severity where
  | warning
  | critical
  deriving DecidableEq

structure Warning where
  kind : String
  severity : Severity
  message : String
  deriving DecidableEq

/-- Why the simulation did not come to an end. -/
structure Failure where
  kind : String
  explanation : String
  deriving DecidableEq

/-- A provider's verdict, with predicted effects of some type. -/
structure Response (α : Type) where
  action : Action
  warnings : List Warning
  failure : Option Failure
  effects : List α
  deriving DecidableEq

namespace Action

/-- The word for an action in a response. -/
def word : Action → String
  | none => "NONE"
  | warn => "WARN"
  | block => "BLOCK"

/-- The word for an action in a report. -/
def label : Action → String
  | none => "None"
  | warn => "Warn"
  | block => "Block"

end Action

namespace Severity

/-- The word for a severity in a response. -/
def word : Severity → String
  | warning => "WARNING"
  | critical => "CRITICAL"

/-- The word for a severity in a report. -/
def label : Severity → String
  | warning => "Warning"
  | critical => "Critical"

end Severity

def Warning.isCritical (w : Warning) : Bool := w.severity = .critical

namespace Failure

def blank : Failure := ⟨"", ""⟩

/-- What is shown of a failure. It is never empty. -/
def text (f : Failure) : String :=
  if f.kind = "TRANSACTION_REVERTED" then "TRANSACTION_REVERTED"
  else if f.explanation = "" then "UNKNOWN ERROR"
  else f.explanation

end Failure

namespace Response

variable {α β ε : Type}

/-- The response with every effect replaced by its image. -/
def map (f : α → β) (r : Response α) : Response β := { r with effects := r.effects.map f }

/-- The response with every effect replaced by its image, or the first error. -/
def mapM (f : α → Except ε β) (r : Response α) : Except ε (Response β) :=
  (r.effects.mapM f).map fun effects => { r with effects }

/-- What is shown of the simulation's failure; empty when there is none. -/
def failureText (r : Response α) : String :=
  match r.failure with
  | .none => ""
  | some f => f.text

end Response

end SigningPreview
