import SigningPreview.Grouping
import SigningPreview.Record
import SigningPreview.Text.Quoted

/-! # Events

What the library notes while it works: nothing that a lenient reading leaves out or decides by
priority goes without an event. -/
namespace SigningPreview

inductive Level where
  | debug
  | info
  | warn
  deriving DecidableEq

def Level.word : Level → String
  | debug => "DEBUG"
  | info => "INFO"
  | warn => "WARN"

inductive Event where
  /-- A record has several payloads, of which the first counts. -/
  | severalPayloads (headline : String) (kinds : List PayloadKind)
  /-- An effect is not recognized and has no place in a report. -/
  | unrecognized (headline : String)
  /-- An effect has an amount that cannot be read, and so no entry in a report. -/
  | unreadable (headline : String) (error : AmountError)
  /-- How many records there were, and how many effects of each category. -/
  | grouped (total transfers approvals stakeAuthorityChanges : Nat)
  deriving DecidableEq

namespace Event

def level : Event → Level
  | severalPayloads _ _ => .warn
  | unrecognized _ => .debug
  | unreadable _ _ => .debug
  | grouped _ _ _ _ => .info

def message : Event → String
  | severalPayloads headline kinds =>
    "state change '" ++ headline ++ "' carries " ++ PayloadKind.listNames kinds
      ++ ", only the first is kept"
  | unrecognized headline => "dropping unrecognized state change: " ++ Text.quoted headline
  | unreadable headline error =>
    "skipping state change " ++ Text.quoted headline ++ ": " ++ error.message
  | grouped total transfers approvals stakeAuthorityChanges =>
    "classified " ++ (transfers + approvals + stakeAuthorityChanges).repr ++ " of " ++ total.repr
      ++ " state changes (" ++ transfers.repr ++ " transfers, " ++ approvals.repr
      ++ " approvals, " ++ stakeAuthorityChanges.repr ++ " stake authority changes)"

/-- An event as a line of a log. -/
def line (e : Event) : String := e.level.word ++ " " ++ e.message

end Event

variable {c : Chain}

/-- What is noted when a record is decided on by priority. -/
def Record.decodeEvents (r : Record c) : List Event :=
  if 1 < r.kinds.length then [.severalPayloads r.headline r.kinds] else []

/-- What is noted when an effect is put into a grouping. -/
def Effect.groupEvents (e : Effect c) : List Event :=
  match e.category? with
  | none => [.unrecognized e.headline]
  | some _ => []

/-- What is noted of a grouping that `total` records led to. -/
def Grouping.event {α : Type} (g : Grouping α) (total : Nat) : Event :=
  .grouped total g.transfers.length g.approvals.length g.stakeAuthorityChanges.length

end SigningPreview
