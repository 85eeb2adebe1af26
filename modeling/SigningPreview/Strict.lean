import SigningPreview.Grouping
import SigningPreview.Record

/-! # Strict grouping

In strict mode every record must have exactly one payload, a tag that does not contradict it,
amounts that can be read, and addresses that are empty or well formed. The first record that fails
is refused, with the first thing that is wrong with it. -/
namespace SigningPreview

/-- What is wrong with the contents of an effect. -/
inductive Violation where
  | amount (error : AmountError)
  | address (error : AddressError)
  deriving DecidableEq

def Violation.message : Violation → String
  | amount error => error.message
  | address error => error.message

/-- Why a list of records is refused; `index` is the place of the record at fault. -/
inductive Refusal where
  | malformed (index : Nat) (error : DecodeError)
  | invalid (index : Nat) (violation : Violation)
  | unrecognized (index : Nat)
  deriving DecidableEq

def Refusal.message : Refusal → String
  | malformed index error =>
    "State change #" ++ index.repr ++ " is malformed: " ++ error.message
  | invalid index violation =>
    "State change #" ++ index.repr ++ " is invalid: " ++ violation.message
  | unrecognized index => "State change #" ++ index.repr ++ " has no recognized payload"

namespace Chain

variable (c : Chain)

/-- Refuses a payload with an amount that cannot be read. -/
def checkAmount (p : c.Payload) : Except AmountError Unit :=
  match c.amount? p with
  | some amount => amount.check
  | none => .ok ()

/-- Refuses the first address that is neither empty nor well formed. -/
def checkAddresses : List String → Except AddressError Unit
  | [] => .ok ()
  | address :: addresses =>
    if address = "" then checkAddresses addresses
    else do
      c.checkAddress address
      checkAddresses addresses

/-- Refuses a payload with an unreadable amount or a malformed address. -/
def check (p : c.Payload) : Except Violation Unit := do
  (c.checkAmount p).mapError .amount
  (c.checkAddresses (c.addresses p)).mapError .address

end Chain

variable {c : Chain}

/-- Refuses an effect whose payload does not hold up. -/
def Effect.check (e : Effect c) : Except Violation Unit :=
  match e.payload with
  | some p => c.check p
  | none => .ok ()

/-- The effect of a record that passes every strict rule. -/
def Record.accept (index : Nat) (r : Record c) : Except Refusal (Category × Effect c) := do
  let effect ← r.decodeStrict.mapError (.malformed index)
  effect.check.mapError (.invalid index)
  match effect.category? with
  | some category => pure (category, effect)
  | none => .error (.unrecognized index)

namespace Grouping

/-- Adds the effects of records to a grouping; `index` counts the records before them. -/
def addStrict (index : Nat) (g : Grouping (Effect c)) :
    List (Record c) → Except Refusal (Grouping (Effect c))
  | [] => .ok g
  | r :: rs => do
    let (category, effect) ← r.accept index
    addStrict (index + 1) (g.push category effect) rs

/-- The effects of records by category, if every record passes the strict rules. -/
def ofRecordsStrict (rs : List (Record c)) : Except Refusal (Grouping (Effect c)) :=
  addStrict 0 empty rs

/-- Effects by category. Effects that are not recognized are left out. -/
def ofEffects (es : List (Effect c)) : Grouping (Effect c) := ofList Effect.category? es

end Grouping

end SigningPreview
