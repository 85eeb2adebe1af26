import SigningPreview.Evm.Payload
import SigningPreview.Solana.Payload

/-! # Chains

The two ecosystems, and what is known of either's payloads. Everything that comes later is said once
for both. -/
namespace SigningPreview

/-- The ecosystem a transaction belongs to. -/
inductive Chain where
  | evm
  | svm
  deriving DecidableEq

namespace Chain

/-- What a record of the chain can say. -/
abbrev Payload : Chain → Type
  | evm => Evm.Payload
  | svm => Solana.Payload

/-- The object in which a record says it. -/
abbrev Data : Chain → Type
  | evm => Evm.Data
  | svm => Solana.Data

instance (c : Chain) : DecidableEq c.Payload :=
  match c with
  | evm => inferInstanceAs (DecidableEq Evm.Payload)
  | svm => inferInstanceAs (DecidableEq Solana.Payload)

instance (c : Chain) : DecidableEq c.Data :=
  match c with
  | evm => inferInstanceAs (DecidableEq Evm.Data)
  | svm => inferInstanceAs (DecidableEq Solana.Data)

/-- The kinds of the payloads of a data object, the one that counts first. -/
def kinds : (c : Chain) → c.Data → List PayloadKind
  | evm => Evm.Data.kinds
  | svm => Solana.Data.kinds

/-- The payload of a data object that counts. -/
def payload? : (c : Chain) → c.Data → Option c.Payload
  | evm => Evm.Data.payload?
  | svm => Solana.Data.payload?

/-- The data object that holds one payload or none. -/
def ofPayload : (c : Chain) → Option c.Payload → c.Data
  | evm => Evm.Data.ofPayload
  | svm => Solana.Data.ofPayload

def kind : (c : Chain) → c.Payload → PayloadKind
  | evm => Evm.Payload.kind
  | svm => Solana.Payload.kind

/-- The amounts that a payload gives as text. Solana gives its amounts as numbers. -/
def amount? : (c : Chain) → c.Payload → Option BalanceChange
  | evm, p => some (Evm.Payload.amount p)
  | svm, _ => none

/-- The addresses a payload mentions. -/
def addresses : (c : Chain) → c.Payload → List String
  | evm => Evm.Payload.addresses
  | svm => Solana.Payload.addresses

/-- Refuses a text that is no address of the chain. -/
def checkAddress : Chain → String → Except AddressError Unit
  | evm, text => (Evm.Address.ofText text).map fun _ => ()
  | svm, text => (Solana.Address.ofText text).map fun _ => ()

theorem payload?_ofPayload (c : Chain) (p : Option c.Payload) :
    c.payload? (c.ofPayload p) = p := by
  cases c
  · exact Evm.Data.payload?_ofPayload p
  · exact Solana.Data.payload?_ofPayload p

end Chain

end SigningPreview
