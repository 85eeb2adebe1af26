import SigningPreview.Asset
import SigningPreview.Kind
import SigningPreview.Movement
import SigningPreview.Solana.Address

/-! # Solana payloads

The four things that a record of the Solana chain can say, and the data object that says them.
`Data.kinds` lists the kinds of a data object in the order in which they count, and `Data.payload?`
decides in that order. -/
namespace SigningPreview.Solana

/-- A transfer of the chain's own coin. -/
structure SolTransfer where
  symbol : String
  name : String
  decimals : UInt32
  movement : Movement
  deriving DecidableEq

/-- A transfer of a token. -/
structure SplTransfer where
  symbol : String
  name : String
  mint : String
  decimals : UInt32
  supply : UInt64
  standard : String
  price : Option Price
  movement : Movement
  deriving DecidableEq

/-- Whether a token standard is one of single tokens. -/
def isNonFungible (standard : String) : Bool :=
  standard = "non_fungible" || standard = "non_fungible_edition"

/-- Leave for another account to move tokens. -/
structure SplApproval where
  delegate : String
  mint : String
  symbol : String
  name : String
  decimals : UInt32
  supply : UInt64
  standard : String
  price : Option Price
  movement : Movement
  deriving DecidableEq

/-- Who may stake with, and who may withdraw from, a stake account. -/
structure Authorities where
  staker : String
  withdrawer : String
  deriving DecidableEq

def Authorities.blank : Authorities := ⟨"", ""⟩

/-- A stake account changes hands. -/
structure AuthorityChange where
  account : String
  current : Authorities
  future : Authorities
  symbol : String
  name : String
  decimals : UInt32
  staked : UInt64
  deriving DecidableEq

inductive Payload where
  | solTransfer (t : SolTransfer)
  | splTransfer (t : SplTransfer)
  | splApproval (a : SplApproval)
  | authorityChange (c : AuthorityChange)
  deriving DecidableEq

namespace Payload

def kind : Payload → PayloadKind
  | solTransfer _ => .solTransfer
  | splTransfer _ => .splTransfer
  | splApproval _ => .splApproval
  | authorityChange _ => .solStakeAuthorityChange

/-- The addresses a payload mentions. -/
def addresses : Payload → List String
  | solTransfer _ => []
  | splTransfer t => [t.mint]
  | splApproval a => [a.mint, a.delegate]
  | authorityChange c =>
    [c.account, c.current.staker, c.current.withdrawer, c.future.staker, c.future.withdrawer]

end Payload

/-- A data object: a place for each payload. -/
structure Data where
  solTransfer : Option SolTransfer
  splTransfer : Option SplTransfer
  splApproval : Option SplApproval
  authorityChange : Option AuthorityChange
  deriving DecidableEq

namespace Data

def empty : Data := ⟨none, none, none, none⟩

/-- The kinds of the payloads of a data object, the one that counts first. -/
def kinds (d : Data) : List PayloadKind :=
  PayloadKind.ofPlaces [(d.authorityChange.isSome, .solStakeAuthorityChange),
    (d.splApproval.isSome, .splApproval), (d.solTransfer.isSome, .solTransfer),
    (d.splTransfer.isSome, .splTransfer)]

/-- The payload of a data object that counts. -/
def payload? (d : Data) : Option Payload :=
  if let some c := d.authorityChange then some (.authorityChange c)
  else if let some a := d.splApproval then some (.splApproval a)
  else if let some t := d.solTransfer then some (.solTransfer t)
  else if let some t := d.splTransfer then some (.splTransfer t)
  else none

/-- The data object that holds one payload or none. -/
def ofPayload : Option Payload → Data
  | none => empty
  | some (.solTransfer t) => { empty with solTransfer := some t }
  | some (.splTransfer t) => { empty with splTransfer := some t }
  | some (.splApproval a) => { empty with splApproval := some a }
  | some (.authorityChange c) => { empty with authorityChange := some c }

theorem payload?_ofPayload (p : Option Payload) : (ofPayload p).payload? = p := by
  cases p with
  | none => rfl
  | some p => cases p <;> rfl

end Data

end SigningPreview.Solana
