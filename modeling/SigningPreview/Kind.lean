/-! # Payload kinds, categories and tags

A record carries a payload of one of twelve kinds, and beside it a tag: a text that is meant to name
the kind. The tag is advice of the sender. A tag that names no kind is kept as it is. -/
namespace SigningPreview

/-- What a record says will happen. -/
inductive PayloadKind where
  | erc20Transfer
  | erc721Transfer
  | erc1155Transfer
  | nativeAssetTransfer
  | erc20Approval
  | erc721Approval
  | erc721ApprovalForAll
  | erc1155ApprovalForAll
  | solTransfer
  | splTransfer
  | splApproval
  | solStakeAuthorityChange
  deriving DecidableEq

/-- The heading a change is shown under. -/
inductive Category where
  | transfer
  | approval
  | stakeAuthorityChange
  deriving DecidableEq

namespace PayloadKind

/-- The tag that names a kind. -/
def literal : PayloadKind → String
  | erc20Transfer => "ERC20_TRANSFER"
  | erc721Transfer => "ERC721_TRANSFER"
  | erc1155Transfer => "ERC1155_TRANSFER"
  | nativeAssetTransfer => "NATIVE_ASSET_TRANSFER"
  | erc20Approval => "ERC20_APPROVAL"
  | erc721Approval => "ERC721_APPROVAL"
  | erc721ApprovalForAll => "ERC721_APPROVAL_FOR_ALL"
  | erc1155ApprovalForAll => "ERC1155_APPROVAL_FOR_ALL"
  | solTransfer => "SOL_TRANSFER"
  | splTransfer => "SPL_TRANSFER"
  | splApproval => "SPL_APPROVAL"
  | solStakeAuthorityChange => "SOL_STAKE_AUTHORITY_CHANGE"

/-- How messages about several payloads call a kind. -/
def name : PayloadKind → String
  | erc20Transfer => "Erc20Transfer"
  | erc721Transfer => "Erc721Transfer"
  | erc1155Transfer => "Erc1155Transfer"
  | nativeAssetTransfer => "NativeAssetTransfer"
  | erc20Approval => "Erc20Approval"
  | erc721Approval => "Erc721Approval"
  | erc721ApprovalForAll => "Erc721ApprovalForAll"
  | erc1155ApprovalForAll => "Erc1155ApprovalForAll"
  | solTransfer => "SolTransfer"
  | splTransfer => "SplTransfer"
  | splApproval => "SplApproval"
  | solStakeAuthorityChange => "SolStakeAuthorityChange"

def category : PayloadKind → Category
  | erc20Transfer | erc721Transfer | erc1155Transfer | nativeAssetTransfer | solTransfer
  | splTransfer => .transfer
  | erc20Approval | erc721Approval | erc721ApprovalForAll | erc1155ApprovalForAll
  | splApproval => .approval
  | solStakeAuthorityChange => .stakeAuthorityChange

/-- The kind that a text names. -/
def ofLiteral? : String → Option PayloadKind
  | "ERC20_TRANSFER" => some erc20Transfer
  | "ERC721_TRANSFER" => some erc721Transfer
  | "ERC1155_TRANSFER" => some erc1155Transfer
  | "NATIVE_ASSET_TRANSFER" => some nativeAssetTransfer
  | "ERC20_APPROVAL" => some erc20Approval
  | "ERC721_APPROVAL" => some erc721Approval
  | "ERC721_APPROVAL_FOR_ALL" => some erc721ApprovalForAll
  | "ERC1155_APPROVAL_FOR_ALL" => some erc1155ApprovalForAll
  | "SOL_TRANSFER" => some solTransfer
  | "SPL_TRANSFER" => some splTransfer
  | "SPL_APPROVAL" => some splApproval
  | "SOL_STAKE_AUTHORITY_CHANGE" => some solStakeAuthorityChange
  | _ => none

/-- The kinds of a table whose places are taken, in the order of the table. -/
def ofPlaces (table : List (Bool × PayloadKind)) : List PayloadKind :=
  table.filterMap fun (taken, kind) => if taken then some kind else none

/-- Kinds in a list, as messages write them. -/
def listNames (ks : List PayloadKind) : String :=
  "[" ++ ", ".intercalate (ks.map name) ++ "]"

end PayloadKind

namespace Category

/-- The categories in the order in which they are shown. -/
def all : List Category := [transfer, approval, stakeAuthorityChange]

def name : Category → String
  | transfer => "transfer"
  | approval => "approval"
  | stakeAuthorityChange => "stakeAuthorityChange"

/-- The heading over the changes of a category. -/
def heading : Category → String
  | transfer => "Transfers"
  | approval => "Approvals"
  | stakeAuthorityChange => "Stake authority changes"

end Category

/-- What a record is tagged as. -/
inductive Tag where
  | known (kind : PayloadKind)
  /-- Any other text; reading a tag never puts the literal of a kind here. -/
  | other (text : String)
  deriving DecidableEq

namespace Tag

/-- The tag of a record that has none. -/
def blank : Tag := .other ""

def ofText (text : String) : Tag :=
  match PayloadKind.ofLiteral? text with
  | some kind => .known kind
  | none => .other text

def text : Tag → String
  | .known kind => kind.literal
  | .other text => text

/-- A tag as it is written out: a text that names no kind leaves as it came. -/
def written : Tag → String
  | .other text => text
  | tag => tag.text

/-- Messages show a tag by its text. -/
instance : ToString Tag := ⟨text⟩

def isKnown : Tag → Bool
  | .known _ => true
  | .other _ => false

/-- A tag that reading can produce: it does not hide the literal of a kind. -/
def Readable : Tag → Prop
  | .known _ => True
  | .other text => ∀ kind : PayloadKind, kind.literal ≠ text

end Tag

end SigningPreview
