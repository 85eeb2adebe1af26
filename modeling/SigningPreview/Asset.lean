/-! # Parties and assets

What records say about the accounts and assets involved. Every part may be empty: a provider that
could not resolve a field leaves it blank. -/
namespace SigningPreview

/-- An account or contract, by its address. -/
structure Party where
  address : String
  kind : String
  deriving DecidableEq

namespace Party

def blank : Party := ⟨"", ""⟩

/-- The party that is an account. -/
def account (address : String) : Party := ⟨address, "ACCOUNT"⟩

end Party

/-- What one unit of an asset is worth, according to a source. -/
structure Price where
  source : String
  updatedAt : String
  dollars : String
  deriving DecidableEq

def Price.blank : Price := ⟨"", "", ""⟩

/-- A fungible asset. -/
structure Asset where
  address : String
  symbol : String
  name : String
  decimals : UInt32
  verified : Bool
  /-- The token lists the asset is on. -/
  lists : List String
  imageUrl : Option String
  price : Option Price
  deriving DecidableEq

namespace Asset

def blank : Asset := ⟨"", "", "", 0, false, [], none, none⟩

/-- What is shown of an asset's standing. -/
def standing (a : Asset) : String :=
  if !a.verified then "This token is unverified"
  else if a.lists = [] then "This token is verified"
  else "This token is verified on " ++ a.lists.length.repr ++ " lists"

end Asset

/-- What is known of a single token of a collection. -/
structure Metadata where
  imageUrl : String
  deriving DecidableEq

def Metadata.blank : Metadata := ⟨""⟩

end SigningPreview
