import SigningPreview.Solana.Payload
import SigningPreview.Wire.Basic

/-! # How Solana payloads are written

Every field of a payload may be `null` or left out. In a data object the places that are not taken
are left out when it is written. -/
namespace SigningPreview.Solana

open Json (Layout)
open Json.Field (nullable omitted)
open Wire (textField decimalsField priceField)

/-! ## Fields that several payloads have -/

def movementField : Json.Field Movement := nullable "diff" Movement.layout.codec .blank

def supplyField : Json.Field UInt64 := nullable "supply" .word64 0

def Authorities.layout : Layout Authorities where
  name := "StakeAuthorities"
  fields := .cons (textField "staker") <| .cons (textField "withdrawer") .nil
  ofValues | (staker, withdrawer, ()) => ⟨staker, withdrawer⟩
  toValues a := (a.staker, a.withdrawer, ())

def authoritiesField (name : String) : Json.Field Authorities :=
  nullable name Authorities.layout.codec .blank

/-! ## Payloads -/

def SolTransfer.layout : Layout SolTransfer where
  name := "SolTransferData"
  fields := .cons (textField "symbol") <| .cons (textField "name") <| .cons decimalsField <|
    .cons movementField .nil
  ofValues | (symbol, name, decimals, movement, ()) => ⟨symbol, name, decimals, movement⟩
  toValues t := (t.symbol, t.name, t.decimals, t.movement, ())

def SplTransfer.layout : Layout SplTransfer where
  name := "SplTransferData"
  fields := .cons (textField "symbol") <| .cons (textField "name") <| .cons (textField "mint") <|
    .cons decimalsField <| .cons supplyField <| .cons (textField "metaplexTokenStandard") <|
    .cons priceField <| .cons movementField .nil
  ofValues
    | (symbol, name, mint, decimals, supply, standard, price, movement, ()) =>
      ⟨symbol, name, mint, decimals, supply, standard, price, movement⟩
  toValues t :=
    (t.symbol, t.name, t.mint, t.decimals, t.supply, t.standard, t.price, t.movement, ())

def SplApproval.layout : Layout SplApproval where
  name := "SplApprovalData"
  fields := .cons (textField "delegate") <| .cons (textField "mint") <|
    .cons (textField "symbol") <| .cons (textField "name") <| .cons decimalsField <|
    .cons supplyField <| .cons (textField "metaplexTokenStandard") <| .cons priceField <|
    .cons movementField .nil
  ofValues
    | (delegate, mint, symbol, name, decimals, supply, standard, price, movement, ()) =>
      ⟨delegate, mint, symbol, name, decimals, supply, standard, price, movement⟩
  toValues a :=
    (a.delegate, a.mint, a.symbol, a.name, a.decimals, a.supply, a.standard, a.price, a.movement,
      ())

def AuthorityChange.layout : Layout AuthorityChange where
  name := "SolStakeAuthorityChangeData"
  fields := .cons (textField "stakeAccount") <| .cons (authoritiesField "currAuthorities") <|
    .cons (authoritiesField "futureAuthorities") <| .cons (textField "symbol") <|
    .cons (textField "name") <| .cons decimalsField <|
    .cons (nullable "solStaked" .word64 0) .nil
  ofValues
    | (account, current, future, symbol, name, decimals, staked, ()) =>
      ⟨account, current, future, symbol, name, decimals, staked⟩
  toValues c := (c.account, c.current, c.future, c.symbol, c.name, c.decimals, c.staked, ())

/-! ## Data objects -/

def Data.layout : Layout Data where
  name := "SvmStateChangeData"
  fields := .cons (omitted "solTransferData" SolTransfer.layout.codec) <|
    .cons (omitted "splTransferData" SplTransfer.layout.codec) <|
    .cons (omitted "splApprovalData" SplApproval.layout.codec) <|
    .cons (omitted "solStakeAuthorityChangeData" AuthorityChange.layout.codec) .nil
  ofValues
    | (solTransfer, splTransfer, splApproval, authorityChange, ()) =>
      ⟨solTransfer, splTransfer, splApproval, authorityChange⟩
  toValues d := (d.solTransfer, d.splTransfer, d.splApproval, d.authorityChange, ())

end SigningPreview.Solana
