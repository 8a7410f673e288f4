import SignedTx.Address
import SignedTx.Balance
import SignedTx.Json.Basic

/-!
# Presentation

How a chain shows addresses and balances to people.
-/

set_option autoImplicit false

namespace SignedTx

structure Presentation where
  hrp : String := "morpheus"
  decimals : UInt8 := 9
deriving DecidableEq, Repr, Inhabited

namespace Presentation

def formatAddress (presentation : Presentation) (address : Address) : Except FormatError String :=
  address.toBech32 presentation.hrp

def parseAddress (presentation : Presentation) (text : String) : Except FormatError Address :=
  Address.ofBech32 presentation.hrp text

def formatBalance (presentation : Presentation) (value : UInt64) : String :=
  Balance.format presentation.decimals value

def parseBalance (presentation : Presentation) (text : String) : Except FormatError UInt64 :=
  Balance.parse presentation.decimals text

/-- Reads a record in which both fields must be there; other fields do not count. -/
def ofJson? (json : Json) : Option Presentation := do
  match ← json.fields? ["hrp", "decimals"] with
  | [some (.string hrp), some decimals] =>
    return ⟨hrp, UInt8.ofNat (← decimals.integerIn? 0 255).toNat⟩
  | _ => none

end Presentation
end SignedTx
