import SignedTx.Json.Basic
import SignedTx.Text.Hex
import SignedTx.TypedData.Scalar
import SignedTx.TypedData.Schema

/-!
# Signing domains

A domain says where a signature counts. Each of its five fields may be missing; the domain's struct
type lists exactly those that are there, in a fixed order. The chain id is written in decimal where
it is hashed and in hexadecimal where the domain is stored; both denote the same number.
-/

set_option autoImplicit false

namespace SignedTx.TypedData

abbrev Word256 := BitVec 256

def domainType : String := "EIP712Domain"

structure Domain where
  name : Option String := none
  version : Option String := none
  chainId : Option Word256 := none
  verifyingContract : Option (Octets 20) := none
  salt : Option (Octets 32) := none
deriving DecidableEq

namespace Domain

private def field {α : Type} (name type : String) (value : Option α) : List Field :=
  (value.map fun _ => (⟨name, type⟩ : Field)).toList

/-- The fields that are there, in the order of the domain's type. -/
def fields (domain : Domain) : List Field :=
  field "name" "string" domain.name ++ field "version" "string" domain.version ++
    field "chainId" "uint256" domain.chainId ++
    field "verifyingContract" "address" domain.verifyingContract ++
    field "salt" "bytes32" domain.salt

private def member (name : String) (value : Option String) : List (String × Json) :=
  (value.map fun text => (name, Json.string text)).toList

/-- The members of the domain with its chain id in a given spelling. -/
def members (chainIdText : Nat → List Char) (domain : Domain) : Json.Object :=
  Json.Object.ofList <|
    member "name" domain.name ++ member "version" domain.version ++
      member "chainId" (domain.chainId.map fun id => String.ofList (chainIdText id.toNat)) ++
      member "verifyingContract" (domain.verifyingContract.map (Hex.encodeMarked ·.toList)) ++
      member "salt" (domain.salt.map (Hex.encodeMarked ·.toList))

def message (domain : Domain) : Json.Object := domain.members Digits.decimal

def toJson (domain : Domain) : Json :=
  .object (domain.members fun id => '0' :: 'x' :: Digits.hexadecimal id)

/-! ## Reading -/

/-- Reads an optional field; `null` counts as missing. -/
def optional {α : Type} (read : Json → Option α) : Option Json → Option (Option α)
  | none => some none
  | some .null => some none
  | some json => (read json).map some

/-- The number that a text spells in the base its marker names, decimal without one. -/
def chainIdOfText? : List Char → Option Nat
  | '0' :: 'x' :: digits | '0' :: 'X' :: digits => Digits.spacedNat? 16 digits
  | '0' :: 'o' :: digits | '0' :: 'O' :: digits => Digits.spacedNat? 8 digits
  | '0' :: 'b' :: digits | '0' :: 'B' :: digits => Digits.spacedNat? 2 digits
  | digits => Digits.spacedNat? 10 digits

def word256? (n : Nat) : Option Word256 :=
  if n < wordCount then some (BitVec.ofNat 256 n) else none

/-- A chain id: an integer below 2⁶⁴ or a text. -/
def readChainId : Json → Option Word256
  | .string text => (chainIdOfText? text.toList).bind word256?
  | json => (json.integerIn? 0 (UInt64.size - 1)).bind fun n => word256? n.toNat

/-- Exactly `n` octets: in hexadecimal or as a list of numbers. -/
def readOctets (n : Nat) : Json → Option (Octets n)
  | .string text => (Hex.decodeFixed n text).toOption
  | .array items =>
    (items.mapM fun (item : Json) => (item.integerIn? 0 255).map fun v => UInt8.ofNat v.toNat).bind
      (Octets.ofList? n)
  | _ => none

def ofJson? (json : Json) : Option Domain := do
  match ← json.fields? ["name", "version", "chainId", "verifyingContract", "salt"] with
  | [name, version, chainId, verifyingContract, salt] =>
    return {
      name := ← optional Json.string? name
      version := ← optional Json.string? version
      chainId := ← optional readChainId chainId
      verifyingContract := ← optional (readOctets 20) verifyingContract
      salt := ← optional (readOctets 32) salt }
  | _ => none

end Domain
end SignedTx.TypedData
