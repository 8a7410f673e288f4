import SignedTx.FormatError
import SignedTx.Text.Bech32

/-!
# Addresses

An address is a scheme octet and 32 octets of payload. People see it in Bech32 under a
human-readable part that the chain chooses; only the older checksum target is accepted.
-/

set_option autoImplicit false

namespace SignedTx

structure Address extends Octets 33
deriving DecidableEq

namespace Address

def ofList? (bytes : List UInt8) : Except FormatError Address :=
  match Octets.ofList? 33 bytes with
  | some octets => .ok ⟨octets⟩
  | none => .error (.invalidLength 33 bytes.length)

def ofPayload (typeId : UInt8) (payload : Octets 32) : Address :=
  ⟨⟨typeId :: payload.toList, by simp⟩⟩

def zero : Address := ⟨Octets.zero 33⟩

def typeId (address : Address) : UInt8 := address.toList.headD 0

def payload (address : Address) : List UInt8 := address.toList.drop 1

def toBech32 (hrp : String) (address : Address) : Except FormatError String :=
  match Bech32.encode .bech32 hrp (Bech32.symbolsOfOctets address.toList) with
  | .ok text => .ok text
  | .error e => .error (.invalidBech32 e.message)

/-- Reads the text form; the human-readable part must be the given one, in lower case. -/
def ofBech32 (hrp text : String) : Except FormatError Address :=
  match Bech32.decode text with
  | .error e => .error (.invalidBech32 e.message)
  | .ok (found, symbols, variant) =>
    if found ≠ hrp then
      .error (.invalidBech32 ("expected prefix '" ++ hrp ++ "', got '" ++ found ++ "'"))
    else if variant ≠ .bech32 then .error (.invalidBech32 "bech32m is not supported")
    else
      match Bech32.octetsOfSymbols symbols with
      | .error e => .error (.invalidBech32 e.message)
      | .ok bytes => ofList? bytes

def display (address : Address) : String := "Address(" ++ Hex.encodeMarked address.toList ++ ")"

end Address
end SignedTx
