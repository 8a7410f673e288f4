import SignedTx.Crypto.Hash
import SignedTx.FormatError
import SignedTx.Json.Basic
import SignedTx.Text.Base58

/-!
# Ids

An id is 32 octets. Its text form is base 58 of the octets followed by the last four octets of
their hash, so a mistyped character is noticed. Any hash function may take that part.
-/

set_option autoImplicit false

namespace SignedTx

structure Identifier extends Octets 32
deriving DecidableEq

namespace Identifier

def ofHash (hash : HashFunction) (data : List UInt8) : Identifier := ⟨hash data⟩

def ofList? (bytes : List UInt8) : Except FormatError Identifier :=
  match Octets.ofList? 32 bytes with
  | some octets => .ok ⟨octets⟩
  | none => .error (.invalidLength 32 bytes.length)

def zero : Identifier := ⟨Octets.zero 32⟩

def checksum (hash : HashFunction) (body : List UInt8) : List UInt8 := (hash body).toList.drop 28

/-- The text form: body and checksum in base 58. -/
def toText (hash : HashFunction) (id : Identifier) : String :=
  Base58.encode (id.toList ++ checksum hash id.toList)

/-- Reads the text form: 36 octets whose last four are the checksum of the others. -/
def ofText (hash : HashFunction) (text : String) : Except FormatError Identifier :=
  match Base58.decode text with
  | .error e => .error (.invalidCb58 e.message)
  | .ok raw =>
    if raw.length ≠ 36 then
      .error (.invalidCb58 s!"decoded {raw.length} bytes, expected 36")
    else if raw.drop 32 ≠ checksum hash (raw.take 32) then
      .error (.invalidCb58 "checksum mismatch")
    else ofList? (raw.take 32)

def toJson (hash : HashFunction) (id : Identifier) : Json := .string (id.toText hash)

def ofJson? (hash : HashFunction) (json : Json) : Option Identifier :=
  json.string?.bind fun text => (ofText hash text).toOption

end Identifier
end SignedTx
