import SignedTx.Address
import SignedTx.Identifier

/-!
# Wire fields

Wire data have no tags and no lengths: a record is the concatenation of its fields, each of a width
that its shape fixes. Numbers are big-endian, signed ones in two's complement.
-/

set_option autoImplicit false

namespace SignedTx.Wire

def ofInt64 (value : Int64) : List UInt8 := beBytes 8 value.toUInt64.toNat

def ofUInt64 (value : UInt64) : List UInt8 := beBytes 8 value.toNat

def toUInt64 (bytes : List UInt8) : UInt64 := UInt64.ofNat (beNat bytes)

def toInt64 (bytes : List UInt8) : Int64 := (toUInt64 bytes).toInt64

inductive Field
  | byte (value : UInt8)
  | bool (value : Bool)
  | uint64 (value : UInt64)
  | int64 (value : Int64)
  | bytes (value : List UInt8)
  | id (value : Identifier)
  | address (value : Address)
deriving DecidableEq

inductive Shape
  | byte
  | bool
  | uint64
  | int64
  | bytes (length : Nat)
  | id
  | address
deriving DecidableEq, Repr

namespace Field

def encode : Field → List UInt8
  | .byte value => [value]
  | .bool value => [value.toUInt8]
  | .uint64 value => ofUInt64 value
  | .int64 value => ofInt64 value
  | .bytes value => value
  | .id value => value.toList
  | .address value => value.toList

/-- The shape that reads a field back. -/
def shape : Field → Shape
  | .byte _ => .byte
  | .bool _ => .bool
  | .uint64 _ => .uint64
  | .int64 _ => .int64
  | .bytes value => .bytes value.length
  | .id _ => .id
  | .address _ => .address

end Field

def Shape.width : Shape → Nat
  | .byte => 1
  | .bool => 1
  | .uint64 => 8
  | .int64 => 8
  | .bytes length => length
  | .id => 32
  | .address => 33

def encodeFields (fields : List Field) : List UInt8 := fields.flatMap Field.encode

@[simp] theorem encodeFields_nil : encodeFields [] = [] := rfl

@[simp] theorem encodeFields_cons (field : Field) (fields : List Field) :
    encodeFields (field :: fields) = field.encode ++ encodeFields fields := by
  simp [encodeFields]

theorem length_encode (field : Field) : field.encode.length = field.shape.width := by
  cases field <;> simp [Field.encode, Field.shape, Shape.width, ofUInt64, ofInt64]

end SignedTx.Wire
