import SignedTx.TypedData.Error
import SignedTx.Text.Digits

/-!
# Names of field types

A field's type is a struct name or a primitive, followed by any number of array suffixes. The base
of a type is what stands before its first opening bracket; the element type of an array is what is
left when its last suffix is taken off.
-/

set_option autoImplicit false

namespace SignedTx.TypedData

/-- The types that are no structs and no arrays. -/
inductive Primitive
  | address
  | bool
  | string
  | bytes
  | fixedBytes (length : Nat)
  | uint (bits : Nat)
  | int (bits : Nat)
deriving DecidableEq, Repr

/-- One or more decimal digits, leading zeros allowed, that a machine word can hold. -/
def width? (digits : List Char) : Option Nat :=
  (Digits.decimal? digits).filter (· < UInt64.size)

/-- A whole number of octets from 8 to 256 bits. -/
def bits? (digits : List Char) : Option Nat :=
  (width? digits).filter fun bits => bits % 8 = 0 && 8 ≤ bits && bits ≤ 256

/-- A number of octets from 1 to 32. -/
def fixedLength? (digits : List Char) : Option Nat :=
  (width? digits).filter fun length => 1 ≤ length && length ≤ 32

namespace Primitive

/-- The primitive of a name that ends in a width. -/
def ofSized? : List Char → Option Primitive
  | 'b' :: 'y' :: 't' :: 'e' :: 's' :: digits => (fixedLength? digits).map .fixedBytes
  | 'u' :: 'i' :: 'n' :: 't' :: digits => (bits? digits).map .uint
  | 'i' :: 'n' :: 't' :: digits => (bits? digits).map .int
  | _ => none

def ofName? (name : String) : Option Primitive :=
  if name = "address" then some .address
  else if name = "bool" then some .bool
  else if name = "string" then some .string
  else if name = "bytes" then some .bytes
  else if name = "uint" then some (.uint 256)
  else if name = "int" then some (.int 256)
  else ofSized? name.toList

end Primitive

def baseName (type : String) : String := String.ofList (type.toList.takeWhile (· ≠ '['))

inductive Shape
  | single
  /-- A last suffix that fixes the length or leaves it open. -/
  | array (element : String) (length : Option Nat)
deriving DecidableEq, Repr

/-- Takes the last array suffix off; what stands between its brackets is nothing or a width. -/
def shape (type : String) : Except Error Shape :=
  match type.toList.reverse with
  | ']' :: body =>
    match body.dropWhile (· ≠ '[') with
    | [] => .error (.unknownType type)
    | _ :: element =>
      let element := String.ofList element.reverse
      match (body.takeWhile (· ≠ '[')).reverse with
      | [] => .ok (.array element none)
      | digits =>
        match width? digits with
        | some length => .ok (.array element (some length))
        | none => .error (.unknownType type)
  | _ => .ok .single

end SignedTx.TypedData
