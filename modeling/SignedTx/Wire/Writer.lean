import SignedTx.Wire.Field

/-!
# Writer

A writer holds octets up to a limit. The first write that would pass the limit is latched as a
fault: it writes nothing, nor does any later one, even one that would fit. `toBytes` gives all
octets or the fault, never a part.
-/

set_option autoImplicit false

namespace SignedTx.Wire

/-- The largest count of octets that a machine word can name. -/
def maxCount : Nat := UInt64.size - 1

structure Writer where
  bytes : List UInt8
  limit : Nat
  fault : Option FormatError
deriving DecidableEq

namespace Writer

def new (limit : Nat) : Writer := ⟨[], limit, none⟩

def isPoisoned (w : Writer) : Bool := w.fault.isSome

/-- Writes octets unless a fault is latched or the limit would be passed. -/
def append (w : Writer) (bytes : List UInt8) : Writer :=
  if w.isPoisoned then w
  else
    let requested := min (w.bytes.length + bytes.length) maxCount
    if w.limit < requested then { w with fault := some (.capacityExceeded w.limit requested) }
    else { w with bytes := w.bytes ++ bytes }

def put (w : Writer) (field : Field) : Writer := w.append field.encode

def putAll (w : Writer) (fields : List Field) : Writer := fields.foldl put w

/-- The octets, if every write was admitted. -/
def toBytes (w : Writer) : Except FormatError (List UInt8) :=
  match w.fault with
  | none => .ok w.bytes
  | some e => .error e

end Writer

def write (limit : Nat) (fields : List Field) : Except FormatError (List UInt8) :=
  ((Writer.new limit).putAll fields).toBytes

end SignedTx.Wire
