import SignedTx.Wire.Field

/-!
# Reader

A reader walks over octets. Its first fault is latched: from then on reads give zeros, consume
nothing, and no later fault replaces it. A read past the end consumes nothing; a flag octet other
than 0 and 1 is consumed. `finish` also refuses octets that are left over.
-/

set_option autoImplicit false

namespace SignedTx.Wire

structure Reader where
  rest : List UInt8
  offset : Nat
  fault : Option FormatError
deriving DecidableEq

namespace Reader

def new (bytes : List UInt8) : Reader := ⟨bytes, 0, none⟩

def remaining (r : Reader) : Nat := r.rest.length

/-- Latches a fault unless there is one. -/
def fail (r : Reader) (e : FormatError) : Reader :=
  if r.fault.isSome then r else { r with fault := some e }

def take (r : Reader) (n : Nat) : Option (Octets n) × Reader :=
  if r.fault.isSome then (none, r)
  else if h : r.rest.length < n then
    (none, { r with fault := some (.insufficientBytes n r.rest.length) })
  else
    (some ⟨r.rest.take n, by simp; omega⟩,
      { r with rest := r.rest.drop n, offset := r.offset + n })

/-- Exactly `n` octets, zeros if there are not so many. -/
def octets (r : Reader) (n : Nat) : Octets n × Reader :=
  let (found, r) := r.take n
  (found.getD (Octets.zero n), r)

/-- The next `n` octets, none if there are not so many. -/
def bytes (r : Reader) (n : Nat) : List UInt8 × Reader :=
  let (found, r) := r.take n
  ((found.map Octets.toList).getD [], r)

def byte (r : Reader) : UInt8 × Reader :=
  let (found, r) := r.octets 1
  (found.toList.headD 0, r)

/-- A flag: the octet 0 or 1. -/
def bool (r : Reader) : Bool × Reader :=
  let (value, r) := r.byte
  if value = 0 then (false, r)
  else if value = 1 then (true, r)
  else (false, r.fail (.invalidBool value))

def uint64 (r : Reader) : UInt64 × Reader :=
  let (found, r) := r.octets 8
  (toUInt64 found.toList, r)

def int64 (r : Reader) : Int64 × Reader :=
  let (found, r) := r.octets 8
  (toInt64 found.toList, r)

def id (r : Reader) : Identifier × Reader :=
  let (found, r) := r.octets 32
  (⟨found⟩, r)

def address (r : Reader) : Address × Reader :=
  let (found, r) := r.octets 33
  (⟨found⟩, r)

def get (r : Reader) : Shape → Field × Reader
  | .byte => let (value, r) := r.byte; (.byte value, r)
  | .bool => let (value, r) := r.bool; (.bool value, r)
  | .uint64 => let (value, r) := r.uint64; (.uint64 value, r)
  | .int64 => let (value, r) := r.int64; (.int64 value, r)
  | .bytes length => let (value, r) := r.bytes length; (.bytes value, r)
  | .id => let (value, r) := r.id; (.id value, r)
  | .address => let (value, r) := r.address; (.address value, r)

/-- The latched fault, else a complaint about octets that nothing has read. -/
def finish (r : Reader) : Except FormatError Unit :=
  match r.fault with
  | some e => .error e
  | none => if r.rest.isEmpty then .ok () else .error (.trailingBytes r.remaining)

end Reader
end SignedTx.Wire
