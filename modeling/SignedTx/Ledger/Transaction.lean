import SignedTx.Ledger.Registry
import SignedTx.Wire.Writer

/-!
# Transactions

The digest of a draft is its header, the count of its actions in one octet, and each action with its
type id. A transaction's wire form is the digest, a flag, and, if the flag is set, the credential
with its type id. Both are written into a writer whose limit is the reported size, so a size that is
too small is noticed, never a part written.
-/

set_option autoImplicit false

namespace SignedTx

/-- The most actions that the count octet can name. -/
def maxActions : Nat := 255

namespace Draft

def size (draft : Draft) : Nat :=
  draft.actions.foldl (fun sum action => sum + (1 + action.size)) (Header.size + 1)

def fields (draft : Draft) : Except TxError (List Wire.Field) :=
  let count := draft.actions.length
  if maxActions < count then .error (.tooManyActions count maxActions)
  else .ok (draft.header.fields ++
    .byte (UInt8.ofNat count) :: draft.actions.flatMap Action.taggedFields)

def digest (draft : Draft) : Except TxError (List UInt8) := do
  let fields ← draft.fields
  (Wire.write draft.size fields).mapError .format

end Draft

structure Transaction extends Draft where
  credential : Option Credential := none

namespace Transaction

def credentialFields : Option Credential → List Wire.Field
  | none => [.bool false]
  | some credential => .bool true :: credential.taggedFields

def size (tx : Transaction) : Nat :=
  tx.toDraft.size + 1 + (tx.credential.map fun credential => 1 + credential.size).getD 0

def fields (tx : Transaction) : Except TxError (List Wire.Field) :=
  tx.toDraft.fields.map (· ++ credentialFields tx.credential)

/-- Writes the wire form into a writer, which an error leaves as it was. -/
def marshal (tx : Transaction) (w : Wire.Writer) : Except TxError Unit × Wire.Writer :=
  match tx.fields with
  | .ok fields => (.ok (), w.putAll fields)
  | .error e => (.error e, w)

def toBytes (tx : Transaction) : Except TxError (List UInt8) := do
  let fields ← tx.fields
  (Wire.write tx.size fields).mapError .format

def id (hash : HashFunction) (tx : Transaction) : Except TxError Identifier :=
  tx.toBytes.map (Identifier.ofHash hash)

/-! ## Reading -/

/-- A type id, looked at before it is used, and what it names. -/
def decodeTagged {α : Type} (table : DecoderTable α) : Decode α := do
  let typeId ← Decode.read Wire.Reader.byte
  Decode.check
  table.decode typeId

def decodeFrom (registry : Registry) : Decode Transaction := do
  let header ← Header.decode
  let count ← Decode.read Wire.Reader.byte
  Decode.check
  let actions ← (decodeTagged registry.actions).times count.toNat
  let signed ← Decode.read Wire.Reader.bool
  Decode.check
  if signed then
    let credential ← decodeTagged registry.credentials
    return { header, actions, credential := some credential }
  else return { header, actions }

/-- Reads a wire form that must take up all octets. -/
def ofBytes (registry : Registry) (bytes : List UInt8) : Except TxError Transaction :=
  match decodeFrom registry (Wire.Reader.new bytes) with
  | (.error e, _) => .error e
  | (.ok tx, r) =>
    match r.finish with
    | .ok () => .ok tx
    | .error e => .error (.format e)

/-- What reading transactions one after the other gives. -/
structure Stream where
  /-- Each result, with the place of the reader after it. -/
  results : List (Except TxError Transaction × Nat)
  reader : Wire.Reader

/--
Reads transactions until no octet is left or one cannot be read. Each one that is read takes up some
octets, so `fuel` need not exceed their number.
-/
def decodeMany (registry : Registry) : (fuel : Nat) → Wire.Reader → Stream
  | 0, r => ⟨[], r⟩
  | fuel + 1, r =>
    if r.rest.isEmpty then ⟨[], r⟩
    else
      match decodeFrom registry r with
      | (.error e, after) => ⟨[(.error e, after.offset)], after⟩
      | (.ok tx, after) =>
        let more := decodeMany registry fuel after
        ⟨(.ok tx, after.offset) :: more.results, more.reader⟩

def streamOf (registry : Registry) (bytes : List UInt8) : Stream :=
  decodeMany registry bytes.length (Wire.Reader.new bytes)

/-! ## Signing and checking -/

/-- Adds a signer's credential and gives back what the wire form decodes to. -/
def sign (tx : Transaction) (signer : Signer) (registry : Registry) :
    Except TxError Transaction := do
  let credential ← signer.sign tx.toDraft
  let bytes ← toBytes { tx with credential := some credential }
  ofBytes registry bytes

def verify (tx : Transaction) : Except TxError Unit :=
  match tx.credential with
  | none => .error .missingCredential
  | some credential => credential.verify tx.toDraft

def actor (tx : Transaction) : Option Address := tx.credential.map Credential.actor

def sponsor (tx : Transaction) : Option Address := tx.credential.map Credential.sponsor

/-- Two transactions are the same if their headers and the octets of their parts are. -/
def same (left right : Transaction) : Bool :=
  decide (left.header = right.header) &&
    decide (left.actions.map Action.wire = right.actions.map Action.wire) &&
    decide (left.credential.map Credential.wire = right.credential.map Credential.wire)

/-- The price in units: base, actions and credential, never above the largest number. -/
def computeUnits (tx : Transaction) (rules : Rules) : UInt64 :=
  let actions := tx.actions.foldl (fun sum action =>
    saturatingAddUnits sum (action.computeUnits rules)) 0
  let credential := (tx.credential.map fun credential => credential.computeUnits rules).getD 0
  saturatingAddUnits (saturatingAddUnits rules.baseUnits actions) credential

/-- The first action that is not active at the header's timestamp. -/
def checkActions (rules : Rules) (timestamp : Int64) : List Action → Except TxError Unit
  | [] => .ok ()
  | action :: rest =>
    if (action.validRange rules).contains timestamp then checkActions rules timestamp rest
    else .error (.notActive .action action.typeId timestamp)

def checkCredential (rules : Rules) (timestamp : Int64) :
    Option Credential → Except TxError Unit
  | none => .ok ()
  | some credential =>
    if (credential.validRange rules).contains timestamp then .ok ()
    else .error (.notActive .credential credential.typeId timestamp)

/-- Header, number of actions, size, and the active ranges of all parts, in this order. -/
def validate (tx : Transaction) (rules : Rules) (now : Int64) : Except TxError Unit := do
  tx.header.validate rules now
  let most := min rules.maxActions maxActions
  if most < tx.actions.length then throw (.tooManyActions tx.actions.length most)
  if rules.maxSize < tx.size then throw (.transactionTooLarge tx.size rules.maxSize)
  checkActions rules tx.header.timestamp tx.actions
  checkCredential rules tx.header.timestamp tx.credential

end Transaction
end SignedTx
