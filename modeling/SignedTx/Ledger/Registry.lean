import SignedTx.Ledger.Action

/-!
# Registries

A registry holds a decoder for each known type id of actions and of credentials. An id can be taken
once; a second registration is refused and changes nothing. An unknown id is refused before the
reader is touched.
-/

set_option autoImplicit false

namespace SignedTx

/-- Decoders by ascending type id. -/
structure DecoderTable (α : Type) where
  family : Family
  decoders : List (UInt8 × Decode α) := []

namespace DecoderTable

variable {α : Type}

def find? (table : DecoderTable α) (typeId : UInt8) : Option (Decode α) :=
  table.decoders.lookup typeId

def supports (table : DecoderTable α) (typeId : UInt8) : Bool := (table.find? typeId).isSome

def size (table : DecoderTable α) : Nat := table.decoders.length

def typeIds (table : DecoderTable α) : List UInt8 := table.decoders.map Prod.fst

def insert (typeId : UInt8) (decoder : Decode α) :
    List (UInt8 × Decode α) → List (UInt8 × Decode α)
  | [] => [(typeId, decoder)]
  | (other, found) :: rest =>
    if typeId < other then (typeId, decoder) :: (other, found) :: rest
    else (other, found) :: insert typeId decoder rest

def register (table : DecoderTable α) (typeId : UInt8) (decoder : Decode α) :
    Except TxError (DecoderTable α) :=
  if table.supports typeId then .error (.duplicateTypeId table.family typeId)
  else .ok { table with decoders := insert typeId decoder table.decoders }

def decode (table : DecoderTable α) (typeId : UInt8) : Decode α :=
  match table.find? typeId with
  | some decoder => decoder
  | none => Decode.fail (.unknownTypeId table.family typeId)

end DecoderTable

structure Registry where
  actions : DecoderTable Action := { family := .action }
  credentials : DecoderTable Credential := { family := .credential }

namespace Registry

def empty : Registry := {}

end Registry
end SignedTx
