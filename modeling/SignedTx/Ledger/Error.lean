import SignedTx.FormatError
import SignedTx.TypedData.Error

/-!
# Why a transaction is refused

One constructor for each cause, with its wording in `message` and its class in `kind`. The class
tells a caller what to do: reject the input, distrust the signer, mend the setup, or raise a limit.
-/

set_option autoImplicit false

namespace SignedTx

inductive Family
  | action
  | credential
deriving DecidableEq, Repr

def Family.label : Family → String
  | .action => "action"
  | .credential => "auth"

inductive ErrorKind
  | malformedInput
  | signatureInvalid
  | configuration
  | capacityExceeded
deriving DecidableEq, Repr

inductive TxError
  | format (cause : FormatError)
  | typedData (cause : TypedData.Error)
  | unknownTypeId (family : Family) (typeId : UInt8)
  | duplicateTypeId (family : Family) (typeId : UInt8)
  | tooManyActions (count max : Nat)
  | unsupportedActionCount (count : Nat)
  | transactionTooLarge (size max : Nat)
  | missingCredential
  | invalidSignature
  | signatureRecovery (reason : String)
  | signerMismatch
  | invalidPublicKey (reason : String)
  | signing (reason : String)
  | invalidAddress (reason : String)
  | invalidField (reason : String)
  | chainIdMismatch
  | misalignedTimestamp (timestamp : Int64)
  | expired (timestamp now : Int64)
  | timestampTooFar (timestamp max : Int64)
  | notActive (family : Family) (typeId : UInt8) (timestamp : Int64)
deriving DecidableEq, Repr

namespace TxError

def message : TxError → String
  | .format cause => cause.message
  | .typedData cause => cause.message
  | .unknownTypeId family typeId => s!"unknown {family.label} type id {typeId}"
  | .duplicateTypeId family typeId => s!"{family.label} type id {typeId} is already registered"
  | .tooManyActions count max => s!"too many actions: {count} exceeds limit of {max}"
  | .unsupportedActionCount count => s!"auth requires exactly one action, got {count}"
  | .transactionTooLarge size max => s!"transaction size {size} exceeds limit of {max}"
  | .missingCredential => "transaction is not signed"
  | .invalidSignature => "invalid signature"
  | .signatureRecovery reason => "failed to recover signer from signature: " ++ reason
  | .signerMismatch => "recovered key does not match the stored signer"
  | .invalidPublicKey reason => "invalid public key: " ++ reason
  | .signing reason => "signing failed: " ++ reason
  | .invalidAddress reason => "invalid address: " ++ reason
  | .invalidField reason => "invalid field: " ++ reason
  | .chainIdMismatch => "chain id mismatch"
  | .misalignedTimestamp timestamp => s!"timestamp {timestamp} is not a whole second"
  | .expired timestamp now => s!"transaction expired: timestamp {timestamp} is before {now}"
  | .timestampTooFar timestamp max =>
    s!"timestamp {timestamp} is beyond the validity window ending {max}"
  | .notActive family typeId timestamp =>
    s!"{family.label} type {typeId} is not active at {timestamp}"

def kind : TxError → ErrorKind
  | .format (.capacityExceeded _ _) | .transactionTooLarge _ _ => .capacityExceeded
  | .invalidSignature | .signatureRecovery _ | .signerMismatch => .signatureInvalid
  | .typedData _ | .duplicateTypeId _ _ | .signing _ => .configuration
  | .format _ | .unknownTypeId _ _ | .tooManyActions _ _ | .unsupportedActionCount _
  | .missingCredential | .invalidPublicKey _ | .invalidAddress _ | .invalidField _
  | .chainIdMismatch | .misalignedTimestamp _ | .expired _ _ | .timestampTooFar _ _
  | .notActive _ _ _ => .malformedInput

end TxError
end SignedTx
