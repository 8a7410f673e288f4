import SignedTx.Octets
import SignedTx.Text.Digits
import SignedTx.Text.Quoted
import SignedTx.Text.Hex
import SignedTx.Crypto.Hash
import SignedTx.FormatError
import SignedTx.Text.Base58
import SignedTx.Text.Bech32
import SignedTx.Identifier
import SignedTx.Address
import SignedTx.Balance
import SignedTx.Presentation
import SignedTx.Wire.Field
import SignedTx.Wire.Writer
import SignedTx.Wire.Reader
import SignedTx.Crypto.Keccak
import SignedTx.Crypto.Sha256
import SignedTx.Crypto.Hmac
import SignedTx.Crypto.Ecdsa
import SignedTx.Crypto.Secp256k1
import SignedTx.Json.Basic
import SignedTx.Json.Printer
import SignedTx.Json.Reader
import SignedTx.TypedData.StructHash
import SignedTx.TypedData.Document
import SignedTx.Text.Instant
import SignedTx.Ledger.Batch
import SignedTx.Ledger.Transfer
import SignedTx.Signing.Stock
import SignedTx.Signing.Display
import SignedTx.Node.LogFilter
import SignedTx.Yaml.Reader
import SignedTx.Node.Load
import SignedTx.Node.Startup
import SignedTx.Proofs.Wire.Reader
import SignedTx.Proofs.Ledger.Decode
import SignedTx.Proofs.Wire.Writer
import SignedTx.Proofs.Ledger.Layout
import SignedTx.Proofs.Ledger.Decoding
import SignedTx.Proofs.Signing.Stock
import SignedTx.Proofs.CanonicalWireForm
import SignedTx.Proofs.RoundTrip
import SignedTx.Proofs.Balance
import SignedTx.Proofs.Text.Bech32
import SignedTx.Proofs.Text.Hex
import SignedTx.Proofs.Text.Instant
import SignedTx.Proofs.TypedData.Binding
import SignedTx.Proofs.TypedData.SigningHash
import SignedTx.Proofs.TypedData.TypeString
import SignedTx.Proofs.Signing.TransferDocument
import SignedTx.Proofs.Signing.TypedCoverage
import SignedTx.Proofs.Signing.Actor
import SignedTx.Proofs.Ledger.Truncation
import SignedTx.Proofs.SelfDelimiting
import SignedTx.Proofs.Signing.PersonalMessage
import SignedTx.Proofs.TypedData.StructBinding
import SignedTx.Proofs.Signing.Signer
import SignedTx.Proofs.AllOrNothing
import SignedTx.Proofs.Acceptance
import SignedTx.Proofs.Node.Startup
import SignedTx.Proofs.Signing.Blame
import SignedTx.Proofs.Ledger.Trace
import SignedTx.Proofs.LatchedFaults
import SignedTx.Proofs.Wire.FirstExcess
import SignedTx.Proofs.Json.Object
import SignedTx.Proofs.TypedData.DerivedDomain
import SignedTx.Proofs.Text.Bech32.Checksum
import SignedTx.Proofs.Text.Bech32.Reading
import SignedTx.Proofs.Text.Calendar
import SignedTx.Proofs.Signing.ShownTexts
import SignedTx.Proofs.Text.Base58
import SignedTx.Proofs.Node.Runtime
import SignedTx.Proofs.Wire.Run
import SignedTx.Proofs.Wire.ReadBack
import SignedTx.Proofs.Text.ByteOrder
import SignedTx.Proofs.TypedData.Reachability
import SignedTx.Proofs.TypedData.CanonicalTypeString
import SignedTx.Proofs.Text.Numerals
import SignedTx.Proofs.TypedData.TypeName
import SignedTx.Proofs.TypedData.Content
import SignedTx.Proofs.TypedData.Reference
import SignedTx.Proofs.TypedData.IntegerWords
import SignedTx.Proofs.TypedData.UnknownTypes
import SignedTx.Proofs.Signing.RecoveryByte
import SignedTx.Proofs.Signing.Malleability
import SignedTx.Proofs.TypedData.IntegerTexts
import SignedTx.Proofs.TypedData.PrimitiveNames
import SignedTx.Proofs.Identifier
import SignedTx.Proofs.Text.Bech32.LetterCase
import SignedTx.Proofs.Address
import SignedTx.Proofs.Ledger.Batch
import SignedTx.Proofs.TypedData.Extension
import SignedTx.Proofs.TypedData.JsonForm
import SignedTx.Proofs.Ledger.Units
import SignedTx.Proofs.Ledger.Registration
import SignedTx.Proofs.Signing.Installation
