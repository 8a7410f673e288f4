import SignedTx.Proofs.Ledger.Trace
import SignedTx.Proofs.RoundTrip

/-!
# Latched faults

Decoders may be careless: one that runs out of octets may go on with the zeros it is given and
report a value. As long as all it does to the reader are operations, nothing cut short passes for a
transaction. Each type id and the flag are checked before they are trusted, so decoding goes past a
careless action only to stop at the next check. After the credential there is none; there a fault can
be left in the reader, and `finish` finds it. The stock decoders check for themselves and leave none.
-/

set_option autoImplicit false

namespace SignedTx.Transaction

open Wire Decode

variable {registry : Registry}

/-! ## The last call -/

/-- A call of a registered decoder, begun without a fault, that gave `part` and left the reader at
`after`. -/
structure Call {α : Type} (table : DecoderTable α) (part : α) (after : Reader) where
  typeId : UInt8
  called : Decode α
  registered : table.find? typeId = some called
  start : Reader
  clean : start.fault = none
  decoded : called start = (.ok part, after)

/-- The call with which a decoder ended; the operations before it lead to where it began. -/
structure LastCall {α β : Type} {table : DecoderTable α} {decoder : Decode β}
    (traced : table.Traced) (whole : decoder.Traced) (r : Reader) (part : α) (after : Reader)
    extends Call table part after where
  earlier : List Reader.Operation
  split : whole.operations r = earlier ++ traced.operations typeId start
  reached : r.performAll earlier = start

namespace LastCall

section Sequences

variable {α β γ : Type} {table : DecoderTable α} {tableTraced : table.Traced} {first : Decode β}
  {next : β → Decode γ} {traced : first.Traced} {later : ∀ found, (next found).Traced}
  {r middle after : Reader} {found : β} {part : α}

def afterStep (stepped : first r = (.ok found, middle))
    (call : LastCall tableTraced (later found) middle part after) :
    LastCall tableTraced (traced.bind later) r part after where
  toCall := call.toCall
  earlier := traced.operations r ++ call.earlier
  split := by rw [Traced.operations_bind stepped, call.split, List.append_assoc]
  reached := by
    have moved : r.performAll (traced.operations r) = middle := by rw [← traced.performs r, stepped]
    rw [Reader.perform_all_append, moved, call.reached]

def beforeIdle (stepped : first r = (.ok found, middle))
    (idle : (later found).operations middle = [])
    (call : LastCall tableTraced traced r part after) :
    LastCall tableTraced (traced.bind later) r part after where
  toCall := call.toCall
  earlier := call.earlier
  split := by rw [Traced.operations_bind stepped, idle, List.append_nil, call.split]
  reached := call.reached

end Sequences

variable {α β : Type} {table : DecoderTable α} {traced : table.Traced} {decoder : Decode β}
  {whole : decoder.Traced} {r after : Reader} {part : α}

/-- An operation of the called decoder latched the fault, after others that all delivered. -/
def Latches (call : LastCall traced whole r part after) (e : FormatError) : Prop :=
  ∃ before operation rest,
    traced.operations call.typeId call.start = before ++ operation :: rest ∧
      call.start.Undisturbed before ∧
      ((call.start.performAll before).perform operation).fault = some e

theorem undisturbed_before (call : LastCall traced whole r part after) :
    r.fault = none ∧ r.Undisturbed call.earlier := by
  apply Reader.perform_all_clean_iff.1
  rw [call.reached]
  exact call.clean

theorem latches_of_fault (call : LastCall traced whole r part after) {e : FormatError}
    (latched : after.fault = some e) : call.Latches e := by
  apply Reader.latched_at call.clean
  rw [← traced.performs call.typeId call.called call.registered, call.decoded]
  exact latched

/-- A tagged part ends with the call of its decoder, and the check before it has passed. -/
theorem of_decode_tagged {r after : Reader} {part : α}
    (decoded : decodeTagged table r = (.ok part, after)) :
    Nonempty (LastCall traced (taggedTrace traced) r part after) := by
  rcases bind_eq_ok_iff.1 decoded with ⟨typeId, start, octet, checkedDecoded⟩
  rcases bind_eq_ok_iff.1 checkedDecoded with ⟨_, _, checked, calledDecoded⟩
  rcases check_eq_ok_iff.1 checked with ⟨clean, rfl⟩
  cases registered : table.find? typeId with
  | none =>
      rw [DecoderTable.decode, registered] at calledDecoded
      cases calledDecoded
  | some called =>
      rw [DecoderTable.decode, registered] at calledDecoded
      exact ⟨afterStep octet (afterStep checked
        ⟨⟨typeId, called, registered, _, clean, calledDecoded⟩, [],
          traced.operations_decode registered _, rfl⟩)⟩

end LastCall

/-- Decoding that reports a transaction has passed the check after the flag. From there it does
nothing more, or it ends with the credential's decoder. -/
theorem clean_or_last_call (traced : registry.Traced) {r after : Reader} {tx : Transaction}
    (decoded : decodeFrom registry r = (.ok tx, after)) :
    after.fault = none ∨ ∃ credential, tx.credential = some credential ∧
      Nonempty (LastCall traced.credentials (trace traced) r credential after) := by
  rcases bind_eq_ok_iff.1 decoded with ⟨header, _, headerRead, decoded⟩
  rcases bind_eq_ok_iff.1 decoded with ⟨count, _, countRead, decoded⟩
  rcases bind_eq_ok_iff.1 decoded with ⟨_, _, countChecked, decoded⟩
  rcases bind_eq_ok_iff.1 decoded with ⟨actions, _, actionsRead, decoded⟩
  rcases bind_eq_ok_iff.1 decoded with ⟨signed, _, flagRead, decoded⟩
  rcases bind_eq_ok_iff.1 decoded with ⟨_, _, flagChecked, decoded⟩
  cases signed with
  | false =>
      cases decoded
      rcases check_eq_ok_iff.1 flagChecked with ⟨clean, rfl⟩
      exact .inl clean
  | true =>
      rcases bind_eq_ok_iff.1 decoded with ⟨credential, _, credentialRead, decoded⟩
      cases decoded
      obtain ⟨call⟩ : Nonempty (LastCall traced.credentials (taggedTrace traced.credentials)
          _ credential _) := LastCall.of_decode_tagged credentialRead
      refine .inr ⟨credential, rfl, ⟨?_⟩⟩
      exact .afterStep headerRead (.afterStep countRead (.afterStep countChecked
        (.afterStep actionsRead (.afterStep flagRead (.afterStep flagChecked
          (.beforeIdle credentialRead rfl call))))))

/-! ## Whole octets -/

/-- Nothing disturbed the reading of `bytes`, which is over with the last of them. -/
structure ReadsWhole (traced : registry.Traced) (bytes : List UInt8) (after : Reader) : Prop where
  undisturbed : (Reader.new bytes).Undisturbed ((trace traced).operations (Reader.new bytes))
  clean : after.fault = none
  rest : after.rest = []
  offset : after.offset = bytes.length
  widths : Reader.Operation.widths ((trace traced).operations (Reader.new bytes)) = bytes.length

theorem reads_whole_of_clean (traced : registry.Traced) {bytes : List UInt8} {after : Reader}
    {tx : Transaction} (decoded : decodeFrom registry (Reader.new bytes) = (.ok tx, after))
    (clean : after.fault = none) (rest : after.rest = []) : ReadsWhole traced bytes after := by
  have performed : after =
      (Reader.new bytes).performAll ((trace traced).operations (Reader.new bytes)) := by
    rw [← (trace traced).performs, decoded]
  have undisturbed := (Reader.perform_all_clean_iff.1 (performed ▸ clean)).2
  obtain ⟨front, consumed, width⟩ := undisturbed.consumes rfl
  rw [← performed] at consumed
  have all : bytes = front := by
    have split := consumed.rest_eq
    rwa [rest, List.append_nil] at split
  have moved : after.offset = 0 + front.length := consumed.offset_eq
  refine ⟨undisturbed, clean, rest, ?_, ?_⟩
  · rw [moved, Nat.zero_add, all]
  · rw [← width, ← all]

/-- Whatever the registered decoders report: octets are read as a transaction exactly if decoding
reports it, every operation on the reader delivered and all octets were taken up. Where decoding
reports a transaction with a fault left in the reader, there is a credential, nothing was disturbed
before its decoder was called, and an operation of that call latched the fault. -/
theorem careless_decoders_hide_no_fault (registry : Registry) (traced : registry.Traced) :
    (∀ bytes tx, ofBytes registry bytes = .ok tx ↔
      ∃ after, decodeFrom registry (Reader.new bytes) = (.ok tx, after) ∧
        ReadsWhole traced bytes after) ∧
    (∀ r tx after e, decodeFrom registry r = (.ok tx, after) → after.fault = some e →
      ∃ credential, tx.credential = some credential ∧
        ∃ call : LastCall traced.credentials (trace traced) r credential after,
          r.fault = none ∧ r.Undisturbed call.earlier ∧ call.Latches e) := by
  constructor
  · intro bytes tx
    rw [of_bytes_eq_ok_iff]
    constructor
    · intro parts
      rcases parts with ⟨after, decoded, clean, rest⟩
      exact ⟨after, decoded, reads_whole_of_clean traced decoded clean rest⟩
    · intro parts
      rcases parts with ⟨after, decoded, whole⟩
      exact ⟨after, decoded, whole.clean, whole.rest⟩
  · intro r tx after e decoded latched
    rcases clean_or_last_call traced decoded with clean | ⟨credential, held, ⟨call⟩⟩
    · rw [clean] at latched
      cases latched
    · rcases call.undisturbed_before with ⟨started, undisturbed⟩
      exact ⟨credential, held, call, started, undisturbed, call.latches_of_fault latched⟩

/-! ## The stock decoders -/

def transferTrace : Transfer.decode.Traced :=
  Traced.address.bind fun _ => Traced.uint64.bind fun _ => Traced.check.bind fun _ => .pure _

def signedTrace (crypto : Crypto) (length : Nat) : (SignedBy.decode crypto length).Traced :=
  (Traced.octets length).bind fun _ => (Traced.octets 65).bind fun _ =>
    Traced.check.bind fun _ => (Traced.ofExcept _).bind fun _ => .pure _

def schemeTrace (projection : Projection) (crypto : Crypto) (scheme : StockScheme) :
    (Registry.decodeStock projection crypto scheme).Traced :=
  (signedTrace crypto scheme.keyLength).bind fun _ => .pure _

def stockTraced (crypto : Crypto) (projection : Projection) :
    (Registry.stockTables crypto projection).Traced where
  actions := {
    operations := fun _ => (transferTrace.bind fun transfer => .pure transfer.toAction).operations
    performs := by
      intro typeId decoder found
      rcases Registry.find_stock_action projection found with ⟨-, rfl⟩
      exact (transferTrace.bind fun transfer => .pure transfer.toAction).performs }
  credentials := {
    operations := fun typeId =>
      if typeId = RawScheme.typeId then (schemeTrace projection crypto .raw).operations
      else (schemeTrace projection crypto .typed).operations
    performs := by
      intro typeId decoder found
      rcases Registry.find_stock_credential projection found with ⟨scheme, rfl, rfl⟩
      cases scheme with
      | raw => exact (schemeTrace projection crypto .raw).performs
      | typed => exact (schemeTrace projection crypto .typed).performs }

/-- The stock decoders check what they have read before they judge it. -/
theorem clean_of_decode_stock {crypto : Crypto} {projection : Projection} {scheme : StockScheme}
    {r after : Reader} {credential : Credential}
    (decoded : Registry.decodeStock projection crypto scheme r = (.ok credential, after)) :
    after.fault = none := by
  rcases bind_eq_ok_iff.1 decoded with ⟨_, _, signedRead, converted⟩
  rcases bind_eq_ok_iff.1 signedRead with ⟨_, _, -, afterKey⟩
  rcases bind_eq_ok_iff.1 afterKey with ⟨_, _, -, afterSignature⟩
  rcases bind_eq_ok_iff.1 afterSignature with ⟨_, _, checked, afterCheck⟩
  rcases bind_eq_ok_iff.1 afterCheck with ⟨_, _, parsed, paired⟩
  rcases check_eq_ok_iff.1 checked with ⟨clean, rfl⟩
  -- Parsing the key and pairing it with the signature leave the reader where the check saw it.
  have unmoved := (Prod.mk.inj parsed).2
  cases converted
  cases paired
  rw [← unmoved]
  exact clean

/-- With them the gap after the credential is closed. -/
theorem stock_leaves_no_fault {crypto : Crypto} {projection : Projection} {r after : Reader}
    {tx : Transaction}
    (decoded : decodeFrom (Registry.stockTables crypto projection) r = (.ok tx, after)) :
    after.fault = none := by
  rcases clean_or_last_call (stockTraced crypto projection) decoded with
    clean | ⟨credential, -, ⟨call⟩⟩
  · exact clean
  · rcases Registry.find_stock_credential projection call.registered with ⟨scheme, -, same⟩
    have calledDecoded := call.decoded
    rw [same] at calledDecoded
    exact clean_of_decode_stock calledDecoded

/-! ## Careless decoders -/

/-- A credential of one octet that vouches for anything. -/
def oneOctetCredential : Credential where
  typeId := 8
  computeUnits := fun _ => 1
  validRange := fun _ => .always
  verify := fun _ => .ok ()
  actor := Address.zero
  sponsor := Address.zero
  size := 1
  fields := [.byte 1]

/-- A decoder that asks for one octet and never looks at it, or at whether there was one. -/
def carelessDecoder {α : Type} (part : α) : Decode α := do
  let _ ← Decode.read Reader.byte
  return part

def carelessRegistry : Registry where
  actions := { family := .action, decoders := [(9, carelessDecoder (oneOctetAction 1))] }
  credentials := { family := .credential, decoders := [(8, carelessDecoder oneOctetCredential)] }

/-- A table of one decoder that reads one octet. -/
def oneOctetTraced {α : Type} (family : Family) (typeId : UInt8) (part : α) :
    DecoderTable.Traced { family, decoders := [(typeId, carelessDecoder part)] } where
  operations _ _ := [.get .byte]
  performs other decoder registered r := by
    have same : decoder = carelessDecoder part := by
      simp only [DecoderTable.find?, List.lookup_cons, List.lookup_nil] at registered
      split at registered
      · exact (Option.some.inj registered).symm
      · cases registered
    rw [same]
    rfl

def carelessTraced : carelessRegistry.Traced where
  actions := oneOctetTraced .action 9 (oneOctetAction 1)
  credentials := oneOctetTraced .credential 8 oneOctetCredential

def carelessTransaction : Transaction where
  header := ⟨0, Identifier.zero, 0⟩
  actions := [oneOctetAction 1]
  credential := some oneOctetCredential

/-- All octets are read. Without the last one decoding reports the same transaction, with the fault
that its credential latched, and it is refused; cut within the action, it is not even reported. -/
theorem careless_transaction_cut_short :
    let bytes := carelessTransaction.layout
    let cut := Reader.new bytes.dropLast
    (∃ after, ReadsWhole carelessTraced bytes after) ∧
      (∃ after, decodeFrom carelessRegistry cut = (.ok carelessTransaction, after) ∧
        ∃ call : LastCall carelessTraced.credentials (trace carelessTraced) cut
          oneOctetCredential after, call.Latches (.insufficientBytes 1 0)) ∧
      ofBytes carelessRegistry bytes.dropLast = .error (.format (.insufficientBytes 1 0)) ∧
      ofBytes carelessRegistry (bytes.take 50) = .error (.format (.insufficientBytes 1 0)) := by
  rcases careless_decoders_hide_no_fault carelessRegistry carelessTraced with ⟨whole, latched⟩
  refine ⟨?_, ?_, rfl, rfl⟩
  · obtain ⟨after, -, reads⟩ := (whole carelessTransaction.layout carelessTransaction).mp rfl
    exact ⟨after, reads⟩
  · obtain ⟨credential, held, call, -, -, latches⟩ :=
      latched (Reader.new carelessTransaction.layout.dropLast) carelessTransaction _
        (.insufficientBytes 1 0) rfl rfl
    cases held
    exact ⟨_, rfl, call, latches⟩

end SignedTx.Transaction
