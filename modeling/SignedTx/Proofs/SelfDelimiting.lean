import SignedTx.Proofs.Crypto.Secp256k1
import SignedTx.Proofs.Ledger.Truncation
import SignedTx.Proofs.Signing.Stock

/-!
# Wire forms delimit themselves

A wire form has no length in front of it, yet where it ends is known: whatever follows it, the same
transaction is read and the reader stands at its end, and no strict front of it is accepted. So
wire forms that are sent one after the other are read back one after the other. This is about the
stock registry; a registry whose decoders ignore an underrun need not have it.
-/

set_option autoImplicit false

namespace SignedTx

open Wire Decode
open Wire.Reader (RunsShort runs_short_of_take)

variable {crypto : Crypto}

/-! ## Stock transactions cut short -/

theorem SignedBy.refuses_fronts {length : Nat} (key : Octets length) (signature : Signature) :
    (SignedBy.decode crypto length).RefusesFronts (key.toList ++ signature.toList) := by
  have keyOctets : RunsShort (fun r => r.octets length) length := runs_short_of_take fun _ => rfl
  have signatureOctets : RunsShort (fun r => r.octets 65) 65 := runs_short_of_take fun _ => rfl
  apply refuses_fronts_read keyOctets key.length_toList (accepts_octets key)
  · intro _
    exact surfaces_read signatureOctets fun _ => surfaces_check
  rw [← List.append_nil signature.toList]
  apply refuses_fronts_read signatureOctets signature.length_toList (accepts_octets signature)
  · intro _
    exact surfaces_check
  exact refuses_fronts_nil

theorem StockScheme.refuses_fronts (projection : Projection) (scheme : StockScheme)
    (signed : SignedBy crypto) : (SignedBy.decode crypto scheme.keyLength).RefusesFronts
      (scheme.credential projection signed).payload := by
  obtain ⟨key, stored⟩ := scheme.exists_key_octets signed.signer
  rw [payload_eq, ← stored]
  exact SignedBy.refuses_fronts key signed.signature

namespace Registry

variable {projection : Projection} {tx : Transaction}

theorem IsStockTransaction.decode_refuses_fronts
    (stock : IsStockTransaction projection crypto tx) :
    (Transaction.decodeFrom (stockTables crypto projection)).RefusesFronts tx.layout := by
  apply Transaction.decode_from_refuses_fronts stock.count fun _ => stock.decodes_action
  · intro action member
    rcases stock.transfers action member with ⟨transfer, rfl⟩
    apply Transaction.decode_tagged_refuses_fronts rfl
    exact refuses_fronts_bind_pure transfer.refuses_fronts
  · intro credential member
    rcases stock.credential credential member with ⟨scheme, signed, rfl, -⟩
    rw [Credential.wire, scheme.type_id_eq]
    apply Transaction.decode_tagged_refuses_fronts (find_stock_scheme projection scheme)
    exact refuses_fronts_bind_pure (scheme.refuses_fronts projection signed)

end Registry

/-! ## Transactions one after the other -/

namespace Transaction

theorem layout_ne_nil (tx : Transaction) : tx.layout ≠ [] := by
  simp [layout, Draft.layout]

/-- Transactions that are read from octets one after the other, each with the place after it. -/
def placed (start : Nat) : List (List UInt8 × Transaction) → List (Except TxError Transaction × Nat)
  | [] => []
  | (bytes, tx) :: rest => (.ok tx, start + bytes.length) :: placed (start + bytes.length) rest

/-- The induction is on the parts; each of them takes up some octets, so the fuel lasts. -/
theorem decode_many_eq_placed {registry : Registry} (parts : List (List UInt8 × Transaction))
    (accepts : ∀ part ∈ parts, (decodeFrom registry).Accepts part.1 (· = part.2))
    (some_octets : ∀ part ∈ parts, part.1 ≠ []) {fuel : Nat} {r after : Reader}
    (enough : (parts.flatMap Prod.fst).length ≤ fuel)
    (consumed : r.Consumes (parts.flatMap Prod.fst) after) (finished : after.rest = []) :
    decodeMany registry fuel r = ⟨placed r.offset parts, after⟩ := by
  induction parts generalizing fuel r with
  | nil =>
      rcases Reader.consumes_nil_iff.1 consumed with ⟨-, rfl⟩
      cases fuel <;> simp [decodeMany, finished, placed]
  | cons part parts induction =>
      obtain ⟨bytes, tx⟩ := part
      rw [List.flatMap_cons] at enough consumed
      rcases Reader.consumes_append_iff.1 consumed with ⟨middle, first, later⟩
      rcases accepts (bytes, tx) (by simp) r middle first with ⟨found, decoded, same⟩
      subst same
      have positive := List.length_pos_iff.mpr (some_octets (bytes, found) (by simp))
      have unread : r.rest.isEmpty = false := by
        rw [first.rest_eq]
        simpa using fun empty => absurd empty (some_octets (bytes, found) (by simp))
      rw [List.length_append] at enough
      obtain ⟨fuel, rfl⟩ : ∃ n, fuel = n + 1 := ⟨fuel - 1, by omega⟩
      have fits : (parts.flatMap Prod.fst).length ≤ fuel := by omega
      have rest := induction (fun part member => accepts part (by simp [member]))
        (fun part member => some_octets part (by simp [member])) fits later
      rw [first.offset_eq] at rest
      simp only [decodeMany, unread, decoded, rest, placed, first.offset_eq]
      rfl

/-- Accepted wire forms in a row are read back with nothing left over. -/
theorem stream_of_eq_placed {registry : Registry} (parts : List (List UInt8 × Transaction))
    (accepts : ∀ part ∈ parts, (decodeFrom registry).Accepts part.1 (· = part.2))
    (some_octets : ∀ part ∈ parts, part.1 ≠ []) :
    streamOf registry (parts.flatMap Prod.fst) =
      ⟨placed 0 parts, [], (parts.flatMap Prod.fst).length, none⟩ := by
  have consumed := Reader.consumes_new (parts.flatMap Prod.fst) []
  rw [List.append_nil] at consumed
  exact decode_many_eq_placed parts accepts some_octets (Nat.le_refl _) consumed rfl

end Transaction

/-- For the stock registry: a transaction is read whatever follows its octets, up to their end; no
strict front of them is read, for want of octets; and any number of accepted wire forms in a row are
read as just those transactions, with nothing left over. -/
theorem wire_form_is_self_delimiting (crypto : Crypto) (projection : Projection)
    (registry : Registry) (built : Registry.stock crypto projection = .ok registry) :
    (∀ bytes tx, Transaction.ofBytes registry bytes = .ok tx →
      (∀ suffix, Transaction.decodeFrom registry (Reader.new (bytes ++ suffix)) =
        (.ok tx, ⟨suffix, bytes.length, none⟩)) ∧
      ∀ front, front <+: bytes → front ≠ bytes → ∃ needed remaining,
        (Transaction.decodeFrom registry (Reader.new front)).1 =
            .error (.format (.insufficientBytes needed remaining)) ∧
          Transaction.ofBytes registry front =
            .error (.format (.insufficientBytes needed remaining))) ∧
    ∀ parts : List (List UInt8 × Transaction),
      (∀ part ∈ parts, Transaction.ofBytes registry part.1 = .ok part.2) →
      (Transaction.streamOf registry (parts.flatMap Prod.fst)).results =
          Transaction.placed 0 parts ∧
        (Transaction.streamOf registry (parts.flatMap Prod.fst)).reader.finish = .ok () := by
  cases (Registry.stock_eq_tables crypto projection).symm.trans built
  constructor
  · intro bytes tx decoded
    rcases (Registry.of_bytes_stock_eq_ok_iff projection).mp decoded with ⟨rfl, stock⟩
    constructor
    · intro suffix
      have consumed := Reader.consumes_new tx.layout suffix
      rcases stock.decode_accepts _ _ consumed with ⟨found, read, same⟩
      rw [read, same]
    · intro front isFront strict
      exact Transaction.of_bytes_of_strict_front stock.decode_refuses_fronts isFront strict
  · intro parts decoded
    have stock : ∀ part ∈ parts, part.1 = part.2.layout ∧
        Registry.IsStockTransaction projection crypto part.2 := by
      intro part member
      exact (Registry.of_bytes_stock_eq_ok_iff projection).mp (decoded part member)
    have read := Transaction.stream_of_eq_placed parts
      (fun part member => (stock part member).1 ▸ (stock part member).2.decode_accepts)
      (fun part member => (stock part member).1 ▸ part.2.layout_ne_nil)
    rw [read]
    exact ⟨rfl, rfl⟩

/-! ## Two wire forms in a row -/

def twoTransfers : Draft where
  header := ⟨1700000000000, ⟨Octets.ofNat 32 5⟩, 10⟩
  actions := [Transfer.toAction ⟨⟨Octets.zero 33⟩, 7⟩, Transfer.toAction ⟨⟨Octets.ofNat 33 1⟩, 0⟩]

/-- Without a credential, or with the generator's key and a signature that need not count. -/
def sentTransfers (signed : Bool) : Transaction where
  toDraft := twoTransfers
  credential := if signed then
    some (@RawScheme.credential Crypto.standard
      ⟨Secp256k1.PublicKey.ofGenerator, Octets.ofNat 65 9⟩)
  else none

theorem of_bytes_sent_transfers (signed : Bool) :
    Transaction.ofBytes (Registry.stockTables Crypto.standard {}) (sentTransfers signed).layout =
      .ok (sentTransfers signed) := by
  apply (Registry.of_bytes_stock_eq_ok_iff {}).mpr
  refine ⟨rfl, by decide +revert, ?_, ?_⟩
  · intro action member
    change action ∈ twoTransfers.actions at member
    simp only [twoTransfers, List.mem_cons, List.not_mem_nil, or_false] at member
    rcases member with rfl | rfl <;> exact ⟨_, rfl⟩
  · intro credential member
    cases signed with
    | false => cases member
    | true =>
        cases member
        exact ⟨.raw, _, rfl,
          StockScheme.raw.parse_key_of_stored Secp256k1.PublicKey.ofGenerator.parse_uncompressed⟩

def sentParts : List (List UInt8 × Transaction) :=
  [false, true].map fun signed => ((sentTransfers signed).layout, sentTransfers signed)

/-- Both are read from one string of octets, and a front that ends inside the key is refused. -/
theorem transfers_are_read_in_a_row :
    (Transaction.streamOf (Registry.stockTables Crypto.standard {})
        (sentParts.flatMap Prod.fst)).results =
      [(.ok (sentTransfers false), 134), (.ok (sentTransfers true), 399)] ∧
    (Transaction.streamOf (Registry.stockTables Crypto.standard {})
        (sentParts.flatMap Prod.fst)).reader.finish = .ok () ∧
    ∃ needed remaining, Transaction.ofBytes (Registry.stockTables Crypto.standard {})
        ((sentTransfers true).layout.take 180) =
      .error (.format (.insufficientBytes needed remaining)) := by
  rcases wire_form_is_self_delimiting Crypto.standard {} _
    (Registry.stock_eq_tables Crypto.standard {}) with ⟨single, inRow⟩
  have lengths : (sentTransfers false).layout.length = 134 ∧
      (sentTransfers true).layout.length = 265 := by
    decide +kernel
  have decoded : ∀ part ∈ sentParts, Transaction.ofBytes
      (Registry.stockTables Crypto.standard {}) part.1 = .ok part.2 := by
    intro part member
    rcases List.mem_map.mp member with ⟨signed, -, rfl⟩
    exact of_bytes_sent_transfers signed
  refine ⟨?_, (inRow sentParts decoded).2, ?_⟩
  · rw [(inRow sentParts decoded).1]
    simp only [sentParts, List.map_cons, List.map_nil, Transaction.placed, lengths]
  · have cut : (sentTransfers true).layout.take 180 ≠ (sentTransfers true).layout := by
      intro whole
      have shorter := congrArg List.length whole
      rw [List.length_take, lengths.2] at shorter
      cases shorter
    obtain ⟨needed, remaining, -, refused⟩ :=
      (single _ _ (of_bytes_sent_transfers true)).2 _ (List.take_prefix 180 _) cut
    exact ⟨needed, remaining, refused⟩

end SignedTx
