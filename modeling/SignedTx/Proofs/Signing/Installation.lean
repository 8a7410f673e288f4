import SignedTx.Crypto.Secp256k1
import SignedTx.Proofs.Ledger.DecoderTable
import SignedTx.Proofs.Signing.Stock

/-!
# Installing the stock schemes

The raw scheme is registered before the typed one, and the first refusal ends the call. Either
registration is all or nothing, but the call is not: nothing takes a decoder out of a table, so the raw
scheme stays if the typed one is then refused. Which of the two ids were taken tells the outcome and
what is left behind; only where the second alone was taken does a refused call leave anything.
-/

set_option autoImplicit false

namespace SignedTx.Registry

variable {crypto : Crypto} {projection : Projection} {registry : Registry}

/-- One registry is ahead of another by decoders of credentials, and by nothing else. -/
structure GainsCredentials (before after : Registry)
    (added : List (UInt8 × Decode Credential)) : Prop where
  actions_eq : after.actions = before.actions
  credentials : before.credentials.Gains after.credentials added

/-! ## The two registrations -/

/-- The two registrations under their ids, each with what is done if it is refused. -/
theorem add_stock_schemes_eq (crypto : Crypto) (projection : Projection) (registry : Registry) :
    registry.addStockSchemes crypto projection =
      (match registry.credentials.register 3 (decodeStock projection crypto .raw) with
      | .error e => (.error e, registry)
      | .ok first =>
        match first.register 4 (decodeStock projection crypto .typed) with
        | .error e => (.error e, { registry with credentials := first })
        | .ok both => (.ok (), { registry with credentials := both }) :
        Except TxError Unit × Registry) :=
  rfl

theorem supports_second_after_first {first : DecoderTable Credential}
    (gains : registry.credentials.Gains first [(3, decodeStock projection crypto .raw)]) :
    first.supports 4 = registry.credentials.supports 4 := by
  have apart : (4 : UInt8) ≠ 3 := by decide
  apply gains.supports_of_absent
  intro listed
  exact apart (List.mem_singleton.mp listed)

/-- With both ids free the call succeeds and adds the two schemes under 3 and 4 and nothing else. With
3 taken it is refused for 3 and the registry is the one before, decoders and sizes included. With 4
taken alone it is refused for 4, and the registry is ahead by the raw scheme under 3 and nothing
else. -/
theorem schemes_are_installed_in_order (crypto : Crypto) (projection : Projection)
    (registry : Registry) :
    let table := registry.credentials
    let call := registry.addStockSchemes crypto projection
    (table.supports 3 = false ∧ table.supports 4 = false ∧ call.1 = .ok () ∧
        registry.GainsCredentials call.2
          [(3, decodeStock projection crypto .raw), (4, decodeStock projection crypto .typed)]) ∨
      (table.supports 3 = true ∧ call.1 = .error (.duplicateTypeId table.family 3) ∧
        call.2 = registry) ∨
      (table.supports 3 = false ∧ table.supports 4 = true ∧
        call.1 = .error (.duplicateTypeId table.family 4) ∧
        registry.GainsCredentials call.2 [(3, decodeStock projection crypto .raw)]) := by
  intro table call
  have steps : call = _ := add_stock_schemes_eq crypto projection registry
  rcases registry.credentials.register_cases 3 (decodeStock projection crypto .raw) with
    ⟨taken, refused⟩ | ⟨first, free, stored, raw⟩
  · apply Or.inr
    apply Or.inl
    rw [refused] at steps
    rw [steps]
    exact ⟨taken, rfl, rfl⟩
  · -- Whether the second call is refused is seen from the registry before both.
    have second : first.supports 4 = table.supports 4 := supports_second_after_first raw
    rw [stored] at steps
    rcases first.register_cases 4 (decodeStock projection crypto .typed) with
      ⟨taken, refused⟩ | ⟨both, bothFree, bothStored, typed⟩
    · apply Or.inr
      apply Or.inr
      simp only [refused, raw.family_eq] at steps
      rw [steps]
      exact ⟨free, second.symm.trans taken, rfl, rfl, raw⟩
    · apply Or.inl
      simp only [bothStored] at steps
      rw [steps]
      exact ⟨free, second.symm.trans bothFree, rfl, rfl, raw.trans typed⟩

/-! ## A registry with the second id taken -/

def secondIdTaken : Registry :=
  { Registry.empty with
    credentials := { family := .credential, decoders := [(4, Decode.fail .missingCredential)] } }

/-- The call is refused, and yet the registry afterwards knows an id that it did not know before. -/
theorem refused_installation_leaves_the_first_scheme :
    let call := secondIdTaken.addStockSchemes Crypto.standard {}
    call.1 = .error (.duplicateTypeId .credential 4) ∧
      secondIdTaken.credentials.supports 3 = false ∧ call.2.credentials.supports 3 = true ∧
      secondIdTaken.credentials.size = 1 ∧ call.2.credentials.size = 2 ∧
      call.2 ≠ secondIdTaken := by
  intro call
  have unknown : secondIdTaken.credentials.supports 3 = false := rfl
  have known : call.2.credentials.supports 3 = true := rfl
  refine ⟨rfl, unknown, known, rfl, rfl, ?_⟩
  intro same
  rw [same, unknown] at known
  cases known

end SignedTx.Registry
