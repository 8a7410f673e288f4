import SignedTx.Ledger.Transfer
import SignedTx.Proofs.Ledger.DecoderTable

/-!
# Runs of registrations

A registry is filled by calls for both families in any order. One call is refused and changes nothing,
or its family's table gains its decoder; by induction a run gains, in each family, exactly the decoders
of the calls that succeeded. A family's table comes out as if only its own calls had been made. The
first decoder for an id is the one that stays, whatever is called after it.
-/

set_option autoImplicit false

namespace SignedTx

/-- What the decoders of a family give. -/
def Family.Part : Family → Type
  | .action => Action
  | .credential => Credential

/-- A call that offers a decoder for a type id of a family. -/
structure Registration where
  family : Family
  typeId : UInt8
  decoder : Decode family.Part

namespace Registration

/-- What a call offers to a family's table; nothing if it is for the other family. -/
def entry? (call : Registration) (family : Family) : Option (UInt8 × Decode family.Part) :=
  if same : call.family = family then some (call.typeId, same ▸ call.decoder) else none

def entries (family : Family) (calls : List Registration) : List (UInt8 × Decode family.Part) :=
  calls.filterMap fun call => call.entry? family

/-- The calls for a family. -/
def ofFamily (family : Family) (calls : List Registration) : List Registration :=
  calls.filter fun call => call.family = family

/-- The ids that a family's calls name, in order. -/
def typeIds (family : Family) (calls : List Registration) : List UInt8 :=
  (ofFamily family calls).map typeId

variable {call : Registration} {family : Family}

theorem entry_of_own_family (call : Registration) :
    call.entry? call.family = some (call.typeId, call.decoder) :=
  dif_pos rfl

theorem entries_cons_of_own (call : Registration) (later : List Registration) :
    entries call.family (call :: later) =
      (call.typeId, call.decoder) :: entries call.family later := by
  unfold entries
  apply List.filterMap_cons_some
  exact call.entry_of_own_family

theorem entries_cons_of_other (differs : call.family ≠ family) (later : List Registration) :
    entries family (call :: later) = entries family later := by
  unfold entries
  apply List.filterMap_cons_none
  exact dif_neg differs

theorem of_family_cons_of_own (call : Registration) (later : List Registration) :
    ofFamily call.family (call :: later) = call :: ofFamily call.family later := by
  unfold ofFamily
  apply List.filter_cons_of_pos
  exact decide_eq_true rfl

theorem of_family_cons_of_other (differs : call.family ≠ family) (later : List Registration) :
    ofFamily family (call :: later) = ofFamily family later := by
  unfold ofFamily
  apply List.filter_cons_of_neg
  exact fun same => differs (of_decide_eq_true same)

theorem entries_append (family : Family) (front back : List Registration) :
    entries family (front ++ back) = entries family front ++ entries family back :=
  List.filterMap_append

theorem mem_entries {calls : List Registration} (member : call ∈ calls) :
    (call.typeId, call.decoder) ∈ entries call.family calls :=
  List.mem_filterMap.mpr ⟨call, member, call.entry_of_own_family⟩

theorem ids_of_entries (family : Family) (calls : List Registration) :
    (entries family calls).map Prod.fst = typeIds family calls := by
  unfold typeIds
  induction calls with
  | nil => rfl
  | cons call later induction =>
      by_cases own : call.family = family
      · subst own
        rw [entries_cons_of_own, of_family_cons_of_own, List.map_cons, List.map_cons, induction]
      · rw [entries_cons_of_other own, of_family_cons_of_other own, induction]

end Registration

namespace Registry

open Registration

variable {registry other before middle after : Registry} {call : Registration} {family : Family}

def table (registry : Registry) : (family : Family) → DecoderTable family.Part
  | .action => registry.actions
  | .credential => registry.credentials

def withTable (registry : Registry) : (family : Family) → DecoderTable family.Part → Registry
  | .action, actions => { registry with actions := actions }
  | .credential, credentials => { registry with credentials := credentials }

/-- The outcome of a call, and the registry after it. -/
def register (registry : Registry) (call : Registration) : Except TxError Unit × Registry :=
  match (registry.table call.family).register call.typeId call.decoder with
  | .ok table => (.ok (), registry.withTable call.family table)
  | .error e => (.error e, registry)

/-- The registry after calls, made one after the other. -/
def run (registry : Registry) : List Registration → Registry
  | [] => registry
  | call :: later => (registry.register call).2.run later

/-- Those of the calls that succeed when they are made one after the other. -/
def accepted (registry : Registry) : List Registration → List Registration
  | [] => []
  | call :: later =>
    let (outcome, after) := registry.register call
    if outcome.isOk then call :: after.accepted later else after.accepted later

/-! ## One call -/

theorem table_with_table (registry : Registry) (family : Family)
    (table : DecoderTable family.Part) : (registry.withTable family table).table family = table := by
  cases family <;> rfl

theorem table_with_other_table (registry : Registry) {changed : Family}
    (differs : changed ≠ family) (table : DecoderTable changed.Part) :
    (registry.withTable changed table).table family = registry.table family := by
  cases changed with
  | action =>
      cases family with
      | action => exact absurd rfl differs
      | credential => rfl
  | credential =>
      cases family with
      | action => rfl
      | credential => exact absurd rfl differs

theorem table_register_of_other_family (registry : Registry) (differs : call.family ≠ family) :
    (registry.register call).2.table family = registry.table family := by
  unfold register
  split
  · exact table_with_other_table registry differs _
  · rfl

/-- What a call makes of its family's table depends on that table alone. -/
theorem table_register_congr (same : registry.table call.family = other.table call.family) :
    (registry.register call).2.table call.family = (other.register call).2.table call.family := by
  unfold register
  rw [same]
  split
  · rw [table_with_table, table_with_table]
  · exact same

/-- In each family one registry is ahead of another by the decoders of the calls. -/
def Gains (before after : Registry) (calls : List Registration) : Prop :=
  ∀ family, (before.table family).Gains (after.table family) (entries family calls)

theorem Gains.refl (registry : Registry) : registry.Gains registry [] :=
  fun family => .refl (registry.table family)

theorem Gains.trans {calls later : List Registration} (first : before.Gains middle calls)
    (second : middle.Gains after later) : before.Gains after (calls ++ later) := by
  intro family
  rw [entries_append]
  exact (first family).trans (second family)

/-- All that a call can do. -/
theorem register_cases (registry : Registry) (call : Registration) :
    ((registry.table call.family).supports call.typeId = true ∧ registry.register call =
        (.error (.duplicateTypeId (registry.table call.family).family call.typeId), registry)) ∨
      ∃ after, (registry.table call.family).supports call.typeId = false ∧
        registry.register call = (.ok (), after) ∧ registry.Gains after [call] := by
  rcases (registry.table call.family).register_cases call.typeId call.decoder with
    ⟨taken, refused⟩ | ⟨table, free, stored, gains⟩
  · apply Or.inl
    refine ⟨taken, ?_⟩
    rw [register, refused]
  · apply Or.inr
    refine ⟨registry.withTable call.family table, free, ?_, ?_⟩
    · rw [register, stored]
    · intro family
      by_cases own : call.family = family
      · subst own
        rw [table_with_table, entries_cons_of_own]
        exact gains
      · rw [table_with_other_table registry own, entries_cons_of_other own]
        exact .refl (registry.table family)

/-! ## Runs -/

theorem accepted_of_refused {later : List Registration} {e : TxError}
    (refused : registry.register call = (.error e, after)) :
    registry.accepted (call :: later) = after.accepted later := by
  rw [accepted, refused]
  rfl

theorem accepted_of_stored {later : List Registration}
    (stored : registry.register call = (.ok (), after)) :
    registry.accepted (call :: later) = call :: after.accepted later := by
  rw [accepted, stored]
  rfl

/-- A run gains what its successful calls offer. -/
theorem gains_run (registry : Registry) (calls : List Registration) :
    registry.Gains (registry.run calls) (registry.accepted calls) := by
  induction calls generalizing registry with
  | nil => exact .refl registry
  | cons call later induction =>
      rcases registry.register_cases call with ⟨-, refused⟩ | ⟨after, -, stored, gains⟩
      · rw [run, accepted_of_refused refused, refused]
        exact induction registry
      · rw [run, accepted_of_stored stored, stored]
        exact gains.trans (induction after)

theorem accepted_sublist (registry : Registry) (calls : List Registration) :
    (registry.accepted calls).Sublist calls := by
  induction calls generalizing registry with
  | nil => exact .slnil
  | cons call later induction =>
      rcases registry.register_cases call with ⟨-, refused⟩ | ⟨after, -, stored, -⟩
      · rw [accepted_of_refused refused]
        exact (induction registry).cons call
      · rw [accepted_of_stored stored]
        exact (induction after).cons_cons call

theorem accepted_append (registry : Registry) (front back : List Registration) :
    registry.accepted (front ++ back) =
      registry.accepted front ++ (registry.run front).accepted back := by
  induction front generalizing registry with
  | nil => rfl
  | cons call later induction =>
      rw [List.cons_append]
      rcases registry.register_cases call with ⟨-, refused⟩ | ⟨after, -, stored, -⟩
      · rw [accepted_of_refused refused, accepted_of_refused refused, run, refused]
        exact induction registry
      · rw [accepted_of_stored stored, accepted_of_stored stored, run, stored, List.cons_append]
        exact congrArg (call :: ·) (induction after)

/-- A family's table comes out as if the calls for the other family had not been made: registries that
agree on it go on agreeing, step by step. -/
theorem table_run_of_own_calls (same : registry.table family = other.table family)
    (calls : List Registration) : (registry.run calls).table family =
      (other.run (ofFamily family calls)).table family := by
  induction calls generalizing registry other with
  | nil => exact same
  | cons call later induction =>
      rw [run]
      by_cases own : call.family = family
      · subst own
        rw [of_family_cons_of_own, run]
        exact induction (table_register_congr same)
      · rw [of_family_cons_of_other own]
        apply induction
        rw [table_register_of_other_family registry own, same]

/-! ## Runs from the beginning -/

theorem find_in_empty (family : Family) (typeId : UInt8) :
    (Registry.empty.table family).find? typeId = none := by
  cases family <;> rfl

theorem family_of_run (calls : List Registration) (family : Family) :
    ((Registry.empty.run calls).table family).family = family := by
  rw [(gains_run Registry.empty calls family).family_eq]
  cases family <;> rfl

theorem find_eq_none_iff_not_registered {calls : List Registration} {typeId : UInt8} :
    ((Registry.empty.run calls).table family).find? typeId = none ↔
      typeId ∉ typeIds family (Registry.empty.accepted calls) := by
  rw [(gains_run Registry.empty calls family).find_eq_none_iff, ids_of_entries,
    and_iff_left (find_in_empty family typeId)]

theorem supports_iff_registered {calls : List Registration} {typeId : UInt8} :
    ((Registry.empty.run calls).table family).supports typeId = true ↔
      typeId ∈ typeIds family (Registry.empty.accepted calls) := by
  rw [← Bool.not_eq_false, DecoderTable.supports_eq_false_iff, find_eq_none_iff_not_registered,
    not_not]

/-- The first call for an id finds it free, whatever was called for other ids. -/
theorem accepted_of_first {front back : List Registration}
    (first : call.typeId ∉ typeIds call.family front) :
    call ∈ Registry.empty.accepted (front ++ call :: back) := by
  have fewer : (typeIds call.family (Registry.empty.accepted front)).Sublist
      (typeIds call.family front) :=
    ((accepted_sublist Registry.empty front).filter _).map _
  have unregistered : call.typeId ∉ typeIds call.family (Registry.empty.accepted front) :=
    fun listed => first (fewer.mem listed)
  -- What succeeds after `front` is what succeeds on the registry that `front` leaves.
  rw [accepted_append]
  apply List.mem_append_right
  rcases (Registry.empty.run front).register_cases call with ⟨taken, -⟩ | ⟨after, -, stored, -⟩
  · exact absurd (supports_iff_registered.1 taken) unregistered
  · rw [accepted_of_stored stored]
    exact List.mem_cons_self

/-- The registry after calls on an empty one, for both families in any order. A further call succeeds
exactly if none for its family has registered its id, and is refused as a duplicate and changes
nothing otherwise. In each family the ids that are supported are those registered, each counted once,
and the table is that of a run without the other family's calls. The first call for an id registers
it, the decoder registered for an id is the one that is run, and under an id without one the reader
stays as it is. -/
theorem first_decoders_stay_registered (calls : List Registration) :
    let registry := Registry.empty.run calls
    let registered := Registry.empty.accepted calls
    (∀ call, (registry.register call).1 = .ok () ↔
        call.typeId ∉ typeIds call.family registered) ∧
      (∀ call, call.typeId ∈ typeIds call.family registered →
        registry.register call = (.error (.duplicateTypeId call.family call.typeId), registry)) ∧
      (∀ family, (typeIds family registered).Nodup ∧
        (registry.table family).size = (typeIds family registered).length ∧
        (∀ typeId, (registry.table family).supports typeId = true ↔
          typeId ∈ typeIds family registered) ∧
        registry.table family = (Registry.empty.run (ofFamily family calls)).table family) ∧
      (∀ front call back, calls = front ++ call :: back →
        call.typeId ∉ typeIds call.family front → call ∈ registered) ∧
      (∀ call ∈ registered, (registry.table call.family).decode call.typeId = call.decoder) ∧
      ∀ family typeId, typeId ∉ typeIds family registered → ∀ reader,
        (registry.table family).decode typeId reader =
          (.error (.unknownTypeId family typeId), reader) := by
  intro registry registered
  have gains : Registry.empty.Gains registry registered := gains_run Registry.empty calls
  refine ⟨?_, ?_, ?_, ?_, ?_, ?_⟩
  · intro call
    rw [← supports_iff_registered]
    rcases registry.register_cases call with ⟨taken, refused⟩ | ⟨after, free, stored, -⟩
    · rw [refused]
      exact iff_of_false nofun (not_not_intro taken)
    · rw [stored]
      exact iff_of_true rfl (ne_true_of_eq_false free)
  · intro call listed
    rcases registry.register_cases call with ⟨-, refused⟩ | ⟨after, free, -, -⟩
    · rw [refused, family_of_run]
    · exact absurd (supports_iff_registered.2 listed) (ne_true_of_eq_false free)
  · intro family
    rw [← ids_of_entries, List.length_map]
    refine ⟨(gains family).distinct, ?_, ?_, table_run_of_own_calls rfl calls⟩
    · rw [(gains family).size_eq]
      cases family <;> exact Nat.zero_add _
    · intro typeId
      rw [ids_of_entries]
      exact supports_iff_registered
  · intro front call back parted first
    subst parted
    exact accepted_of_first first
  · intro call member
    apply DecoderTable.decode_of_found
    exact (gains call.family).find_added (mem_entries member)
  · intro family typeId unregistered reader
    have missing := find_eq_none_iff_not_registered.2 unregistered
    rw [DecoderTable.decode_of_missing missing, family_of_run]

/-! ## A run that names an id in both families -/

def transferUnder (typeId : UInt8) : Registration where
  family := .action
  typeId := typeId
  decoder := do return (← Transfer.decode).toAction

def refusalUnder (family : Family) (typeId : UInt8) (e : TxError) : Registration where
  family := family
  typeId := typeId
  decoder := Decode.fail e

/-- The third call comes too late: the second has taken its id. -/
def mixedCalls : List Registration :=
  [refusalUnder .credential 7 .invalidSignature, transferUnder 7,
    refusalUnder .action 7 .missingCredential, refusalUnder .credential 0 .missingCredential]

/-- Under the id 7 either family keeps its own first decoder, and no action has the id 0 that a
credential has. -/
theorem mixed_calls_keep_a_decoder_in_each_family :
    let registry := Registry.empty.run mixedCalls
    (registry.register (refusalUnder .action 0 .invalidSignature)).1 = .ok () ∧
      registry.register (refusalUnder .action 7 .invalidSignature) =
        (.error (.duplicateTypeId .action 7), registry) ∧
      registry.actions.size = 1 ∧ registry.credentials.size = 2 ∧
      registry.actions.decode 7 = (transferUnder 7).decoder ∧
      registry.credentials.decode 7 = Decode.fail .invalidSignature ∧
      ∀ reader, registry.actions.decode 0 reader = (.error (.unknownTypeId .action 0), reader) := by
  intro registry
  obtain ⟨succeeds, refused, counts, first, runs, unknown⟩ :=
    first_decoders_stay_registered mixedCalls
  have transfers : transferUnder 7 ∈ Registry.empty.accepted mixedCalls :=
    first [refusalUnder .credential 7 .invalidSignature] (transferUnder 7)
      [refusalUnder .action 7 .missingCredential, refusalUnder .credential 0 .missingCredential]
      rfl (by decide)
  have refusals : refusalUnder .credential 7 .invalidSignature ∈
      Registry.empty.accepted mixedCalls :=
    first [] (refusalUnder .credential 7 .invalidSignature) _ rfl (by decide)
  exact ⟨(succeeds _).mpr (by decide), refused _ (by decide), (counts .action).2.1,
    (counts .credential).2.1, runs _ transfers, runs _ refusals, unknown .action 0 (by decide)⟩

end Registry
end SignedTx
