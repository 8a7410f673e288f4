import Mathlib.Data.List.Nodup
import SignedTx.Ledger.Registry

/-!
# What a table gains

A registration is refused for an id that is taken and says so; for a free id it adds one decoder and
changes nothing else. `Gains` names the decoders by which one table is ahead of another, in the order
in which they came: all of them for ids that were free, no id twice. What is gained in two steps is
gained in one, so a run of registrations is described like a single one.
-/

set_option autoImplicit false

namespace SignedTx.DecoderTable

variable {α : Type}

/-- Two look-ups of which one fails may be tried in either order. -/
theorem or_left_comm_of_none {β : Type} {first second : Option β}
    (apart : first = none ∨ second = none) (last : Option β) :
    first.or (second.or last) = second.or (first.or last) := by
  rcases apart with missing | missing
  · rw [missing, Option.none_or, Option.none_or]
  · rw [missing, Option.none_or, Option.none_or]

theorem lookup_singleton_of_ne {typeId other : UInt8} (differs : other ≠ typeId)
    (decoder : Decode α) : [(typeId, decoder)].lookup other = none := by
  have unequal : (other == typeId) = false := beq_eq_false_iff_ne.mpr differs
  rw [List.lookup_cons, unequal]
  rfl

theorem lookup_eq_none_iff_not_mem {decoders : List (UInt8 × Decode α)} {typeId : UInt8} :
    decoders.lookup typeId = none ↔ typeId ∉ decoders.map Prod.fst := by
  rw [List.lookup_eq_none_iff, List.mem_map]
  constructor
  · intro absent listed
    obtain ⟨entry, member, same⟩ := listed
    exact bne_iff_ne.mp (absent entry member) same.symm
  · intro absent entry member
    apply bne_iff_ne.mpr
    intro same
    exact absent ⟨entry, member, same.symm⟩

/-- No id being listed twice, what is listed is found. -/
theorem lookup_of_mem {decoders : List (UInt8 × Decode α)} {typeId : UInt8} {decoder : Decode α}
    (distinct : (decoders.map Prod.fst).Nodup) (member : (typeId, decoder) ∈ decoders) :
    decoders.lookup typeId = some decoder := by
  obtain ⟨front, back, rfl⟩ := List.append_of_mem member
  rw [List.map_append, List.map_cons, List.nodup_middle, List.nodup_cons, List.mem_append,
    not_or] at distinct
  rw [List.lookup_append, lookup_eq_none_iff_not_mem.2 distinct.1.1, Option.none_or,
    List.lookup_cons_self]

/-! ## The place of an id -/

theorem length_insert (typeId : UInt8) (decoder : Decode α) (decoders : List (UInt8 × Decode α)) :
    (insert typeId decoder decoders).length = decoders.length + 1 := by
  induction decoders with
  | nil => rfl
  | cons entry rest induction =>
      rw [insert]
      split
      · rfl
      · rw [List.length_cons, induction, List.length_cons]

/-- A free id finds its decoder wherever it was put, and the others find what they found. -/
theorem lookup_insert {typeId : UInt8} {decoders : List (UInt8 × Decode α)}
    (free : decoders.lookup typeId = none) (decoder : Decode α) (other : UInt8) :
    (insert typeId decoder decoders).lookup other =
      ([(typeId, decoder)].lookup other).or (decoders.lookup other) := by
  induction decoders with
  | nil => exact (Option.or_none).symm
  | cons entry rest induction =>
      rw [← List.singleton_append, List.lookup_append, Option.or_eq_none_iff] at free
      rw [insert]
      split
      · rw [← List.singleton_append, List.lookup_append]
      · -- The new entry lies behind this one: the two look-ups change places.
        have apart : [(entry.1, entry.2)].lookup other = none ∨
            [(typeId, decoder)].lookup other = none := by
          by_cases same : other = typeId
          · subst same
            exact .inl free.1
          · exact .inr (lookup_singleton_of_ne same decoder)
        rw [← List.singleton_append, List.lookup_append, induction free.2,
          or_left_comm_of_none apart, ← List.lookup_append, List.singleton_append]

/-! ## Gains -/

/-- One table is ahead of another by some decoders, for ids that were free, and by nothing else. -/
structure Gains (before after : DecoderTable α) (added : List (UInt8 × Decode α)) : Prop where
  family_eq : after.family = before.family
  size_eq : after.size = before.size + added.length
  distinct : (added.map Prod.fst).Nodup
  free : ∀ typeId ∈ added.map Prod.fst, before.find? typeId = none
  find_eq : ∀ typeId, after.find? typeId = (added.lookup typeId).or (before.find? typeId)

namespace Gains

variable {before middle after : DecoderTable α} {added later : List (UInt8 × Decode α)}
  {typeId : UInt8} {decoder : Decode α}

theorem refl (table : DecoderTable α) : table.Gains table [] where
  family_eq := rfl
  size_eq := rfl
  distinct := List.nodup_nil
  free := nofun
  find_eq _ := rfl

/-- An id that is not among those added is known exactly if it was. -/
theorem supports_of_absent (gains : before.Gains after added)
    (absent : typeId ∉ added.map Prod.fst) : after.supports typeId = before.supports typeId := by
  rw [supports, supports, gains.find_eq, lookup_eq_none_iff_not_mem.2 absent, Option.none_or]

theorem find_added (gains : before.Gains after added) (member : (typeId, decoder) ∈ added) :
    after.find? typeId = some decoder := by
  rw [gains.find_eq, lookup_of_mem gains.distinct member, Option.some_or]

theorem find_eq_none_iff (gains : before.Gains after added) :
    after.find? typeId = none ↔ typeId ∉ added.map Prod.fst ∧ before.find? typeId = none := by
  rw [gains.find_eq, Option.or_eq_none_iff, lookup_eq_none_iff_not_mem]

theorem trans (first : before.Gains middle added) (second : middle.Gains after later) :
    before.Gains after (added ++ later) where
  family_eq := second.family_eq.trans first.family_eq
  size_eq := by
    rw [second.size_eq, first.size_eq, List.length_append, Nat.add_assoc]
  distinct := by
    rw [List.map_append]
    apply first.distinct.append second.distinct
    intro typeId early late
    exact (first.find_eq_none_iff.mp (second.free typeId late)).1 early
  free := by
    intro typeId listed
    rw [List.map_append, List.mem_append] at listed
    rcases listed with early | late
    · exact first.free typeId early
    · exact (first.find_eq_none_iff.mp (second.free typeId late)).2
  find_eq := by
    intro typeId
    -- What is gained first is looked up first; no id is gained twice.
    have apart : later.lookup typeId = none ∨ added.lookup typeId = none := by
      by_cases late : typeId ∈ later.map Prod.fst
      · apply Or.inr
        apply lookup_eq_none_iff_not_mem.2
        exact (first.find_eq_none_iff.mp (second.free typeId late)).1
      · exact .inl (lookup_eq_none_iff_not_mem.2 late)
    rw [second.find_eq, first.find_eq, or_left_comm_of_none apart, List.lookup_append,
      Option.or_assoc]

end Gains

/-! ## Registrations and look-ups -/

theorem supports_eq_false_iff {table : DecoderTable α} {typeId : UInt8} :
    table.supports typeId = false ↔ table.find? typeId = none := by
  rw [supports, Option.isSome_eq_false_iff, Option.isNone_iff_eq_none]

/-- All that a registration can do. -/
theorem register_cases (table : DecoderTable α) (typeId : UInt8) (decoder : Decode α) :
    (table.supports typeId = true ∧
        table.register typeId decoder = .error (.duplicateTypeId table.family typeId)) ∨
      ∃ after, table.supports typeId = false ∧ table.register typeId decoder = .ok after ∧
        table.Gains after [(typeId, decoder)] := by
  cases taken : table.supports typeId with
  | true =>
      apply Or.inl
      refine ⟨rfl, ?_⟩
      rw [register, if_pos taken]
  | false =>
      have free := supports_eq_false_iff.1 taken
      apply Or.inr
      refine ⟨_, rfl, if_neg (ne_true_of_eq_false taken), ?_⟩
      constructor
      · rfl
      · exact length_insert typeId decoder table.decoders
      · exact List.nodup_singleton typeId
      · intro other listed
        rw [List.mem_singleton.mp listed]
        exact free
      · exact lookup_insert free decoder

theorem decode_of_found {table : DecoderTable α} {typeId : UInt8} {decoder : Decode α}
    (found : table.find? typeId = some decoder) : table.decode typeId = decoder := by
  rw [decode, found]

/-- An unknown id is refused before anything is read. -/
theorem decode_of_missing {table : DecoderTable α} {typeId : UInt8}
    (missing : table.find? typeId = none) (reader : Wire.Reader) :
    table.decode typeId reader = (.error (.unknownTypeId table.family typeId), reader) := by
  rw [decode, missing]
  rfl

end SignedTx.DecoderTable
