import Mathlib.Logic.Relation
import SignedTx.Proofs.TypedData.TypeString

/-!
# The structs that a struct reaches

A struct mentions the structs that are the bases of its field types, and reaches what can be come to
by mentions, itself included. The walk over a schema finds exactly the structs reached, each once,
on cyclic schemas too: whatever it has entered has all its fields looked at, or they are still
pending. It fails only at a field whose base is neither declared nor primitive, in a struct reached.
-/

set_option autoImplicit false

namespace SignedTx.TypedData.Schema

variable {schema : Schema}

def HasField (schema : Schema) (name : String) (field : Field) : Prop :=
  ∃ fields, schema.fields? name = some fields ∧ field ∈ fields

/-- The base of one of the struct's field types is the other struct. -/
def Mentions (schema : Schema) (name other : String) : Prop :=
  schema.declares other = true ∧ ∃ field, schema.HasField name field ∧ baseName field.type = other

def Reaches (schema : Schema) : String → String → Prop := Relation.ReflTransGen schema.Mentions

/-- The base of a type is a declared struct or a primitive type. -/
def Knows (schema : Schema) (base : String) : Prop :=
  schema.declares base = true ∨ (Primitive.ofName? base).isSome = true

/-- The struct is declared, and so is or else is primitive the base of every field type that stands
in a struct it reaches. -/
structure Resolves (schema : Schema) (primary : String) : Prop where
  declared : schema.declares primary = true
  known : ∀ name field, schema.Reaches primary name → schema.HasField name field →
    schema.Knows (baseName field.type)

theorem declares_of_fields {name : String} {fields : List Field}
    (found : schema.fields? name = some fields) : schema.declares name = true := by
  rw [declares, found]
  rfl

theorem fields_of_declares {name : String} (declared : schema.declares name = true) :
    ∃ fields, schema.fields? name = some fields :=
  Option.isSome_iff_exists.mp declared

theorem declares_of_reaches {name other : String} (declared : schema.declares name = true)
    (reaches : schema.Reaches name other) : schema.declares other = true := by
  cases reaches with
  | refl => exact declared
  | tail _ last => exact last.1

/-- A schema all of whose fields have known bases lets every declared struct resolve. -/
theorem resolves_of_known {primary : String} (declared : schema.declares primary = true)
    (known : ∀ name field, schema.HasField name field → schema.Knows (baseName field.type)) :
    schema.Resolves primary :=
  ⟨declared, fun name field _ hasField => known name field hasField⟩

/-! ## One walk -/

/-- The field's base is known, and if it is a struct it is among the names. -/
structure Covers (schema : Schema) (names : List String) (field : Field) : Prop where
  known : schema.Knows (baseName field.type)
  listed : schema.declares (baseName field.type) = true → baseName field.type ∈ names

/-- What a walk from the structs seen over the pending fields has reached. -/
structure Walked (schema : Schema) (seen : List String) (pending : List Field)
    (reached : List String) : Prop where
  keeps : ∀ name ∈ seen, name ∈ reached
  sound : ∀ name ∈ reached, name ∈ seen ∨ ∃ field ∈ pending,
    schema.declares (baseName field.type) = true ∧ schema.Reaches (baseName field.type) name
  covers : ∀ field ∈ pending, schema.Covers reached field
  closed : ∀ name ∈ reached, name ∈ seen ∨
    ∀ field, schema.HasField name field → schema.Covers reached field
  nodup : seen.Nodup → reached.Nodup

theorem Walked.nil (seen : List String) : schema.Walked seen [] seen where
  keeps _ listed := listed
  sound _ listed := .inl listed
  covers _ listed := nomatch listed
  closed _ listed := .inl listed
  nodup distinct := distinct

/-- A field that adds nothing to what is reached without it. -/
theorem Walked.skip {seen reached : List String} {field : Field} {rest : List Field}
    (walked : schema.Walked seen rest reached) (covered : schema.Covers reached field) :
    schema.Walked seen (field :: rest) reached where
  keeps := walked.keeps
  sound name listed := by
    rcases walked.sound name listed with early | ⟨first, member, found⟩
    · exact .inl early
    · exact .inr ⟨first, List.mem_cons_of_mem _ member, found⟩
  covers other member := by
    rcases List.mem_cons.mp member with rfl | later
    · exact covered
    · exact walked.covers other later
  closed := walked.closed
  nodup := walked.nodup

theorem mentions_of_field {name : String} {field : Field} {fields : List Field}
    (found : schema.fields? name = some fields) (member : field ∈ fields)
    (declared : schema.declares (baseName field.type) = true) :
    schema.Mentions name (baseName field.type) :=
  ⟨declared, field, ⟨fields, found, member⟩, rfl⟩

/-- A struct that is entered: its own fields become pending, and it counts as seen. -/
theorem Walked.enter {seen reached : List String} {field : Field} {fields rest : List Field}
    (found : schema.fields? (baseName field.type) = some fields)
    (fresh : baseName field.type ∉ seen)
    (walked : schema.Walked (baseName field.type :: seen) (fields ++ rest) reached) :
    schema.Walked seen (field :: rest) reached where
  keeps name listed := walked.keeps name (List.mem_cons_of_mem _ listed)
  sound name listed := by
    have declared := declares_of_fields found
    rcases walked.sound name listed with early | ⟨first, member, known, reaches⟩
    · rcases List.mem_cons.mp early with rfl | old
      · exact .inr ⟨field, List.mem_cons_self, declared, .refl⟩
      · exact .inl old
    · rcases List.mem_append.mp member with inner | later
      · exact .inr ⟨field, List.mem_cons_self, declared,
          .head (mentions_of_field found inner known) reaches⟩
      · exact .inr ⟨first, List.mem_cons_of_mem _ later, known, reaches⟩
  covers other member := by
    rcases List.mem_cons.mp member with rfl | later
    · exact ⟨.inl (declares_of_fields found), fun _ => walked.keeps _ List.mem_cons_self⟩
    · exact walked.covers other (List.mem_append_right fields later)
  closed name listed := by
    rcases walked.closed name listed with early | covered
    · rcases List.mem_cons.mp early with rfl | old
      · right
        intro inner hasField
        obtain ⟨others, otherFound, member⟩ := hasField
        cases found.symm.trans otherFound
        exact walked.covers inner (List.mem_append_left rest member)
      · exact .inl old
    · exact .inr covered
  nodup distinct := walked.nodup (List.nodup_cons.mpr ⟨fresh, distinct⟩)

/-- The induction is along the walk: a field is skipped, or its struct is entered. -/
theorem walked_of_reach {seen reached : List String} {pending : List Field}
    (found : schema.reach seen pending = .ok reached) : schema.Walked seen pending reached := by
  induction seen, pending using reach.induct schema with
  | case1 seen =>
      rw [reach] at found
      cases found
      exact .nil _
  | case2 seen field rest base fields declared known induction =>
      rw [reach_of_seen declared known] at found
      have walked := induction found
      have listed : base ∈ seen := List.contains_iff_mem.mp known
      exact walked.skip ⟨.inl (declares_of_fields declared), fun _ => walked.keeps _ listed⟩
  | case3 seen field rest base fields declared fresh induction =>
      have absent : seen.contains base = false := (Bool.not_eq_true _).mp fresh
      rw [reach_of_fresh declared absent] at found
      refine .enter declared ?_ (induction found)
      intro listed
      exact fresh (List.contains_iff_mem.mpr listed)
  | case4 seen field rest base undeclared named induction =>
      rw [reach_of_primitive ⟨undeclared, named⟩] at found
      refine (induction found).skip ⟨.inr named, ?_⟩
      intro declared
      rw [declares, undeclared] at declared
      cases declared
  | case5 seen field rest base undeclared unnamed =>
      rw [reach_of_unknown undeclared unnamed] at found
      cases found

/-! ## A walk that fails -/

/-- The field is pending or stands in a struct that a pending field reaches. -/
def Within (schema : Schema) (pending : List Field) (field : Field) : Prop :=
  field ∈ pending ∨ ∃ first ∈ pending, schema.declares (baseName first.type) = true ∧
    ∃ name, schema.Reaches (baseName first.type) name ∧ schema.HasField name field

theorem Within.cons {pending : List Field} {first field : Field}
    (within : schema.Within pending field) : schema.Within (first :: pending) field := by
  rcases within with member | ⟨other, member, found⟩
  · exact .inl (List.mem_cons_of_mem _ member)
  · exact .inr ⟨other, List.mem_cons_of_mem _ member, found⟩

theorem Within.enter {rest fields : List Field} {first field : Field}
    (found : schema.fields? (baseName first.type) = some fields)
    (within : schema.Within (fields ++ rest) field) : schema.Within (first :: rest) field := by
  have declared := declares_of_fields found
  rcases within with member | ⟨other, member, known, name, reaches, hasField⟩
  · rcases List.mem_append.mp member with inner | later
    · exact .inr ⟨first, List.mem_cons_self, declared, _, .refl, fields, found, inner⟩
    · exact .inl (List.mem_cons_of_mem _ later)
  · rcases List.mem_append.mp member with inner | later
    · exact .inr ⟨first, List.mem_cons_self, declared, name,
        .head (mentions_of_field found inner known) reaches, hasField⟩
    · exact .inr ⟨other, List.mem_cons_of_mem _ later, known, name, reaches, hasField⟩

theorem unknown_of_reach {seen : List String} {pending : List Field} {e : Error}
    (refused : schema.reach seen pending = .error e) :
    ∃ field, schema.Within pending field ∧ ¬ schema.Knows (baseName field.type) ∧
      e = .unknownType field.type := by
  induction seen, pending using reach.induct schema with
  | case1 seen =>
      rw [reach] at refused
      cases refused
  | case2 seen field rest base fields declared known induction =>
      rw [reach_of_seen declared known] at refused
      obtain ⟨other, within, unknown⟩ := induction refused
      exact ⟨other, within.cons, unknown⟩
  | case3 seen field rest base fields declared fresh induction =>
      have absent : seen.contains base = false := (Bool.not_eq_true _).mp fresh
      rw [reach_of_fresh declared absent] at refused
      obtain ⟨other, within, unknown⟩ := induction refused
      exact ⟨other, within.enter declared, unknown⟩
  | case4 seen field rest base undeclared named induction =>
      rw [reach_of_primitive ⟨undeclared, named⟩] at refused
      obtain ⟨other, within, unknown⟩ := induction refused
      exact ⟨other, within.cons, unknown⟩
  | case5 seen field rest base undeclared unnamed =>
      rw [reach_of_unknown undeclared unnamed] at refused
      refine ⟨field, .inl List.mem_cons_self, ?_, (Except.error.inj refused).symm⟩
      intro known
      rcases known with declared | named
      · rw [declares, undeclared] at declared
        cases declared
      · exact unnamed named

/-! ## The walk from a struct -/

theorem dependencies_of_fields {primary : String} {fields : List Field}
    (found : schema.fields? primary = some fields) :
    schema.dependencies primary = schema.reach [primary] fields := by
  rw [dependencies, found]

/-- The walk from a struct finds what the struct reaches, each once, and all it meets is known. -/
theorem reached_of_dependencies {primary : String} {reached : List String}
    (found : schema.dependencies primary = .ok reached) :
    schema.Resolves primary ∧ (∀ name, name ∈ reached ↔ schema.Reaches primary name) ∧
      reached.Nodup := by
  cases declared : schema.fields? primary with
  | none =>
      rw [dependencies, declared] at found
      cases found
  | some fields =>
      rw [dependencies_of_fields declared] at found
      have walked := walked_of_reach found
      have covered : ∀ name ∈ reached, ∀ field, schema.HasField name field →
          schema.Covers reached field := by
        intro name listed field hasField
        rcases walked.closed name listed with first | later
        · cases List.mem_singleton.mp first
          obtain ⟨others, otherDeclared, member⟩ := hasField
          cases declared.symm.trans otherDeclared
          exact walked.covers field member
        · exact later field hasField
      have complete : ∀ name, schema.Reaches primary name → name ∈ reached := by
        intro name reaches
        induction reaches with
        | refl => exact walked.keeps primary (by simp)
        | tail _ last induction =>
            obtain ⟨known, field, hasField, rfl⟩ := last
            exact (covered _ induction field hasField).listed known
      have sound : ∀ name ∈ reached, schema.Reaches primary name := by
        intro name listed
        rcases walked.sound name listed with first | ⟨field, member, known, reaches⟩
        · cases List.mem_singleton.mp first
          exact .refl
        · exact .head (mentions_of_field declared member known) reaches
      refine ⟨⟨declares_of_fields declared, ?_⟩, ?_, walked.nodup (List.pairwise_singleton _ primary)⟩
      · intro name field reaches hasField
        exact (covered name (complete name reaches) field hasField).known
      · exact fun name => ⟨sound name, complete name⟩

/-- The walk from a struct fails at the struct itself or at a field in a struct it reaches. -/
theorem unknown_of_dependencies {primary : String} {e : Error}
    (refused : schema.dependencies primary = .error e) :
    (schema.declares primary = false ∧ e = .unknownType primary) ∨
      ∃ name field, schema.Reaches primary name ∧ schema.HasField name field ∧
        ¬ schema.Knows (baseName field.type) ∧ e = .unknownType field.type := by
  cases declared : schema.fields? primary with
  | none =>
      rw [dependencies, declared] at refused
      refine .inl ⟨?_, (Except.error.inj refused).symm⟩
      rw [declares, declared]
      rfl
  | some fields =>
      rw [dependencies_of_fields declared] at refused
      obtain ⟨field, within, unknown, same⟩ := unknown_of_reach refused
      rcases within with member | ⟨first, member, known, name, reaches, hasField⟩
      · exact .inr ⟨primary, field, .refl, ⟨fields, declared, member⟩, unknown, same⟩
      · exact .inr ⟨name, field, .head (mentions_of_field declared member known) reaches, hasField,
          unknown, same⟩

theorem dependencies_of_resolves {primary : String} (resolves : schema.Resolves primary) :
    ∃ reached, schema.dependencies primary = .ok reached := by
  cases walked : schema.dependencies primary with
  | ok reached => exact ⟨reached, rfl⟩
  | error e =>
      rcases unknown_of_dependencies walked with
        ⟨undeclared, -⟩ | ⟨name, field, reaches, hasField, unknown, -⟩
      · rw [resolves.declared] at undeclared
        cases undeclared
      · exact absurd (resolves.known name field reaches hasField) unknown

end SignedTx.TypedData.Schema
