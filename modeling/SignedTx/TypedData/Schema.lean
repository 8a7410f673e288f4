import SignedTx.TypedData.TypeName

/-!
# Schemas and type strings

A schema declares structs, each with its fields in order. The type string of a struct is its own
definition followed by the definitions of all other structs it reaches, in ascending order of their
names, each once. Reaching follows the bases of field types; a base that is neither declared nor
primitive is a fault, named by the whole field type.
-/

set_option autoImplicit false

namespace SignedTx.TypedData

structure Field where
  name : String
  type : String
deriving DecidableEq, Repr

abbrev Schema := List (String × List Field)

namespace Schema

def fields? (schema : Schema) (name : String) : Option (List Field) := schema.lookup name

def declares (schema : Schema) (name : String) : Bool := (schema.fields? name).isSome

/-- The declared names that are not in a list. -/
def unseen (schema : Schema) (seen : List String) : List String :=
  (schema.map Prod.fst).filter fun name => !seen.contains name

theorem mem_names_of_fields? {schema : Schema} {name : String} {fields : List Field}
    (h : schema.fields? name = some fields) : name ∈ schema.map Prod.fst := by
  induction schema with
  | nil => simp [fields?] at h
  | cons entry rest ih =>
    obtain ⟨key, value⟩ := entry
    by_cases same : name = key
    · simp [same]
    · have differs : (name == key) = false := by simpa using same
      simp only [fields?, List.lookup_cons, differs] at h
      simp only [List.map_cons, List.mem_cons]
      exact .inr (ih h)

private theorem filter_length_lt {α : Type} {p q : α → Bool} {names : List α} {name : α}
    (member : name ∈ names) (weaker : ∀ x, q x = true → p x = true) (here : p name = true)
    (gone : q name = false) : (names.filter q).length < (names.filter p).length := by
  induction names with
  | nil => simp at member
  | cons head tail ih =>
    have monotone : (tail.filter q).length ≤ (tail.filter p).length := by
      clear ih member
      induction tail with
      | nil => simp
      | cons x rest ih =>
        by_cases hq : q x = true
        · simp [hq, weaker x hq, ih]
        · by_cases hp : p x = true
          · simp [hq, hp]
            omega
          · simp [hq, hp, ih]
    rcases List.mem_cons.mp member with same | later
    · subst same
      simp only [List.filter_cons, here, gone, if_true, Bool.false_eq_true, if_false,
        List.length_cons]
      omega
    · have shorter := ih later
      by_cases hq : q head = true
      · simp [hq, weaker head hq, shorter]
      · by_cases hp : p head = true
        · simp [hq, hp]
          omega
        · simp [hq, hp, shorter]

theorem unseen_lt {schema : Schema} {seen : List String} {name : String}
    (declared : name ∈ schema.map Prod.fst) (fresh : ¬ seen.contains name = true) :
    (schema.unseen (name :: seen)).length < (schema.unseen seen).length := by
  refine filter_length_lt declared ?_ ?_ ?_
  · intro x hx
    simp only [Bool.not_eq_true', List.contains_cons, Bool.or_eq_false_iff] at hx ⊢
    exact hx.2
  · simpa using fresh
  · simp

/--
Walks over fields still to be looked at, depth first. Each declared struct is entered once, and
`seen` collects the names of those entered.
-/
def reach (schema : Schema) (seen : List String) :
    (pending : List Field) → Except Error (List String)
  | [] => .ok seen
  | field :: rest =>
    let base := baseName field.type
    match _ : schema.fields? base with
    | some fields =>
      if _ : seen.contains base then schema.reach seen rest
      else schema.reach (base :: seen) (fields ++ rest)
    | none =>
      if (Primitive.ofName? base).isSome then schema.reach seen rest
      else .error (.unknownType field.type)
termination_by pending => ((schema.unseen seen).length, pending.length)
decreasing_by
  · exact Prod.Lex.right _ (by simp)
  · rename_i declared fresh
    exact Prod.Lex.left _ _ (unseen_lt (mem_names_of_fields? declared) fresh)
  · exact Prod.Lex.right _ (by simp)

/-- The structs that a struct reaches, itself among them. -/
def dependencies (schema : Schema) (primary : String) : Except Error (List String) :=
  match schema.fields? primary with
  | some fields => schema.reach [primary] fields
  | none => .error (.unknownType primary)

/-- The definition of a struct: its name and, in brackets, the type and name of each field. -/
def definition (name : String) (fields : List Field) : String :=
  let items := fields.map fun field => field.type ++ " " ++ field.name
  name ++ "(" ++ String.intercalate "," items ++ ")"

def definitions (schema : Schema) : List String → Except Error String
  | [] => .ok ""
  | name :: rest => do
    match schema.fields? name with
    | some fields => return definition name fields ++ (← schema.definitions rest)
    | none => .error (.unknownType name)

/-- The type string: the primary struct first, then the others it reaches by ascending name. -/
def encodeType (schema : Schema) (primary : String) : Except Error String := do
  let reached ← schema.dependencies primary
  let others := (reached.filter (· ≠ primary)).mergeSort fun a b => decide (a ≤ b)
  schema.definitions (primary :: others)

end Schema
end SignedTx.TypedData
