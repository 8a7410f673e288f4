import Mathlib.Data.List.Induction
import Mathlib.Data.List.Nodup
import SignedTx.Json.Basic

/-!
# Members of an object

Putting a value under a key changes what is found there and nowhere else, wherever the key's place
is. An object made from members holds something under their keys alone, and each of them if the keys
are different.
-/

set_option autoImplicit false

namespace SignedTx.Json.Object

theorem get_cons (name other : String) (value : Json) (rest : Object) :
    get? ((name, value) :: rest) other = if other = name then some value else rest.get? other := by
  by_cases same : other = name
  · subst same
    simp [get?]
  · have differs : (other == name) = false := by simpa using same
    rw [if_neg same, get?, List.lookup_cons, differs]
    rfl

theorem get_insert (key other : String) (value : Json) (members : Object) :
    (insert key value members).get? other =
      if other = key then some value else members.get? other := by
  induction members with
  | nil => exact get_cons key other value []
  | cons member rest induction =>
      obtain ⟨name, old⟩ := member
      rw [insert]
      split
      · rw [get_cons]
      · split
        · rename_i found
          subst found
          rw [get_cons, get_cons]
          by_cases same : other = key
          · rw [if_pos same, if_pos same]
          · rw [if_neg same, if_neg same, if_neg same]
        · rename_i apart
          rw [get_cons, get_cons, induction]
          by_cases first : other = name
          · have distinct : ¬ other = key := fun same => apart (same.symm.trans first)
            rw [if_pos first, if_neg distinct, if_pos first]
          · rw [if_neg first, if_neg first]

/-- Members with other keys leave what is found under a key as it is. -/
theorem get_foldl_insert {members : List (String × Json)} {key : String}
    (absent : key ∉ members.map Prod.fst) (object : Object) :
    (members.foldl (fun object member => object.insert member.1 member.2) object).get? key =
      object.get? key := by
  induction members generalizing object with
  | nil => rfl
  | cons member rest induction =>
      rw [List.map_cons, List.mem_cons, not_or] at absent
      rw [List.foldl_cons, induction absent.2, get_insert, if_neg absent.1]

theorem get_of_mem {members : List (String × Json)} (distinct : (members.map Prod.fst).Nodup)
    {key : String} {value : Json} (member : (key, value) ∈ members) :
    (ofList members).get? key = some value := by
  obtain ⟨before, after, rfl⟩ := List.append_of_mem member
  rw [List.map_append, List.map_cons] at distinct
  have absent : key ∉ after.map Prod.fst :=
    (List.nodup_cons.mp (List.nodup_append.mp distinct).2.1).1
  rw [ofList, List.foldl_append, List.foldl_cons, get_foldl_insert absent, get_insert, if_pos rfl]

theorem is_some_get_of_list (members : List (String × Json)) (key : String) :
    ((ofList members).get? key).isSome = true ↔ key ∈ members.map Prod.fst := by
  induction members using List.reverseRecOn with
  | nil => simp [ofList, get?]
  | append_singleton front member induction =>
      rw [ofList, List.foldl_append, List.foldl_cons, List.foldl_nil, get_insert, List.map_append,
        List.mem_append, List.map_singleton, List.mem_singleton]
      by_cases last : key = member.1
      · rw [if_pos last]
        exact iff_of_true rfl (.inr last)
      · rw [if_neg last, or_iff_left last]
        exact induction

/-! ## Members that may be missing -/

/-- The members of those that are there. -/
def present (members : List (String × Option Json)) : List (String × Json) :=
  members.filterMap fun member => member.2.map (member.1, ·)

theorem key_of_present {members : List (String × Option Json)} {key : String}
    (listed : key ∈ (present members).map Prod.fst) : key ∈ members.map Prod.fst := by
  obtain ⟨shown, inside, rfl⟩ := List.mem_map.mp listed
  obtain ⟨member, memberListed, found⟩ := List.mem_filterMap.mp inside
  obtain ⟨value, -, rfl⟩ := Option.map_eq_some_iff.mp found
  exact List.mem_map_of_mem memberListed

/-- Under a key that is listed once there is what is listed with it, or nothing. -/
theorem get_of_present {members : List (String × Option Json)}
    (distinct : (members.map Prod.fst).Nodup) {key : String} {value : Option Json}
    (member : (key, value) ∈ members) : (ofList (present members)).get? key = value := by
  obtain ⟨before, after, rfl⟩ := List.append_of_mem member
  rw [List.map_append, List.map_cons, List.nodup_middle, List.nodup_cons, List.mem_append,
    not_or] at distinct
  obtain ⟨⟨absentBefore, absentAfter⟩, -⟩ := distinct
  have noneBefore : key ∉ (present before).map Prod.fst := fun listed =>
    absentBefore (key_of_present listed)
  have noneAfter : key ∉ (present after).map Prod.fst := fun listed =>
    absentAfter (key_of_present listed)
  cases value with
  | none =>
      have joined : present (before ++ (key, none) :: after) = present before ++ present after := by
        simp [present]
      rw [joined, ofList, List.foldl_append, get_foldl_insert noneAfter,
        get_foldl_insert noneBefore]
      rfl
  | some json =>
      have joined : present (before ++ (key, some json) :: after) =
          present before ++ (key, json) :: present after := by
        simp [present]
      rw [joined, ofList, List.foldl_append, List.foldl_cons, get_foldl_insert noneAfter,
        get_insert, if_pos rfl]

end SignedTx.Json.Object
