import Mathlib.Data.List.TakeWhile

/-!
# Fronts of lists

A list is cut at its first mark: in front of it stands what holds no mark, and it does not matter
what follows. Leading zeros are the front before the first element that is not zero.
-/

set_option autoImplicit false

namespace SignedTx.Front

variable {α : Type} [DecidableEq α] {mark zero : α}

/-! ## Up to a mark -/

theorem is_no_mark {front : List α} (absent : mark ∉ front) :
    ∀ x ∈ front, decide (x ≠ mark) = true := by
  intro x listed
  rw [decide_eq_true_eq]
  intro same
  exact absent (same ▸ listed)

theorem before_absent {front : List α} (absent : mark ∉ front) :
    front.takeWhile (· ≠ mark) = front :=
  List.takeWhile_eq_self_iff.mpr (is_no_mark absent)

theorem from_absent {front : List α} (absent : mark ∉ front) : front.dropWhile (· ≠ mark) = [] :=
  List.dropWhile_eq_nil_iff.mpr (is_no_mark absent)

theorem before_mark {front : List α} (absent : mark ∉ front) (back : List α) :
    (front ++ mark :: back).takeWhile (· ≠ mark) = front := by
  rw [List.takeWhile_append_of_pos (is_no_mark absent), List.takeWhile_cons_of_neg (by simp),
    List.append_nil]

theorem from_mark {front : List α} (absent : mark ∉ front) (back : List α) :
    (front ++ mark :: back).dropWhile (· ≠ mark) = mark :: back := by
  rw [List.dropWhile_append_of_pos (is_no_mark absent), List.dropWhile_cons_of_neg (by simp)]

/-- Dropping stops at a mark. -/
theorem cut_of_from {xs back : List α} {x : α} (stopped : xs.dropWhile (· ≠ mark) = x :: back) :
    xs = xs.takeWhile (· ≠ mark) ++ mark :: back := by
  have is_mark : x = mark := by
    have head := List.head?_dropWhile_not (· ≠ mark) xs
    rw [stopped] at head
    simpa using head
  calc xs = xs.takeWhile (· ≠ mark) ++ xs.dropWhile (· ≠ mark) :=
        List.takeWhile_append_dropWhile.symm
    _ = xs.takeWhile (· ≠ mark) ++ mark :: back := by rw [stopped, is_mark]

/-! ## Leading zeros -/

/-- A list is some zeros and a list that no zero leads. -/
theorem exists_leading (zero : α) (xs : List α) :
    ∃ count tail, xs = List.replicate count zero ++ tail ∧ tail.head? ≠ some zero := by
  induction xs with
  | nil => exact ⟨0, [], rfl, nofun⟩
  | cons x rest induction =>
      by_cases same : x = zero
      · obtain ⟨count, tail, rfl, first⟩ := induction
        subst same
        exact ⟨count + 1, tail, rfl, first⟩
      · exact ⟨0, x :: rest, rfl, by simpa using same⟩

theorem leading_eq {tail : List α} (first : tail.head? ≠ some zero) (count : Nat) :
    (List.replicate count zero ++ tail).takeWhile (· = zero) = List.replicate count zero := by
  have none_more : tail.takeWhile (· = zero) = [] := by
    cases tail with
    | nil => rfl
    | cons x rest => exact List.takeWhile_cons_of_neg (by simpa using first)
  rw [List.takeWhile_append_of_pos (by simp), none_more, List.append_nil]

end SignedTx.Front
