import SignedTx.Ledger.Error

/-!
# Outcomes

A sequence succeeds exactly if both of its steps do, and its error is the one of the first step that
fails; whether a step succeeds can be computed without its value.
-/

set_option autoImplicit false

namespace SignedTx.Outcome

variable {ε α β : Type}

theorem bind_eq_ok_iff {first : Except ε α} {next : α → Except ε β} {value : β} :
    (first >>= next) = .ok value ↔ ∃ found, first = .ok found ∧ next found = .ok value := by
  cases first with
  | ok found =>
      constructor
      · intro later
        exact ⟨found, rfl, later⟩
      · intro parts
        rcases parts with ⟨_, same, later⟩
        cases same
        exact later
  | error e => exact ⟨nofun, nofun⟩

theorem bind_eq_error_iff {first : Except ε α} {next : α → Except ε β} {e : ε} :
    (first >>= next) = .error e ↔
      first = .error e ∨ ∃ found, first = .ok found ∧ next found = .error e := by
  cases first with
  | ok found =>
      constructor
      · intro later
        exact .inr ⟨found, rfl, later⟩
      · intro parts
        rcases parts with early | ⟨_, same, later⟩
        · cases early
        · cases same
          exact later
  | error cause =>
      constructor
      · intro early
        cases early
        exact .inl rfl
      · intro parts
        rcases parts with early | ⟨_, same, -⟩
        · cases early
          rfl
        · cases same

theorem exists_error {outcome : Except ε α} (refused : ∀ value, outcome ≠ .ok value) :
    ∃ e, outcome = .error e := by
  cases outcome with
  | ok value => exact absurd rfl (refused value)
  | error e => exact ⟨e, rfl⟩

theorem map_eq_ok_iff {first : Except ε α} {f : α → β} {value : β} :
    first.map f = .ok value ↔ ∃ found, first = .ok found ∧ f found = value := by
  cases first with
  | ok found => simp [Except.map]
  | error e => simp [Except.map]

theorem map_error_eq_ok_iff {δ : Type} {outcome : Except ε α} {f : ε → δ} {value : α} :
    outcome.mapError f = .ok value ↔ outcome = .ok value := by
  cases outcome with
  | ok found =>
      constructor
      · intro same
        cases same
        rfl
      · intro same
        cases same
        rfl
  | error e => exact ⟨nofun, nofun⟩

/-! ## Guards -/

/-- A guard that refuses is the outcome; one that does not leaves no trace. -/
theorem refusal_eq_ok_iff {refused : Prop} [Decidable refused] {e : ε} {rest : Except ε β}
    {value : β} :
    (if refused then .error e else rest) = .ok value ↔ ¬ refused ∧ rest = .ok value := by
  by_cases refuses : refused
  · rw [if_pos refuses]
    constructor
    · intro thrown
      cases thrown
    · intro parts
      exact absurd refuses parts.1
  · rw [if_neg refuses]
    constructor
    · intro passed
      exact ⟨refuses, passed⟩
    · intro parts
      exact parts.2

theorem refusal_eq_error_iff {refused : Prop} [Decidable refused] {e cause : ε}
    {rest : Except ε β} : (if refused then .error e else rest) = .error cause ↔
      (refused ∧ e = cause) ∨ (¬ refused ∧ rest = .error cause) := by
  by_cases refuses : refused
  · rw [if_pos refuses]
    constructor
    · intro thrown
      cases thrown
      exact .inl ⟨refuses, rfl⟩
    · intro parts
      rcases parts with ⟨-, rfl⟩ | ⟨passes, -⟩
      · rfl
      · exact absurd refuses passes
  · rw [if_neg refuses]
    constructor
    · intro later
      exact .inr ⟨refuses, later⟩
    · intro parts
      rcases parts with ⟨refusing, -⟩ | ⟨-, later⟩
      · exact absurd refusing refuses
      · exact later

/-- A guard may also say what it lets through. -/
theorem passage_eq_ok_iff {passed : Prop} [Decidable passed] {e : ε} {rest : Except ε β}
    {value : β} : (if passed then rest else .error e) = .ok value ↔ passed ∧ rest = .ok value := by
  rw [← ite_not, refusal_eq_ok_iff, Decidable.not_not]

theorem passage_eq_error_iff {passed : Prop} [Decidable passed] {e cause : ε}
    {rest : Except ε β} : (if passed then rest else .error e) = .error cause ↔
      (¬ passed ∧ e = cause) ∨ (passed ∧ rest = .error cause) := by
  rw [← ite_not, refusal_eq_error_iff, Decidable.not_not]

/-- In a sequence the steps behind a guard that refuses are not taken. -/
theorem guard_eq_ok_iff {refused : Prop} [Decidable refused] {e : ε} {next : α → Except ε β}
    {rest : Except ε β} {value : β} :
    (if refused then throw e >>= next else rest) = .ok value ↔ ¬ refused ∧ rest = .ok value :=
  refusal_eq_ok_iff

theorem guard_eq_error_iff {refused : Prop} [Decidable refused] {e cause : ε}
    {next : α → Except ε β} {rest : Except ε β} :
    (if refused then throw e >>= next else rest) = .error cause ↔
      (refused ∧ e = cause) ∨ (¬ refused ∧ rest = .error cause) :=
  refusal_eq_error_iff

theorem exists_of_is_ok {outcome : Except ε α} (success : outcome.isOk = true) :
    ∃ value, outcome = .ok value := by
  cases outcome with
  | ok value => exact ⟨value, rfl⟩
  | error e => cases success

end SignedTx.Outcome
