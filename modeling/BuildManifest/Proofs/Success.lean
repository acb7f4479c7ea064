/-!
# When a computation that may fail succeeds

A reader is a sequence of smaller ones, and succeeds exactly if all of them do.
-/

set_option autoImplicit false

namespace BuildManifest

variable {ε α β : Type}

theorem map_eq_ok_iff {result : Except ε α} {f : α → β} {value : β} :
    result.map f = .ok value ↔ ∃ one, result = .ok one ∧ f one = value := by
  cases result with
  | error error =>
    constructor
    · rintro ⟨⟩
    · rintro ⟨_, ⟨⟩, _⟩
  | ok one =>
    constructor
    · rintro ⟨⟩
      exact ⟨one, rfl, rfl⟩
    · rintro ⟨_, ⟨⟩, rfl⟩
      rfl

theorem exists_map_eq_ok_iff {result : Except ε α} {f : α → β} :
    (∃ value, result.map f = .ok value) ↔ ∃ one, result = .ok one := by
  cases result with
  | error error => exact ⟨nofun, nofun⟩
  | ok one => exact ⟨fun _ => ⟨one, rfl⟩, fun _ => ⟨f one, rfl⟩⟩

theorem bind_eq_ok_iff {result : Except ε α} {f : α → Except ε β} {value : β} :
    result >>= f = .ok value ↔ ∃ one, result = .ok one ∧ f one = .ok value := by
  cases result with
  | error error =>
    constructor
    · rintro ⟨⟩
    · rintro ⟨_, ⟨⟩, _⟩
  | ok one =>
    constructor
    · intro h
      exact ⟨one, rfl, h⟩
    · rintro ⟨_, ⟨⟩, h⟩
      exact h

/-- A check is passed before the rest. -/
theorem check_bind_eq_ok_iff {check : Except ε Unit} {rest : Except ε β} {value : β} :
    (check >>= fun _ => rest) = .ok value ↔ check = .ok () ∧ rest = .ok value := by
  rw [bind_eq_ok_iff]
  exact ⟨fun ⟨(), passed, read⟩ => ⟨passed, read⟩, fun ⟨passed, read⟩ => ⟨(), passed, read⟩⟩

theorem isSome_toOption_iff {result : Except ε α} :
    result.toOption.isSome = true ↔ ∃ value, result = .ok value := by
  cases result with
  | error error => simp [Except.toOption]
  | ok value => simp [Except.toOption]

theorem toOption_eq_some_iff {result : Except ε α} {value : α} :
    result.toOption = some value ↔ result = .ok value := by
  cases result with
  | error error => simp [Except.toOption]
  | ok one => simp [Except.toOption]

end BuildManifest
