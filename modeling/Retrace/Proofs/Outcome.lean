/-!
# Outcomes in sequence

What comes of one computation after another when either may fail: the failure that comes first, or
the value of the second.

Main statements: `bind_eq_ok`, `bind_eq_error`, `map_eq_ok` and `mapError_eq_ok`.
-/

namespace Retrace

variable {ε ζ α β : Type}

@[simp] theorem ok_bind (a : α) (next : α → Except ε β) :
    ((.ok a : Except ε α) >>= next) = next a := rfl

@[simp] theorem error_bind (failure : ε) (next : α → Except ε β) :
    ((.error failure : Except ε α) >>= next) = .error failure := rfl

@[simp] theorem mapError_ok (rename : ε → ζ) (a : α) :
    (.ok a : Except ε α).mapError rename = .ok a := rfl

@[simp] theorem mapError_error (rename : ε → ζ) (failure : ε) :
    (.error failure : Except ε α).mapError rename = .error (rename failure) := rfl

theorem bind_eq_ok {first : Except ε α} {next : α → Except ε β} {b : β} :
    (first >>= next) = .ok b ↔ ∃ a, first = .ok a ∧ next a = .ok b := by
  cases first with
  | error failure => simp
  | ok a => simp

theorem bind_eq_error {first : Except ε α} {next : α → Except ε β} {failure : ε} :
    (first >>= next) = .error failure ↔
      first = .error failure ∨ ∃ a, first = .ok a ∧ next a = .error failure := by
  cases first with
  | error other => simp
  | ok a => simp

theorem map_eq_ok {f : α → β} {outcome : Except ε α} {b : β} :
    outcome.map f = .ok b ↔ ∃ a, outcome = .ok a ∧ f a = b := by
  cases outcome <;> simp [Except.map]

/-- To rename a failure changes no value. -/
theorem mapError_eq_ok {rename : ε → ζ} {outcome : Except ε α} {a : α} :
    outcome.mapError rename = .ok a ↔ outcome = .ok a := by
  cases outcome with
  | error failure => exact iff_of_false nofun nofun
  | ok value =>
    constructor
    · rintro ⟨⟩
      rfl
    · rintro ⟨⟩
      rfl

theorem toOption_eq_some {outcome : Except ε α} {a : α} :
    outcome.toOption = some a ↔ outcome = .ok a := by
  cases outcome <;> simp [Except.toOption]

end Retrace
