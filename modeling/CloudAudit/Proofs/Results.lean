/-!
# Results that may be errors

When a computation made of parts succeeds: all its parts do.
-/
set_option autoImplicit false

namespace CloudAudit.Results

variable {ε α β : Type}

theorem bind_ok_iff {first : Except ε α} {next : α → Except ε β} {value : β} :
    first >>= next = .ok value ↔ ∃ found, first = .ok found ∧ next found = .ok value := by
  cases first with
  | error error =>
    constructor
    · intro same
      cases same
    · rintro ⟨found, same, -⟩
      cases same
  | ok found =>
    constructor
    · intro same
      exact ⟨found, rfl, same⟩
    · rintro ⟨other, equal, same⟩
      rw [Except.ok.inj equal]
      exact same

theorem map_ok_iff {first : Except ε α} {function : α → β} {value : β} :
    first.map function = .ok value ↔ ∃ found, first = .ok found ∧ function found = value := by
  cases first with
  | error error => simp [Except.map]
  | ok found => simp [Except.map]

theorem toOption_eq_some_iff {result : Except ε α} {value : α} :
    result.toOption = some value ↔ result = .ok value := by
  cases result <;> simp [Except.toOption]

end CloudAudit.Results
