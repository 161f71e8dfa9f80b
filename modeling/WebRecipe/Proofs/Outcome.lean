/-!
# Outcomes in a row

When a computation that may fail, followed by another one, succeeds, and how it fails.
-/

namespace WebRecipe

variable {ε α β : Type}

/-- Two computations in a row succeed when both do. -/
theorem bind_eq_ok_iff {x : Except ε α} {f : α → Except ε β} {b : β} :
    (x >>= f) = .ok b ↔ ∃ a, x = .ok a ∧ f a = .ok b := by
  cases x with
  | error e => exact iff_of_false nofun nofun
  | ok a => exact ⟨fun h ↦ ⟨a, rfl, h⟩, by rintro ⟨_, ⟨⟩, h⟩; exact h⟩

/-- Two checks in a row pass when both do. -/
theorem bind_eq_ok_unit {x y : Except ε Unit} :
    (x >>= fun _ ↦ y) = .ok () ↔ x = .ok () ∧ y = .ok () := by
  rw [bind_eq_ok_iff]
  exact ⟨fun ⟨_, hx, hy⟩ ↦ ⟨hx, hy⟩, fun ⟨hx, hy⟩ ↦ ⟨(), hx, hy⟩⟩

/-- Two computations in a row fail as both of them do. -/
theorem fails_of_bind_eq_error {fails : ε → Prop} {x : Except ε α} {f : α → Except ε β}
    (hx : ∀ e, x = .error e → fails e) (hf : ∀ a e, f a = .error e → fails e) (e : ε)
    (h : (x >>= f) = .error e) : fails e := by
  cases x with
  | error e' =>
    cases h
    exact hx e rfl
  | ok a => exact hf a e h

/-- An error in other words leaves a success as it is. -/
theorem mapError_eq_ok_iff {ε' : Type} {f : ε → ε'} {x : Except ε α} {a : α} :
    x.mapError f = .ok a ↔ x = .ok a := by
  cases x with
  | error e => exact iff_of_false nofun nofun
  | ok a' => exact ⟨fun h ↦ by cases h; rfl, fun h ↦ by cases h; rfl⟩

/-- What is there when errors are forgotten is a success. -/
theorem toOption_eq_some_iff {x : Except ε α} {a : α} : x.toOption = some a ↔ x = .ok a := by
  cases x with
  | error e => exact iff_of_false nofun nofun
  | ok a' => exact ⟨fun h ↦ by cases h; rfl, fun h ↦ by cases h; rfl⟩

/-- A computation without a result succeeds if it does not fail. -/
theorem eq_some_ok_of_isOk {o : Option (Except ε Unit)} (h : o.map Except.isOk = some true) :
    o = some (.ok ()) := by
  obtain ⟨x, rfl, hx⟩ := Option.map_eq_some_iff.1 h
  cases x with
  | error e => cases hx
  | ok => rfl

end WebRecipe
