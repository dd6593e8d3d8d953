import LogLayout.Fault
import LogLayout.Warning

/-!
# Operations with warnings

An operation may report warnings on its way to a result or a fault. Operations are run one after
the other; the warnings stay in order and none gets lost, also when a later operation fails.
-/

namespace LogLayout

/-- The outcome of an operation together with the warnings that it reported on its way. -/
structure Warned (α : Type) where
  warnings : List Warning
  result : Except Fault α

namespace Warned

/-- A result without warnings. -/
def ok {α : Type} (a : α) : Warned α := ⟨[], .ok a⟩

/-- A fault without warnings. -/
def fail {α : Type} (fault : Fault) : Warned α := ⟨[], .error fault⟩

/-- Goes on with the result of the first operation; its warnings come first. -/
def andThen {α β : Type} (first : Warned α) (next : α → Warned β) : Warned β :=
  match first.result with
  | .error fault => ⟨first.warnings, .error fault⟩
  | .ok a => ⟨first.warnings ++ (next a).warnings, (next a).result⟩

/-- The result changed by a function. -/
def map {α β : Type} (f : α → β) (x : Warned α) : Warned β := ⟨x.warnings, x.result.map f⟩

end Warned

theorem Warned.ok_andThen {α β : Type} (a : α) (f : α → Warned β) : (ok a).andThen f = f a := rfl

theorem Warned.andThen_map {α β γ : Type} (x : Warned α) (f : α → Warned β) (g : β → γ) :
    (x.andThen f).map g = x.andThen fun a => (f a).map g := by
  obtain ⟨warnings, result⟩ := x
  cases result <;> rfl

theorem Warned.andThen_assoc {α β γ : Type} (x : Warned α) (f : α → Warned β)
    (g : β → Warned γ) : (x.andThen f).andThen g = x.andThen fun a => (f a).andThen g := by
  obtain ⟨warnings, result⟩ := x
  cases result with
  | error fault => rfl
  | ok a =>
    simp only [andThen]
    cases (f a).result <;> simp

theorem Warned.map_andThen {α β γ : Type} (x : Warned α) (f : α → β) (g : β → Warned γ) :
    (x.map f).andThen g = x.andThen fun a => g (f a) := by
  obtain ⟨warnings, result⟩ := x
  cases result <;> rfl

theorem Warned.map_map {α β γ : Type} (x : Warned α) (f : α → β) (g : β → γ) :
    (x.map f).map g = x.map (g ∘ f) := by
  obtain ⟨warnings, result⟩ := x
  cases result <;> rfl

theorem Warned.ok_eq_iff {α : Type} {a b : α} {warnings : List Warning} :
    Warned.ok a = ⟨warnings, .ok b⟩ ↔ a = b ∧ warnings = [] := by
  simp [Warned.ok, and_comm, eq_comm]

theorem Warned.result_andThen_eq_ok_iff {α β : Type} {x : Warned α} {f : α → Warned β} {b : β} :
    (x.andThen f).result = .ok b ↔ ∃ a, x.result = .ok a ∧ (f a).result = .ok b := by
  obtain ⟨warnings, result⟩ := x
  cases result <;> simp [andThen]

/-- Two operations run one after the other have a result exactly when both have one. -/
theorem Warned.andThen_eq_ok_iff {α β : Type} {x : Warned α} {f : α → Warned β} {b : β}
    {warnings : List Warning} :
    x.andThen f = ⟨warnings, .ok b⟩ ↔
      ∃ a first second, x = ⟨first, .ok a⟩ ∧ f a = ⟨second, .ok b⟩ ∧
        warnings = first ++ second := by
  obtain ⟨given, result⟩ := x
  cases result with
  | error fault => simp [andThen]
  | ok a =>
    cases next : f a with
    | mk second result =>
      simp only [andThen, next, Warned.mk.injEq, Except.ok.injEq]
      constructor
      · rintro ⟨rfl, rfl⟩
        exact ⟨a, given, second, ⟨rfl, rfl⟩, by simp [next], rfl⟩
      · rintro ⟨a', first, second', ⟨rfl, rfl⟩, again, rfl⟩
        rw [next] at again
        cases again
        exact ⟨rfl, rfl⟩

theorem Warned.map_eq_ok_iff {α β : Type} {x : Warned α} {f : α → β} {b : β}
    {warnings : List Warning} :
    x.map f = ⟨warnings, .ok b⟩ ↔ ∃ a, x = ⟨warnings, .ok a⟩ ∧ f a = b := by
  obtain ⟨given, result⟩ := x
  cases result <;> simp [map, Except.map, and_assoc]

/-- Two operations run one after the other fail where the first of them fails, or else where the
second one does. -/
theorem Warned.andThen_eq_error_iff {α β : Type} {x : Warned α} {f : α → Warned β}
    {fault : Fault} {warnings : List Warning} :
    x.andThen f = ⟨warnings, .error fault⟩ ↔
      x = ⟨warnings, .error fault⟩ ∨
        ∃ a first second, x = ⟨first, .ok a⟩ ∧ f a = ⟨second, .error fault⟩ ∧
          warnings = first ++ second := by
  obtain ⟨given, result⟩ := x
  cases result with
  | error other => simp [andThen]
  | ok a =>
    cases next : f a with
    | mk second result =>
      simp only [andThen, next, Warned.mk.injEq, reduceCtorEq, and_false, false_or]
      constructor
      · rintro ⟨rfl, rfl⟩
        exact ⟨a, given, second, ⟨rfl, rfl⟩, next, rfl⟩
      · rintro ⟨a', first, second', ⟨rfl, ⟨rfl⟩⟩, again, rfl⟩
        rw [next] at again
        cases again
        exact ⟨rfl, rfl⟩

theorem Warned.map_eq_error_iff {α β : Type} {x : Warned α} {f : α → β} {fault : Fault}
    {warnings : List Warning} :
    x.map f = ⟨warnings, .error fault⟩ ↔ x = ⟨warnings, .error fault⟩ := by
  obtain ⟨given, result⟩ := x
  cases result <;> simp [map, Except.map]

end LogLayout
