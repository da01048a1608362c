/-!
  FilterQuery.Proofs.Results

  Results that may be errors: what a computation on such results says of its steps, so that it
  can be taken apart without opening the steps. `FirstError` is the error of a computation that
  goes through a list up to the first failure.
-/

namespace FilterQuery

theorem map_eq_ok_iff {ε α β : Type} {x : Except ε α} {f : α → β} {b : β} :
    x.map f = .ok b ↔ ∃ a, x = .ok a ∧ f a = b := by
  cases x with
  | error e => simp [Except.map]
  | ok a => simp [Except.map]

theorem bind_eq_ok_iff {ε α β : Type} {x : Except ε α} {f : α → Except ε β} {b : β} :
    (x >>= f) = .ok b ↔ ∃ a, x = .ok a ∧ f a = .ok b := by
  cases x with
  | error e => simp [bind, Except.bind]
  | ok a => simp [bind, Except.bind]

theorem map_eq_error_iff {ε α β : Type} {x : Except ε α} {f : α → β} {e : ε} :
    x.map f = .error e ↔ x = .error e := by
  cases x with
  | error e => simp [Except.map]
  | ok a => simp [Except.map]

/-- A computation of two steps fails in the first, or after it in the second. -/
theorem bind_eq_error_iff {ε α β : Type} {x : Except ε α} {f : α → Except ε β} {e : ε} :
    (x >>= f) = .error e ↔ x = .error e ∨ ∃ a, x = .ok a ∧ f a = .error e := by
  cases x with
  | error e => simp [bind, Except.bind]
  | ok a => simp [bind, Except.bind]

theorem toOption_eq_some_iff {ε α : Type} {x : Except ε α} {a : α} :
    x.toOption = some a ↔ x = .ok a := by
  cases x with
  | error e => simp [Except.toOption]
  | ok b => simp [Except.toOption]

/-- A result is known from what makes it a value and what makes it an error, if one of them is
    always there. -/
theorem ok_and_error_iff {ε α : Type} {x : Except ε α} {ok : α → Prop} {error : ε → Prop}
    (hok : ∀ a, ok a → x = .ok a) (herror : ∀ e, error e → x = .error e)
    (hall : (∃ a, ok a) ∨ ∃ e, error e) :
    (∀ a, x = .ok a ↔ ok a) ∧ ∀ e, x = .error e ↔ error e := by
  rcases hall with ⟨a, ha⟩ | ⟨e, he⟩
  · have hx := hok a ha
    refine ⟨fun b => ⟨fun h => ?_, hok b⟩, fun e => ⟨fun h => ?_, herror e⟩⟩
    · cases hx.symm.trans h
      exact ha
    · cases hx.symm.trans h
  · have hx := herror e he
    refine ⟨fun a => ⟨fun h => ?_, hok a⟩, fun e' => ⟨fun h => ?_, herror e'⟩⟩
    · cases hx.symm.trans h
    · cases hx.symm.trans h
      exact he

/-! ## The first error in a list -/

section FirstError

variable {α β ε : Type} {f : α → Except ε β} {e : ε}

/-- The error of the first element of a list on which a function fails. -/
def FirstError (f : α → Except ε β) (xs : List α) (e : ε) : Prop :=
  ∃ front x back, xs = front ++ x :: back ∧ (∀ y ∈ front, ∃ b, f y = .ok b) ∧ f x = .error e

theorem not_firstError_nil : ¬FirstError f [] e := by
  rintro ⟨front, x, back, heq, -⟩
  simp at heq

theorem firstError_cons_iff {x : α} {xs : List α} :
    FirstError f (x :: xs) e ↔ f x = .error e ∨ (∃ b, f x = .ok b) ∧ FirstError f xs e := by
  constructor
  · rintro ⟨front, y, back, heq, hfront, hy⟩
    cases front with
    | nil =>
      cases heq
      exact .inl hy
    | cons z front =>
      cases heq
      obtain ⟨hz, hfront⟩ := List.forall_mem_cons.1 hfront
      exact .inr ⟨hz, front, y, back, rfl, hfront, hy⟩
  · rintro (hx | ⟨hx, front, y, back, rfl, hfront, hy⟩)
    · exact ⟨[], x, xs, rfl, nofun, hx⟩
    · exact ⟨x :: front, y, back, rfl, List.forall_mem_cons.2 ⟨hx, hfront⟩, hy⟩

end FirstError

end FilterQuery
