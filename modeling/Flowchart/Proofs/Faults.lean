import Mathlib.Logic.Relation

/-!
# `Flowchart.Proofs.Faults`: the first of several faults

What is put together from parts fails with the first fault met among them, in the order in which
they are looked at.  `barring faults value` is such a result: it is the value if there are no
faults, and the first of them otherwise.  One step after another has the faults of both in a row
(`barring_bind`), and so has a list whose items are gone through one by one (`mapM_barring`).  What
remains is to say which faults a thing has.

A thing without faults is one all of whose parts are, however deep inside (`Within`), and this is
known from the thing itself and its own parts (`forall_within_iff`).
-/

set_option autoImplicit false

namespace Flowchart

variable {ε α β γ : Type}

/-- The value, unless there are faults: then the first of them. -/
def barring : List ε → α → Except ε α
  | [], value => .ok value
  | fault :: _, _ => .error fault

/-- A step and the one behind it have the faults of the first in front of those of the second.  The
second step need only be known at the value of the first: no other value ever comes to it. -/
theorem barring_bind {faults faults' : List ε} {a : α} {b : β} {next : α → Except ε β}
    (h : next a = barring faults' b) :
    (barring faults a >>= next) = barring (faults ++ faults') b := by
  cases faults with
  | nil => exact h
  | cons fault faults => rfl

/-- A step that cannot fail adds no faults. -/
theorem barring_bind_ok {faults : List ε} {a : α} {b : β} {next : α → Except ε β}
    (h : next a = .ok b) : (barring faults a >>= next) = barring faults b := by
  cases faults with
  | nil => exact h
  | cons fault faults => rfl

/-- A function of the value meets no faults of its own. -/
theorem barring_map (faults : List ε) (a : α) (f : α → β) :
    (barring faults a >>= fun a => pure (f a)) = barring faults (f a) :=
  barring_bind_ok rfl

/-- The items of a list are gone through from left to right, and the faults are met in that
order. -/
theorem mapM_barring {xs : List γ} {f : γ → Except ε α} {faults : γ → List ε} {value : γ → α}
    (h : ∀ x ∈ xs, f x = barring (faults x) (value x)) :
    xs.mapM f = barring (xs.flatMap faults) (xs.map value) := by
  induction xs with
  | nil => rfl
  | cons x xs ih =>
      rw [List.mapM_cons, h x List.mem_cons_self, List.flatMap_cons, List.map_cons]
      -- The faults of the first item stand before those of the others.
      refine barring_bind ?_
      rw [ih fun y hy => h y (List.mem_cons_of_mem _ hy), barring_map]

/-- There is a value exactly if there are no faults. -/
theorem barring_eq_ok {faults : List ε} {a b : α} :
    barring faults a = .ok b ↔ faults = [] ∧ a = b := by
  cases faults <;> simp [barring]

/-- A thing, its parts, their parts and so on. -/
def Within (parts : α → List α) : α → α → Prop :=
  Relation.ReflTransGen fun whole part => part ∈ parts whole

/-- What holds of everything inside a thing holds of the thing and of everything inside its parts.
With this a property of all that is inside can be followed along the recursion of a function. -/
theorem forall_within_iff {parts : α → List α} {P : α → Prop} {whole : α} :
    (∀ x, Within parts whole x → P x) ↔
      P whole ∧ ∀ part ∈ parts whole, ∀ x, Within parts part x → P x := by
  constructor
  · intro h
    exact ⟨h whole .refl, fun part hpart x hx => h x (.head hpart hx)⟩
  · rintro ⟨hwhole, hparts⟩ x hx
    -- The way down to `x` is empty or goes through one of the parts first.
    rcases hx.cases_head with rfl | ⟨part, hpart, hrest⟩
    · exact hwhole
    · exact hparts part hpart x hrest

end Flowchart
