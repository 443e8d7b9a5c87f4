import Mathlib.Data.List.Basic

namespace panelli.trace

/-- A value with the events on the way to it, in order. -/
structure Traced (E α : Type) where
  value : α
  events : List E

instance {E : Type} : Monad (Traced E) where
  pure a := ⟨a, []⟩
  bind x f := ⟨(f x.value).value, x.events ++ (f x.value).events⟩

section

variable {E α β : Type} (P : E → Prop) (x : Traced E α) (f : α → Traced E β)

/-- A value with a single event. -/
def emit (e : E) (a : α) : Traced E α := ⟨a, [e]⟩

/-- All events satisfy a property. -/
def Traced.All (P : E → Prop) (x : Traced E α) : Prop := ∀ e ∈ x.events, P e

@[simp] theorem value_pure (a : α) : (pure a : Traced E α).value = a := rfl

@[simp] theorem value_bind : (x >>= f).value = (f x.value).value := rfl

@[simp] theorem value_emit (e : E) (a : α) : (emit e a).value = a := rfl

@[simp] theorem value_ite (c : Prop) [Decidable c] (y : Traced E α) :
    (if c then x else y).value = if c then x.value else y.value := apply_ite Traced.value c x y

@[simp] theorem all_pure (a : α) : (pure a : Traced E α).All P := by
  intro e he
  cases he

/-- The events of a sequence are those of both parts. -/
@[simp] theorem all_bind : (x >>= f).All P ↔ x.All P ∧ (f x.value).All P := List.forall_mem_append

@[simp] theorem all_emit (e : E) (a : α) : (emit e a).All P ↔ P e := List.forall_mem_singleton

end

end panelli.trace
