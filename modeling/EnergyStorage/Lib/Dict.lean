import Mathlib.Data.List.Basic
import Mathlib.Data.Option.Basic

/-! # Finite maps as lookup functions -/

namespace Lib

variable {κ α β σ : Type*}

/-- A map is given by its lookups. -/
def Dict (κ α : Type*) := κ → Option α

namespace Dict

def empty : Dict κ α := fun _ => none

def get (d : Dict κ α) (k : κ) : Option α := d k

def insert [DecidableEq κ] (d : Dict κ α) (k : κ) (a : α) : Dict κ α :=
  fun k' => if k' = k then some a else d.get k'

/-- Insertion that keeps an entry already there. -/
def insertNew [DecidableEq κ] (d : Dict κ α) (k : κ) (a : α) : Dict κ α :=
  if (d.get k).isSome then d else d.insert k a

def erase [DecidableEq κ] (d : Dict κ α) (k : κ) : Dict κ α :=
  fun k' => if k' = k then none else d.get k'

@[simp] theorem get_empty (k : κ) : (empty : Dict κ α).get k = none := rfl

variable [DecidableEq κ]

theorem get_insert (d : Dict κ α) (k k' : κ) (a : α) :
    (d.insert k a).get k' = if k' = k then some a else d.get k' := rfl

@[simp] theorem get_insert_self (d : Dict κ α) (k : κ) (a : α) :
    (d.insert k a).get k = some a := by
  rw [get_insert, if_pos rfl]

theorem get_insert_of_ne (d : Dict κ α) {k k' : κ} (h : k' ≠ k) (a : α) :
    (d.insert k a).get k' = d.get k' := by
  rw [get_insert, if_neg h]

theorem get_erase (d : Dict κ α) (k k' : κ) :
    (d.erase k).get k' = if k' = k then none else d.get k' := rfl

@[simp] theorem insert_insert (d : Dict κ α) (k : κ) (a b : α) :
    (d.insert k a).insert k b = d.insert k b := by
  funext k'
  by_cases hk : k' = k
  · simp only [insert, if_pos hk]
  · simp only [insert, if_neg hk]
    exact d.get_insert_of_ne hk a

theorem get_insertNew_of_ne (d : Dict κ α) {k k' : κ} (h : k' ≠ k) (a : α) :
    (d.insertNew k a).get k' = d.get k' := by
  rw [insertNew]
  split
  · rfl
  · exact d.get_insert_of_ne h a

end Dict

/-! ### Observing one cell of a fold -/

/-- If every step of a fold, on the elements of the list, leaves an observation
alone or overwrites it with what `w` gives for the step's element, the fold leaves
the last overwriting value. -/
theorem observe_foldl (obs : σ → Option β) {w : α → Option β} {step : σ → α → σ} (s : σ)
    (l : List α) (h : ∀ s, ∀ a ∈ l, obs (step s a) = (w a).or (obs s)) :
    obs (l.foldl step s) = (l.reverse.findSome? w).or (obs s) := by
  induction l generalizing s with
  | nil => rfl
  | cons a l ih =>
    rw [List.foldl_cons, ih _ fun s b hb => h s b (List.mem_cons_of_mem a hb),
      h s a List.mem_cons_self, List.reverse_cons, List.findSome?_append, Option.or_assoc]
    cases hw : w a <;> simp [hw]

end Lib
