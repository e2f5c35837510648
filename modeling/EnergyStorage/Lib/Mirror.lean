import Mathlib.Logic.Function.Basic

/-! # A mirror that several workers keep up

A worker copies an entry of a source into a mirror in two steps: it reads the entry, and later
it writes the reading.  In between the source may change and another worker may write.  Where
no reading is written that the source has overtaken, unless the entry is still going to be
written again, the mirror shows the source as soon as no worker has anything left to do. -/

namespace Lib

/-- The entries that are still to be read, and a reading that is still to be written. -/
structure Copier (κ β : Type*) where
  todo : List κ := []
  held : Option (κ × β) := none

namespace Copier

variable {κ α β ι : Type*}

def assign (w : Copier κ β) (ks : List κ) : Copier κ β := { w with todo := w.todo ++ ks }

def drop (w : Copier κ β) : Copier κ β := { w with held := none }

structure Idle (w : Copier κ β) : Prop where
  todo : w.todo = []
  held : w.held = none

instance (w : Copier κ β) : Decidable w.Idle :=
  decidable_of_iff (w.todo.isEmpty = true ∧ w.held.isNone = true)
    ⟨fun h => ⟨List.isEmpty_iff.mp h.1, Option.isNone_iff_eq_none.mp h.2⟩,
      fun h => ⟨List.isEmpty_iff.mpr h.todo, Option.isNone_iff_eq_none.mpr h.held⟩⟩

/-- The worker is still going to read the entry, or to write a reading that shows `a`. -/
def Owes (view : β → α) (w : Copier κ β) (k : κ) (a : α) : Prop :=
  k ∈ w.todo ∨ ∃ b, w.held = some (k, b) ∧ view b = a

variable {view : β → α} {w : Copier κ β} {k : κ} {a : α}

theorem Idle.not_owes (h : w.Idle) : ¬ w.Owes view k a := by
  rintro (htodo | ⟨b, hheld, -⟩)
  · rw [h.todo] at htodo
    cases htodo
  · rw [h.held] at hheld
    cases hheld

theorem Owes.assign (h : w.Owes view k a) (ks : List κ) : (w.assign ks).Owes view k a := by
  obtain htodo | hheld := h
  · exact Or.inl (List.mem_append_left ks htodo)
  · exact Or.inr hheld

theorem owes_assign {ks : List κ} (h : k ∈ ks) : (w.assign ks).Owes view k a :=
  Or.inl (List.mem_append_right _ h)

/-- A worker that writes its reading of one entry owes the others as before. -/
theorem Owes.drop {k' : κ} {b : β} (h : w.Owes view k a) (hheld : w.held = some (k', b))
    (hk : k ≠ k') : w.drop.Owes view k a := by
  obtain htodo | ⟨c, hc, -⟩ := h
  · exact Or.inl htodo
  · rw [hheld] at hc
    exact absurd (congrArg Prod.fst (Option.some_inj.mp hc)).symm hk

/-- A worker that reads one entry owes the others as before. -/
theorem Owes.of_read {k' : κ} {b : β} {ks : List κ} (h : w.Owes view k a)
    (htodo : w.todo = k' :: ks) (hheld : w.held = none) (hk : k ≠ k') :
    Owes view ⟨ks, some (k', b)⟩ k a := by
  obtain hmem | ⟨c, hc, -⟩ := h
  · rw [htodo] at hmem
    exact Or.inl (List.mem_of_ne_of_mem hk hmem)
  · rw [hheld] at hc
    cases hc

/-! ### What is left to read after a step of one worker -/

section

variable [DecidableEq ι] {ws : ι → Copier κ β} {i j : ι}

theorem mem_todo_assign {ks : List κ} :
    k ∈ (Function.update ws i ((ws i).assign ks) j).todo ↔
      k ∈ (ws j).todo ∨ j = i ∧ k ∈ ks := by
  by_cases hj : j = i
  · rw [hj, Function.update_self, and_iff_right rfl]
    exact List.mem_append
  · rw [Function.update_of_ne hj]
    exact (or_iff_left fun h => hj h.1).symm

theorem mem_todo_of_read {k' : κ} {ks : List κ} {r : Option (κ × β)}
    (htodo : (ws i).todo = k' :: ks) (h : k ∈ (Function.update ws i ⟨ks, r⟩ j).todo) :
    k ∈ (ws j).todo := by
  by_cases hj : j = i
  · rw [hj, Function.update_self] at h
    rw [hj, htodo]
    exact List.mem_cons_of_mem k' h
  · rw [Function.update_of_ne hj] at h
    exact h

theorem todo_drop : (Function.update ws i (ws i).drop j).todo = (ws j).todo := by
  by_cases hj : j = i
  · rw [hj, Function.update_self]
    rfl
  · rw [Function.update_of_ne hj]

end

end Copier

variable {κ α β ι : Type*}

/-- Each entry of the mirror shows the source, or some worker owes it. -/
def Tracked (view : β → α) (source : κ → β) (mirror : κ → α) (ws : ι → Copier κ β) : Prop :=
  ∀ k, mirror k = view (source k) ∨ ∃ i, (ws i).Owes view k (view (source k))

namespace Tracked

variable {view : β → α} {source source' : κ → β} {mirror mirror' : κ → α}
  {ws : ι → Copier κ β}

theorem settled (h : Tracked view source mirror ws) (hidle : ∀ i, (ws i).Idle) (k : κ) :
    mirror k = view (source k) := by
  obtain hshows | ⟨i, howes⟩ := h k
  · exact hshows
  · exact absurd howes (hidle i).not_owes

/-- An entry that is still to be read may change in the mirror. -/
theorem touch (h : Tracked view source mirror ws)
    (hmirror : ∀ k, (∀ i, k ∉ (ws i).todo) → mirror' k = mirror k) :
    Tracked view source mirror' ws := by
  intro k
  by_cases hk : ∃ i, k ∈ (ws i).todo
  · obtain ⟨i, hmem⟩ := hk
    exact Or.inr ⟨i, Or.inl hmem⟩
  · rw [hmirror k (not_exists.mp hk)]
    exact h k

variable [DecidableEq ι]

/-- A worker whose step changes some entries of the source is to read these. -/
theorem assign (h : Tracked view source mirror ws) (i : ι) {ks : List κ}
    (hsource : ∀ k, k ∉ ks → view (source' k) = view (source k)) :
    Tracked view source' mirror (Function.update ws i ((ws i).assign ks)) := by
  intro k
  by_cases hk : k ∈ ks
  · refine Or.inr ⟨i, ?_⟩
    rw [Function.update_self]
    exact Copier.owes_assign hk
  · rw [hsource k hk]
    obtain hshows | ⟨j, howes⟩ := h k
    · exact Or.inl hshows
    · refine Or.inr ⟨j, ?_⟩
      by_cases hj : j = i
      · rw [hj] at howes
        rw [hj, Function.update_self]
        exact howes.assign ks
      · rw [Function.update_of_ne hj]
        exact howes

theorem read (h : Tracked view source mirror ws) {i : ι} {k : κ} {ks : List κ}
    (htodo : (ws i).todo = k :: ks) (hheld : (ws i).held = none) :
    Tracked view source mirror (Function.update ws i ⟨ks, some (k, source k)⟩) := by
  intro k'
  by_cases hk : k' = k
  · refine Or.inr ⟨i, ?_⟩
    rw [Function.update_self, hk]
    exact Or.inr ⟨source k, rfl, rfl⟩
  · obtain hshows | ⟨j, howes⟩ := h k'
    · exact Or.inl hshows
    · refine Or.inr ⟨j, ?_⟩
      by_cases hj : j = i
      · rw [hj] at howes
        rw [hj, Function.update_self]
        exact howes.of_read htodo hheld hk
      · rw [Function.update_of_ne hj]
        exact howes

/-- The reading shows what the source holds, or the entry is still owed after the write. -/
def Fresh (view : β → α) (source : κ → β) (ws : ι → Copier κ β) (i : ι) (k : κ) (b : β) : Prop :=
  view b = view (source k) ∨
    ∃ j, (Function.update ws i (ws i).drop j).Owes view k (view (source k))

theorem write (h : Tracked view source mirror ws) {i : ι} {k : κ} {b : β}
    (hheld : (ws i).held = some (k, b)) (hfresh : Fresh view source ws i k b)
    (hself : mirror' k = view b) (hmirror : ∀ k', k' ≠ k → mirror' k' = mirror k') :
    Tracked view source mirror' (Function.update ws i (ws i).drop) := by
  intro k'
  by_cases hk : k' = k
  · rw [hk, hself]
    exact hfresh
  · rw [hmirror k' hk]
    obtain hshows | ⟨j, howes⟩ := h k'
    · exact Or.inl hshows
    · refine Or.inr ⟨j, ?_⟩
      by_cases hj : j = i
      · rw [hj] at howes
        rw [hj, Function.update_self]
        exact howes.drop hheld hk
      · rw [Function.update_of_ne hj]
        exact howes

end Tracked
end Lib
