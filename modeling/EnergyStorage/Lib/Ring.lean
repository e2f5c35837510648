import EnergyStorage.Lib.Machine
import Mathlib.Data.Nat.ModEq
import Mathlib.Logic.Function.Basic

/-! # Ring buffers that drop the oldest element

A ring of `cap` cells with the index of the first element, the index behind the last one and
their number holds a queue.  A push onto a full ring gives up its first element, so that the
ring holds the last `cap` elements of what a list would hold. -/

namespace Lib

structure Ring (α : Type*) (cap : Nat) where
  cells : Fin cap → α
  head : Nat
  tail : Nat
  count : Nat
  head_lt : head < cap
  count_le : count ≤ cap
  tail_eq : tail = (head + count) % cap

namespace Ring

variable {α : Type*} {cap : Nat}

theorem cap_pos (r : Ring α cap) : 0 < cap := Nat.zero_lt_of_lt r.head_lt

def empty (cells : Fin cap → α) (h : 0 < cap) : Ring α cap where
  cells := cells
  head := 0
  tail := 0
  count := 0
  head_lt := h
  count_le := Nat.zero_le cap
  tail_eq := (Nat.zero_mod cap).symm

def cell (r : Ring α cap) (i : Nat) : α := r.cells ⟨i % cap, Nat.mod_lt i r.cap_pos⟩

/-- The elements, oldest first. -/
def toList (r : Ring α cap) : List α := (List.range r.count).map fun i => r.cell (r.head + i)

/-- Give up the first element. -/
def drop (r : Ring α cap) (h : r.count ≠ 0) : Ring α cap where
  cells := r.cells
  head := (r.head + 1) % cap
  tail := r.tail
  count := r.count - 1
  head_lt := Nat.mod_lt _ r.cap_pos
  count_le := (Nat.sub_le _ _).trans r.count_le
  tail_eq := by
    rw [r.tail_eq, Nat.mod_add_mod]
    congr 1
    omega

/-- Write behind the last element. -/
def put (r : Ring α cap) (a : α) (h : r.count < cap) : Ring α cap where
  cells := Function.update r.cells ⟨r.tail, r.tail_eq ▸ Nat.mod_lt _ r.cap_pos⟩ a
  head := r.head
  tail := (r.tail + 1) % cap
  count := r.count + 1
  head_lt := r.head_lt
  count_le := h
  tail_eq := by rw [r.tail_eq, Nat.mod_add_mod, Nat.add_assoc]

def push (r : Ring α cap) (a : α) : Ring α cap :=
  if h : cap ≤ r.count then
    (r.drop (by have := r.cap_pos; omega)).put a (by
      show r.count - 1 < cap
      have := r.cap_pos
      have := r.count_le
      omega)
  else r.put a (Nat.not_le.mp h)

def pop (r : Ring α cap) : Option α × Ring α cap :=
  if h : r.count = 0 then (none, r) else (some (r.cell r.head), r.drop h)

/-! ### The list that a ring holds -/

@[simp] theorem length_toList (r : Ring α cap) : r.toList.length = r.count := by simp [toList]

@[simp] theorem toList_empty (cells : Fin cap → α) (h : 0 < cap) : (empty cells h).toList = [] :=
  rfl

theorem toList_drop (r : Ring α cap) (h : r.count ≠ 0) : (r.drop h).toList = r.toList.tail := by
  have hcount : r.count = r.count - 1 + 1 := by omega
  have hcell : ∀ i, (r.drop h).cell ((r.drop h).head + i) = r.cell (r.head + (i + 1)) := by
    intro i
    have hindex : ((r.head + 1) % cap + i) % cap = (r.head + (i + 1)) % cap := by
      rw [Nat.mod_add_mod]
      congr 1
      omega
    exact congrArg r.cells (Fin.ext hindex)
  unfold toList
  rw [hcount, List.range_succ_eq_map, List.map_cons, List.tail_cons, List.map_map]
  exact List.map_congr_left fun i _ => hcell i

theorem toList_eq_cons (r : Ring α cap) (h : r.count ≠ 0) :
    r.toList = r.cell r.head :: (r.drop h).toList := by
  have hcount : r.count = r.count - 1 + 1 := by omega
  rw [toList_drop, toList, hcount, List.range_succ_eq_map]
  rfl

theorem toList_put (r : Ring α cap) (a : α) (h : r.count < cap) :
    (r.put a h).toList = r.toList ++ [a] := by
  have htail : ∀ i, i < r.count → (r.head + i) % cap ≠ r.tail := by
    intro i hi heq
    rw [r.tail_eq] at heq
    have hmod : i ≡ r.count [MOD cap] := Nat.ModEq.add_left_cancel' r.head heq
    exact Nat.ne_of_lt hi (hmod.eq_of_lt_of_lt (hi.trans h) h)
  have hold : ∀ i, i < r.count → (r.put a h).cell (r.head + i) = r.cell (r.head + i) := by
    intro i hi
    refine Function.update_of_ne (fun heq => htail i hi ?_) a r.cells
    exact Fin.ext_iff.mp heq
  have hnew : (r.put a h).cell (r.head + r.count) = a := by
    unfold cell put
    dsimp only
    simp only [← r.tail_eq]
    exact Function.update_self _ a r.cells
  show (List.range (r.count + 1)).map (fun i => (r.put a h).cell (r.head + i)) = r.toList ++ [a]
  rw [List.range_succ, List.map_append, List.map_singleton, hnew]
  congr 1
  exact List.map_congr_left fun i hi => hold i (List.mem_range.mp hi)

/-- What a queue for at most `cap` elements keeps of `l`: the last ones. -/
def keep (cap : Nat) (l : List α) : List α := l.drop (l.length - cap)

theorem keep_of_le {l : List α} (h : l.length ≤ cap) : keep cap l = l := by
  rw [keep, Nat.sub_eq_zero_of_le h, List.drop_zero]

theorem toList_push (r : Ring α cap) (a : α) : (r.push a).toList = keep cap (r.toList ++ [a]) := by
  have hlen : (r.toList ++ [a]).length = r.count + 1 := by simp
  unfold push
  split_ifs with h
  · have hfull : r.count = cap := Nat.le_antisymm r.count_le h
    have hne : r.toList ≠ [] := by
      intro hnil
      have hzero := r.length_toList
      have := r.cap_pos
      rw [hnil, List.length_nil] at hzero
      omega
    have hone : r.count + 1 - cap = 1 := by omega
    rw [toList_put, toList_drop, keep, hlen, hone, List.drop_one, List.tail_append_of_ne_nil hne]
  · rw [toList_put, keep_of_le]
    omega

theorem pop_eq (r : Ring α cap) :
    r.pop.1 = r.toList.head? ∧ r.pop.2.toList = r.toList.tail := by
  unfold pop
  split_ifs with h
  · have hnil : r.toList = [] := List.eq_nil_of_length_eq_zero (r.length_toList.trans h)
    exact ⟨by rw [hnil]; rfl, by rw [hnil, List.tail_nil]⟩
  · rw [toList_eq_cons r h]
    exact ⟨rfl, rfl⟩

end Ring

/-! ### The queue that a ring stands for -/

namespace Machine

variable {σ ε ω α : Type*} (M : Machine σ ε ω)

theorem trace_eq_nil_iff {f : σ → ε → List α} {es : List ε} :
    M.trace f es = [] ↔ M.EveryStep (fun s e => f s e = []) es := by
  induction es using List.reverseRecOn with
  | nil => exact iff_of_true rfl (M.everyStep_nil _)
  | append_singleton es e ih => rw [trace_snoc, List.append_eq_nil_iff, M.everyStep_snoc, ih]

end Machine

inductive QueueOp (α : Type*)
  | push (a : α)
  | pop
  | clear

section DropOldest

variable {α : Type*} (cap : Nat)

/-- A queue for at most `cap` elements that gives up its oldest ones. -/
def dropOldest (α : Type*) (cap : Nat) : Machine (List α) (QueueOp α) α where
  start := []
  step
    | l, .push a => (Ring.keep cap (l ++ [a]), [])
    | l, .pop => (l.tail, l.head?.toList)
    | _, .clear => ([], [])

theorem dropOldest_push (l : List α) (a : α) :
    (dropOldest α cap).runFrom l [.push a] = Ring.keep cap (l ++ [a]) := rfl

namespace QueueOp

def pushed : QueueOp α → List α
  | .push a => [a]
  | .pop | .clear => []

/-- What an operation on `l` hands out. -/
def popped (l : List α) : QueueOp α → List α
  | .pop => l.head?.toList
  | .push _ | .clear => []

/-- What an operation on `l` loses. -/
def lost (l : List α) : QueueOp α → List α
  | .push a => (l ++ [a]).take ((l ++ [a]).length - cap)
  | .pop => []
  | .clear => l

theorem popped_append_tail (l : List α) : popped l .pop ++ l.tail = l := by
  cases l <;> rfl

/-- An operation takes apart what was there. -/
theorem lost_append (l : List α) (op : QueueOp α) :
    lost cap l op ++ popped l op ++ ((dropOldest α cap).step l op).1 = l ++ op.pushed := by
  cases op with
  | push a =>
    show _ ++ [] ++ Ring.keep cap (l ++ [a]) = l ++ [a]
    rw [List.append_nil]
    exact List.take_append_drop _ _
  | pop =>
    show [] ++ popped l .pop ++ l.tail = l ++ []
    rw [List.nil_append, List.append_nil, popped_append_tail]
  | clear =>
    show l ++ [] ++ [] = l ++ []
    rw [List.append_nil]

end QueueOp

open QueueOp in
/-- What was handed out and what waits are, in this order, among what was pushed; what waits are
the last of them, and the rest is what was lost. -/
theorem dropOldest_run (ops : List (QueueOp α)) :
    let M := dropOldest α cap
    (M.trace popped ops ++ M.run ops).Sublist (ops.flatMap pushed) ∧
      M.run ops <:+ ops.flatMap pushed ∧
      (M.trace popped ops).length + (M.trace (lost cap) ops).length + (M.run ops).length =
        (ops.flatMap pushed).length := by
  intro M
  induction ops using List.reverseRecOn with
  | nil => exact ⟨List.Sublist.refl _, List.suffix_refl _, rfl⟩
  | append_singleton ops op ih =>
    obtain ⟨hsub, ⟨gone, hgone⟩, hlen⟩ := ih
    have happ := lost_append cap (M.run ops) op
    rw [M.trace_snoc, M.trace_snoc, M.run_snoc, List.flatMap_append, List.flatMap_singleton]
    refine ⟨?_, ?_, ?_⟩
    · have hstep : (popped (M.run ops) op ++ (M.step (M.run ops) op).1).Sublist
          (M.run ops ++ op.pushed) := by
        rw [← happ, List.append_assoc]
        exact List.sublist_append_right _ _
      rw [List.append_assoc]
      have hmore := (List.Sublist.refl (M.trace popped ops)).append hstep
      have hall := hsub.append (List.Sublist.refl op.pushed)
      rw [List.append_assoc] at hall
      exact hmore.trans hall
    · rw [← hgone, List.append_assoc, ← happ]
      exact ⟨gone ++ (lost cap (M.run ops) op ++ popped (M.run ops) op), by
        simp only [List.append_assoc]; rfl⟩
    · have hcount := congrArg List.length happ
      simp only [List.length_append] at hcount ⊢
      show _ + _ + ((dropOldest α cap).step (M.run ops) op).1.length = _
      omega

open QueueOp in
/-- Nothing is missing exactly when no operation loses something. -/
theorem dropOldest_exact_iff (ops : List (QueueOp α)) :
    let M := dropOldest α cap
    M.trace popped ops ++ M.run ops = ops.flatMap pushed ↔ M.trace (lost cap) ops = [] := by
  intro M
  obtain ⟨hsub, -, hlen⟩ := dropOldest_run cap ops
  constructor
  · intro heq
    have hcount := congrArg List.length heq
    rw [List.length_append] at hcount
    apply List.eq_nil_of_length_eq_zero
    show ((dropOldest α cap).trace (lost cap) ops).length = 0
    have hcount' : ((dropOldest α cap).trace popped ops).length +
        ((dropOldest α cap).run ops).length = (ops.flatMap pushed).length := hcount
    omega
  · intro hnil
    apply hsub.eq_of_length
    rw [List.length_append, ← hlen]
    show _ = _ + (M.trace (lost cap) ops).length + _
    rw [hnil]
    rfl

end DropOldest
end Lib
