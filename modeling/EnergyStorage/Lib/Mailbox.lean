import EnergyStorage.Lib.Machine
import Mathlib.Data.List.Sublists

/-! # A slot for the latest value

Posters put their value into a slot, over the value before it, and announce it by a marker
in a queue, unless a marker is already on its way.  The reader takes a marker off the queue
and then whatever the slot holds.  The store, the push, the taking of the marker and the
taking of the value are steps of their own. -/

namespace Lib

structure Mailbox (α : Type*) where
  slot : Option α := none
  /-- A marker is on its way. -/
  marked : Bool := false
  /-- Posters that have stored and not pushed their marker yet. -/
  pushing : Nat := 0
  queued : Nat := 0
  /-- The reader has a marker and has not looked into the slot yet. -/
  taking : Bool := false
  holding : Option α := none

inductive MailboxStep (α : Type*)
  | store (a : α)
  | push
  | pop
  | take
  | finish
  | clear

namespace Mailbox

variable {α : Type*}

/-- The reader has nothing in its hands. -/
def Free (m : Mailbox α) : Prop := m.taking = false ∧ m.holding = none

instance (m : Mailbox α) : Decidable m.Free := inferInstanceAs (Decidable (_ ∧ _))

def step (m : Mailbox α) : MailboxStep α → Mailbox α
  | .store a =>
    { m with slot := some a, marked := true,
             pushing := if m.marked = true then m.pushing else m.pushing + 1 }
  | .push =>
    if m.pushing = 0 then m else { m with pushing := m.pushing - 1, queued := m.queued + 1 }
  | .pop =>
    if m.Free ∧ m.queued ≠ 0 then { m with queued := m.queued - 1, taking := true } else m
  | .take =>
    if m.taking = true then
      { m with slot := none, marked := false, taking := false, holding := m.slot }
    else m
  | .finish => { m with holding := none }
  | .clear => { m with slot := none, marked := false }

def machine (α : Type*) : Machine (Mailbox α) (MailboxStep α) Empty :=
  ⟨{}, fun m a => (m.step a, [])⟩

/-- What a step stores. -/
def stored (_ : Mailbox α) : MailboxStep α → List α
  | .store a => [a]
  | _ => []

/-- What a step finishes. -/
def finished (m : Mailbox α) : MailboxStep α → List α
  | .finish => m.holding.toList
  | _ => []

/-- Markers that are to be pushed, in the queue, or in the hands of the reader. -/
def flights (m : Mailbox α) : Nat := m.pushing + m.queued + m.taking.toNat

def IsClear : MailboxStep α → Prop
  | .clear => True
  | _ => False

/-! ### A value in the slot is announced -/

structure Announced (m : Mailbox α) : Prop where
  marked : m.slot ≠ none → m.marked = true
  flying : m.marked = true → 0 < m.flights

theorem Announced.step {m : Mailbox α} (h : Announced m) (a : MailboxStep α) :
    Announced (m.step a) := by
  cases a with
  | store x =>
    refine ⟨fun _ => rfl, fun _ => ?_⟩
    show 0 < (if m.marked = true then m.pushing else m.pushing + 1) + m.queued + m.taking.toNat
    by_cases hm : m.marked = true
    · rw [if_pos hm]
      exact h.flying hm
    · rw [if_neg hm]
      omega
  | push =>
    rw [Mailbox.step]
    by_cases hp : m.pushing = 0
    · rw [if_pos hp]
      exact h
    · rw [if_neg hp]
      refine ⟨h.marked, fun hm => ?_⟩
      show 0 < m.pushing - 1 + (m.queued + 1) + m.taking.toNat
      omega
  | pop =>
    rw [Mailbox.step]
    by_cases hq : m.Free ∧ m.queued ≠ 0
    · rw [if_pos hq]
      refine ⟨h.marked, fun _ => ?_⟩
      exact Nat.succ_pos _
    · rw [if_neg hq]
      exact h
  | take =>
    rw [Mailbox.step]
    by_cases ht : m.taking = true
    · rw [if_pos ht]
      exact ⟨fun hs => absurd rfl hs, nofun⟩
    · rw [if_neg ht]
      exact h
  | finish => exact ⟨h.marked, h.flying⟩
  | clear => exact ⟨fun hs => absurd rfl hs, nofun⟩

theorem announced_invariant : (machine α).Invariant Announced := by
  refine ⟨⟨fun hs => absurd rfl hs, nofun⟩, ?_⟩
  intro m a hm
  exact hm.step a

/-! ### As long as nobody clears the slot -/

/-- The marker is on its way exactly once if at all, and the latest value is in the slot, in
the hands of the reader, or the last it has finished. -/
structure Kept (posted done : List α) (m : Mailbox α) : Prop where
  flights : m.flights = m.marked.toNat
  order : (done ++ m.holding.toList ++ m.slot.toList).Sublist posted
  latest : posted.getLast? = (m.slot.or m.holding).or done.getLast?
  free : m.taking = true → m.holding = none

theorem getLast?_append_toList (xs : List α) (x : Option α) :
    (xs ++ x.toList).getLast? = x.or xs.getLast? := by
  cases x with
  | none => simp
  | some a => simp

theorem Kept.step {posted done : List α} {m : Mailbox α} (h : Kept posted done m)
    {a : MailboxStep α} (ha : ¬ IsClear a) :
    Kept (posted ++ stored m a) (done ++ finished m a) (m.step a) := by
  cases a with
  | store x =>
    refine ⟨?_, ?_, ?_, h.free⟩
    · have hfl := h.flights
      show (if m.marked = true then m.pushing else m.pushing + 1) + m.queued + m.taking.toNat = 1
      unfold Mailbox.flights at hfl
      cases hm : m.marked with
      | true =>
        rw [hm] at hfl
        rw [if_pos rfl]
        exact hfl
      | false =>
        rw [hm] at hfl
        rw [if_neg Bool.false_ne_true]
        simp only [Bool.toNat_false] at hfl
        omega
    · show (done ++ [] ++ m.holding.toList ++ [x]).Sublist (posted ++ [x])
      rw [List.append_nil]
      have hless : (done ++ m.holding.toList).Sublist posted :=
        (List.sublist_append_left _ _).trans h.order
      exact hless.append (List.Sublist.refl _)
    · show (posted ++ [x]).getLast? = _
      rw [List.getLast?_concat]
      rfl
  | push =>
    show Kept (posted ++ []) (done ++ []) _
    rw [List.append_nil, List.append_nil, Mailbox.step]
    by_cases hp : m.pushing = 0
    · rw [if_pos hp]
      exact h
    · rw [if_neg hp]
      refine ⟨?_, h.order, h.latest, h.free⟩
      rw [← h.flights]
      show m.pushing - 1 + (m.queued + 1) + m.taking.toNat = m.pushing + m.queued + m.taking.toNat
      omega
  | pop =>
    show Kept (posted ++ []) (done ++ []) _
    rw [List.append_nil, List.append_nil, Mailbox.step]
    by_cases hq : m.Free ∧ m.queued ≠ 0
    · rw [if_pos hq]
      obtain ⟨⟨htaking, hholding⟩, hq⟩ := hq
      refine ⟨?_, h.order, h.latest, fun _ => hholding⟩
      rw [← h.flights]
      show m.pushing + (m.queued - 1) + 1 = m.pushing + m.queued + m.taking.toNat
      rw [htaking, Bool.toNat_false]
      omega
    · rw [if_neg hq]
      exact h
  | take =>
    show Kept (posted ++ []) (done ++ []) _
    rw [List.append_nil, List.append_nil, Mailbox.step]
    by_cases ht : m.taking = true
    · rw [if_pos ht]
      have hfl := h.flights
      have hhold := h.free ht
      have hone : m.marked.toNat ≤ 1 := Bool.toNat_le _
      refine ⟨?_, ?_, ?_, nofun⟩
      · show m.pushing + m.queued + 0 = 0
        unfold Mailbox.flights at hfl
        rw [ht, Bool.toNat_true] at hfl
        omega
      · have horder := h.order
        rw [hhold, Option.toList_none, List.append_nil] at horder
        show (done ++ m.slot.toList ++ []).Sublist posted
        rw [List.append_nil]
        exact horder
      · rw [h.latest, hhold, Option.or_none]
        rfl
    · rw [if_neg ht]
      exact h
  | finish =>
    show Kept (posted ++ []) (done ++ m.holding.toList) _
    rw [List.append_nil]
    refine ⟨h.flights, ?_, ?_, fun _ => rfl⟩
    · show (done ++ m.holding.toList ++ [] ++ m.slot.toList).Sublist posted
      rw [List.append_nil]
      exact h.order
    · show posted.getLast? = (m.slot.or none).or (done ++ m.holding.toList).getLast?
      rw [getLast?_append_toList, Option.or_none, h.latest, Option.or_assoc]
  | clear => exact absurd trivial ha

theorem kept_run {as : List (MailboxStep α)} (h : ∀ a ∈ as, ¬ IsClear a) :
    Kept ((machine α).trace stored as) ((machine α).trace finished as) ((machine α).run as) := by
  induction as using List.reverseRecOn with
  | nil => exact ⟨rfl, List.Sublist.refl _, rfl, nofun⟩
  | append_singleton as a ih =>
    have hbefore := ih fun x hx => h x (List.mem_append_left _ hx)
    rw [Machine.trace_snoc, Machine.trace_snoc, Machine.run_snoc]
    exact hbefore.step (h a (List.mem_append_right _ (List.mem_singleton_self a)))

end Mailbox
end Lib
