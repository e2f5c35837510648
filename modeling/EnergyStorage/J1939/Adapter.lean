import EnergyStorage.Can.Frame
import EnergyStorage.Lib.Ring

/-! # The receive queues under the J1939 library

The library reads one frame at a time and knows no channels: which of the eight queues it reads
is set before.  Each queue is a ring of 256 frames. -/

namespace EnergyStorage
namespace J1939

open Lib

def maxCanChannels : Nat := 8
def rxqCap : Nat := 256

structure OpensaeFrame where
  id : BitVec 32
  dlc : Nat
  data : BitVec 64
  deriving DecidableEq

/-- The first `n` of eight data bytes, followed by zeros. -/
def firstBytes (n : Nat) (data : BitVec 64) : BitVec 64 := (data.setWidth (8 * n)).setWidth 64

structure Adapter where
  rxq : Fin maxCanChannels → Ring OpensaeFrame rxqCap
  activeCanIndex : Int

inductive AdapterStep
  | setActive (canIndex : Int)
  | clear (canIndex : Int)
  | push (canIndex : Int) (canId : BitVec 32) (dlc : Nat) (data : Option (BitVec 64))
  | read

/-- The queue of a channel, where there is one. -/
def channel (canIndex : Int) : Option (Fin maxCanChannels) :=
  if h : 0 ≤ canIndex ∧ canIndex < maxCanChannels then some ⟨canIndex.toNat, by omega⟩ else none

/-- The cells of the rings as the program starts. -/
def zeroFrame : OpensaeFrame := ⟨0#32, 0, 0#64⟩

def emptyRxq : Ring OpensaeFrame rxqCap := Ring.empty (fun _ => zeroFrame) (by decide)

def storedFrame (canId : BitVec 32) (dlc : Nat) (data : Option (BitVec 64)) : OpensaeFrame :=
  ⟨canId, dlc, (data.map (firstBytes (min dlc 8))).getD 0#64⟩

namespace Adapter

/-- `f` on the queue of channel `c`. -/
def setRxq (s : Adapter) (c : Fin maxCanChannels) (q : Ring OpensaeFrame rxqCap) : Adapter :=
  { s with rxq := Function.update s.rxq c q }

def setActiveCanIndex (s : Adapter) (canIndex : Int) : Adapter :=
  { s with
    activeCanIndex :=
      if canIndex < 0 then 0
      else if maxCanChannels ≤ canIndex then maxCanChannels - 1 else canIndex }

def clearRxQueue (s : Adapter) (canIndex : Int) : Adapter :=
  match channel canIndex with
  | none => s
  | some c =>
    let q := s.rxq c
    s.setRxq c (Ring.empty q.cells q.cap_pos)

def pushRxFrame (s : Adapter) (canIndex : Int) (canId : BitVec 32) (dlc : Nat)
    (data : Option (BitVec 64)) : Adapter :=
  match channel canIndex with
  | none => s
  | some c => s.setRxq c ((s.rxq c).push (storedFrame canId dlc data))

/-- The frame, where there is one; the library takes its identifier and its eight bytes. -/
def canReadMessage (s : Adapter) : Option OpensaeFrame × Adapter :=
  match channel s.activeCanIndex with
  | none => (none, s)
  | some c => ((s.rxq c).pop.1, s.setRxq c (s.rxq c).pop.2)

def step (s : Adapter) : AdapterStep → Adapter × List OpensaeFrame
  | .setActive canIndex => (s.setActiveCanIndex canIndex, [])
  | .clear canIndex => (s.clearRxQueue canIndex, [])
  | .push canIndex canId dlc data => (s.pushRxFrame canIndex canId dlc data, [])
  | .read => (s.canReadMessage.2, s.canReadMessage.1.toList)

end Adapter

def adapter : Machine Adapter AdapterStep OpensaeFrame where
  start := ⟨fun _ => emptyRxq, 0⟩
  step := Adapter.step

/-! ### One channel -/

namespace Adapter

variable {s : Adapter} {c : Fin maxCanChannels}

/-- What waits on channel `c`. -/
def waiting (c : Fin maxCanChannels) (s : Adapter) : List OpensaeFrame := (s.rxq c).toList

/-- What a step does to the queue of channel `c`. -/
def opOn (c : Fin maxCanChannels) (s : Adapter) : AdapterStep → List (QueueOp OpensaeFrame)
  | .setActive _ => []
  | .clear canIndex => if channel canIndex = some c then [.clear] else []
  | .push canIndex canId dlc data =>
    if channel canIndex = some c then [.push (storedFrame canId dlc data)] else []
  | .read => if channel s.activeCanIndex = some c then [.pop] else []

/-- What the library reads while channel `c` is the active one. -/
def readOn (c : Fin maxCanChannels) (s : Adapter) (e : AdapterStep) : List OpensaeFrame :=
  match e with
  | .read => if channel s.activeCanIndex = some c then (s.step e).2 else []
  | .setActive _ | .clear _ | .push .. => []

/-- The frames that are pushed for channel `c`. -/
def pushedOn (c : Fin maxCanChannels) : AdapterStep → List OpensaeFrame
  | .push canIndex canId dlc data =>
    if channel canIndex = some c then [storedFrame canId dlc data] else []
  | .setActive _ | .clear _ | .read => []

theorem opOn_clear (s : Adapter) (canIndex : Int) :
    s.opOn c (.clear canIndex) = if channel canIndex = some c then [.clear] else [] := rfl

theorem opOn_push (s : Adapter) (canIndex : Int) (canId : BitVec 32) (dlc : Nat)
    (data : Option (BitVec 64)) :
    s.opOn c (.push canIndex canId dlc data) =
      if channel canIndex = some c then [.push (storedFrame canId dlc data)] else [] := rfl

theorem opOn_read (s : Adapter) :
    s.opOn c .read = if channel s.activeCanIndex = some c then [.pop] else [] := rfl

theorem waiting_setRxq (s : Adapter) (d : Fin maxCanChannels) (q : Ring OpensaeFrame rxqCap) :
    (s.setRxq d q).waiting c = if d = c then q.toList else s.waiting c := by
  unfold setRxq waiting
  dsimp only
  split_ifs with h
  · subst h
    rw [Function.update_self]
  · rw [Function.update_of_ne (Ne.symm h)]

/-- A step on the queue of one channel, where that channel exists. -/
theorem waiting_onChannel (s : Adapter) (d : Option (Fin maxCanChannels))
    (q : Fin maxCanChannels → Ring OpensaeFrame rxqCap) (op : QueueOp OpensaeFrame)
    (hq : ∀ d, (q d).toList = (dropOldest OpensaeFrame rxqCap).runFrom (s.waiting d) [op]) :
    (d.elim s fun d => s.setRxq d (q d)).waiting c =
      (dropOldest OpensaeFrame rxqCap).runFrom (s.waiting c) (if d = some c then [op] else []) := by
  cases d with
  | none => rfl
  | some d =>
    show (s.setRxq d (q d)).waiting c = _
    rw [waiting_setRxq]
    by_cases h : d = c
    · subst h
      rw [if_pos rfl, if_pos rfl]
      exact hq d
    · rw [if_neg h, if_neg fun heq => h (Option.some_inj.mp heq)]
      rfl

/-- Each step is, for the queue of a channel, an operation on it or nothing. -/
theorem waiting_step (s : Adapter) (e : AdapterStep) :
    (s.step e).1.waiting c =
      (dropOldest OpensaeFrame rxqCap).runFrom (s.waiting c) (s.opOn c e) := by
  cases e with
  | setActive canIndex => rfl
  | clear canIndex =>
    have hclear : (s.step (.clear canIndex)).1 = (channel canIndex).elim s fun d =>
        s.setRxq d (Ring.empty (s.rxq d).cells (s.rxq d).cap_pos) := by
      show s.clearRxQueue canIndex = _
      unfold clearRxQueue
      cases channel canIndex <;> rfl
    rw [hclear, opOn_clear]
    exact s.waiting_onChannel _ _ .clear fun _ => rfl
  | push canIndex canId dlc data =>
    have hpush : (s.step (.push canIndex canId dlc data)).1 = (channel canIndex).elim s fun d =>
        s.setRxq d ((s.rxq d).push (storedFrame canId dlc data)) := by
      show s.pushRxFrame canIndex canId dlc data = _
      unfold pushRxFrame
      cases channel canIndex <;> rfl
    rw [hpush, opOn_push]
    refine s.waiting_onChannel _ _ (.push (storedFrame canId dlc data)) fun d => ?_
    rw [(s.rxq d).toList_push, dropOldest_push, waiting]
  | read =>
    have hread : (s.step .read).1 = (channel s.activeCanIndex).elim s fun d =>
        s.setRxq d (s.rxq d).pop.2 := by
      show s.canReadMessage.2 = _
      unfold canReadMessage
      cases channel s.activeCanIndex <;> rfl
    rw [hread, opOn_read]
    exact s.waiting_onChannel _ _ .pop fun d => (s.rxq d).pop_eq.2

theorem readOn_eq (s : Adapter) (e : AdapterStep) :
    s.readOn c e =
      (dropOldest OpensaeFrame rxqCap).traceFrom QueueOp.popped (s.waiting c) (s.opOn c e) := by
  cases e with
  | setActive canIndex => rfl
  | clear canIndex =>
    rw [opOn_clear]
    split_ifs <;> rfl
  | push canIndex canId dlc data =>
    rw [opOn_push]
    split_ifs <;> rfl
  | read =>
    show (if channel s.activeCanIndex = some c then s.canReadMessage.1.toList else []) = _
    rw [opOn_read]
    split_ifs with h
    · unfold canReadMessage
      rw [h]
      show (s.rxq c).pop.1.toList = (s.waiting c).head?.toList ++ []
      rw [(s.rxq c).pop_eq.1, List.append_nil]
      rfl
    · rfl

theorem pushedOn_eq (s : Adapter) (e : AdapterStep) :
    pushedOn c e = (s.opOn c e).flatMap QueueOp.pushed := by
  cases e with
  | setActive canIndex => rfl
  | clear canIndex =>
    rw [opOn_clear]
    split_ifs <;> rfl
  | push canIndex canId dlc data =>
    rw [opOn_push, pushedOn]
    split_ifs <;> rfl
  | read =>
    rw [opOn_read]
    split_ifs <;> rfl

/-- The step finds room for what it pushes, and nothing to clear, on channel `c`. -/
def Keeps (c : Fin maxCanChannels) (s : Adapter) : AdapterStep → Prop
  | .push canIndex .. => channel canIndex = some c → (s.waiting c).length < rxqCap
  | .clear canIndex => channel canIndex = some c → s.waiting c = []
  | .setActive _ | .read => True

theorem keeps_iff (s : Adapter) (e : AdapterStep) :
    s.Keeps c e ↔ (dropOldest OpensaeFrame rxqCap).traceFrom (QueueOp.lost rxqCap) (s.waiting c)
      (s.opOn c e) = [] := by
  cases e with
  | setActive canIndex => exact iff_of_true trivial rfl
  | clear canIndex =>
    rw [opOn_clear, Keeps]
    split_ifs with h
    · show (_ → s.waiting c = []) ↔ s.waiting c ++ [] = []
      rw [List.append_nil]
      exact ⟨fun hkeep => hkeep h, fun hnil _ => hnil⟩
    · exact iff_of_true (fun heq => absurd heq h) rfl
  | push canIndex canId dlc data =>
    rw [opOn_push, Keeps]
    split_ifs with h
    · have hlost : (dropOldest OpensaeFrame rxqCap).traceFrom (QueueOp.lost rxqCap) (s.waiting c)
          [.push (storedFrame canId dlc data)] =
          (s.waiting c ++ [storedFrame canId dlc data]).take
            ((s.waiting c).length + 1 - rxqCap) := by
        rw [Machine.traceFrom, Machine.traceFrom, List.append_nil, QueueOp.lost,
          List.length_append, List.length_singleton]
      rw [hlost, List.take_eq_nil_iff]
      constructor
      · intro hroom
        have := hroom h
        exact Or.inl (by omega)
      · rintro (hzero | hnil) _
        · omega
        · exact absurd hnil (List.append_ne_nil_of_right_ne_nil _ (List.cons_ne_nil _ _))
    · exact iff_of_true (fun heq => absurd heq h) rfl
  | read =>
    refine iff_of_true trivial ?_
    rw [opOn_read]
    split_ifs <;> rfl

end Adapter

section Run

variable (c : Fin maxCanChannels) (es : List AdapterStep)

/-- The operations on the queue of channel `c` in a run. -/
def opsOn : List (QueueOp OpensaeFrame) := adapter.trace (Adapter.opOn c) es

theorem waiting_start :
    Adapter.waiting c adapter.start = (dropOldest OpensaeFrame rxqCap).start :=
  rfl

theorem waiting_run :
    (adapter.run es).waiting c = (dropOldest OpensaeFrame rxqCap).run (opsOn c es) :=
  adapter.refines (dropOldest OpensaeFrame rxqCap) (waiting_start c)
    (fun pre e => (adapter.run pre).waiting_step e) es

theorem trace_readOn :
    adapter.trace (Adapter.readOn c) es =
      (dropOldest OpensaeFrame rxqCap).trace QueueOp.popped (opsOn c es) := by
  rw [opsOn, ← adapter.trace_refines (dropOldest OpensaeFrame rxqCap) (waiting_start c)
    (fun pre e => (adapter.run pre).waiting_step e)]
  congr 1
  funext s e
  exact s.readOn_eq e

theorem pushed_opsOn :
    (opsOn c es).flatMap QueueOp.pushed = es.flatMap (Adapter.pushedOn c) := by
  induction es using List.reverseRecOn with
  | nil => rfl
  | append_singleton es e ih =>
    rw [opsOn, adapter.trace_snoc, List.flatMap_append, List.flatMap_append,
      List.flatMap_singleton, Adapter.pushedOn_eq (adapter.run es) e, ← ih, opsOn]

/-- However frames for the eight channels, reads and changes of the active channel follow each
other, what the library has read on a channel and what waits there are frames pushed for that
channel, each once and in their order, and what waits are the last of them.  None is missing
exactly when each push found fewer than 256 frames waiting and no queue was cleared with frames
in it. -/
theorem channel_in_order (c : Fin maxCanChannels) (es : List AdapterStep) :
    let s := adapter.run es
    let read := adapter.trace (Adapter.readOn c) es
    let pushed := es.flatMap (Adapter.pushedOn c)
    (read ++ s.waiting c).Sublist pushed ∧ s.waiting c <:+ pushed ∧
      (s.waiting c).length ≤ rxqCap ∧
      (read ++ s.waiting c = pushed ↔ adapter.EveryStep (Adapter.Keeps c) es) := by
  intro s read pushed
  have hread : read = (dropOldest OpensaeFrame rxqCap).trace QueueOp.popped (opsOn c es) :=
    trace_readOn c es
  have hpushed : pushed = (opsOn c es).flatMap QueueOp.pushed := (pushed_opsOn c es).symm
  have hwaiting : s.waiting c = (dropOldest OpensaeFrame rxqCap).run (opsOn c es) :=
    waiting_run c es
  obtain ⟨hsub, hsuffix, -⟩ := dropOldest_run rxqCap (opsOn c es)
  refine ⟨?_, ?_, ?_, ?_⟩
  · rw [hread, hpushed, hwaiting]
    exact hsub
  · rw [hpushed, hwaiting]
    exact hsuffix
  · show (s.rxq c).toList.length ≤ rxqCap
    rw [Ring.length_toList]
    exact (s.rxq c).count_le
  · have hlost := adapter.trace_refines (dropOldest OpensaeFrame rxqCap) (waiting_start c)
      (fun pre e => (adapter.run pre).waiting_step e) (QueueOp.lost rxqCap) es
    have hkeeps : adapter.EveryStep (Adapter.Keeps c) es ↔
        (dropOldest OpensaeFrame rxqCap).trace (QueueOp.lost rxqCap) (opsOn c es) = [] := by
      rw [opsOn, ← hlost, adapter.trace_eq_nil_iff]
      exact forall_congr' fun pre => forall_congr' fun e => imp_congr_right fun _ =>
        (adapter.run pre).keeps_iff e
    rw [hkeeps, hread, hpushed, hwaiting]
    exact dropOldest_exact_iff rxqCap (opsOn c es)

end Run

end J1939
end EnergyStorage
