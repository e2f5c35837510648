import EnergyStorage.Driver.CanThread

/-! # The frames that reach the bus

A frame leaves the queue after its write, so no outcome of a write loses it, and a lost
connection only delays it. -/

namespace EnergyStorage
namespace Driver

open Lib

namespace CanThread

/-- The queued frames that the bus has not taken: the frame in front is still in the queue
when its write has just succeeded. -/
def unsent (s : CanThread) : List CanFrame :=
  match s.writer with
  | .popping _ => s.txQueue.tail
  | .waiting | .looking | .draining | .writing _ => s.txQueue

/-- The frame in the hands of the thread. -/
def inHand (s : CanThread) : Option CanFrame :=
  match s.writer with
  | .writing frame | .popping frame => some frame
  | .waiting | .looking | .draining => none

/-- The thread is in the loop of `handleWrite`. -/
def InLoop (s : CanThread) : Prop := s.writer ≠ .waiting ∧ s.writer ≠ .looking

structure Flows (s : CanThread) : Prop where
  inOrder : s.queued = s.bus ++ s.unsent
  front : ∀ frame, s.inHand = some frame → s.txQueue.head? = some frame
  connected : s.InLoop → s.needReconnect = false

variable {s t : CanThread}

/-- A step that moves no frame outside the loop keeps the frames in order. -/
theorem Flows.of_flow (h : s.Flows) (hflow : t.flow = s.flow)
    (hconn : t.InLoop → t.needReconnect = false) : t.Flows := by
  simp only [flow, Prod.mk.injEq] at hflow
  obtain ⟨htx, hqueued, hbus, hwriter⟩ := hflow
  have hunsent : t.unsent = s.unsent := by
    unfold unsent
    rw [hwriter, htx]
  have hhand : t.inHand = s.inHand := by
    unfold inHand
    rw [hwriter]
  refine ⟨?_, ?_, hconn⟩
  · rw [hqueued, hbus, hunsent]
    exact h.inOrder
  · intro frame hframe
    rw [htx]
    exact h.front frame (hhand ▸ hframe)

/-- So does a step outside the loop that ends at a place where no frame is in hand. -/
theorem Flows.of_place (h : s.Flows) (hhand : s.inHand = none) {w : CanWriter}
    (hw : w = .waiting ∨ w = .looking ∨ (w = .draining ∧ s.needReconnect = false)) :
    ({ s with writer := w } : CanThread).Flows := by
  have hunsent : s.unsent = s.txQueue := by
    unfold unsent
    unfold inHand at hhand
    cases hs : s.writer <;> simp_all
  have hall : s.queued = s.bus ++ s.txQueue := hunsent ▸ h.inOrder
  rcases hw with rfl | rfl | ⟨rfl, hconn⟩
  · exact ⟨hall, nofun, fun hin => absurd rfl hin.1⟩
  · exact ⟨hall, nofun, fun hin => absurd rfl hin.2⟩
  · exact ⟨hall, nofun, fun _ => hconn⟩

theorem inHand_of_waiting (h : s.writer = .waiting) : s.inHand = none := by
  unfold inHand
  rw [h]

theorem not_inLoop_of_waiting (h : s.writer = .waiting) : ¬ s.InLoop := fun hin => hin.1 h

theorem tryReconnect_writer (s : CanThread) (nowMs : Nat) (result : Reopened) :
    (s.tryReconnect nowMs result).writer = s.writer :=
  congrArg (fun f => f.2.2.2) (s.tryReconnect_flow nowMs result)

theorem Flows.tryReconnect (h : s.Flows) (hw : s.writer = .waiting) (nowMs : Nat)
    (result : Reopened) : (s.tryReconnect nowMs result).Flows := by
  refine h.of_flow (s.tryReconnect_flow nowMs result) (fun hin => absurd hin ?_)
  exact not_inLoop_of_waiting (by rw [tryReconnect_writer, hw])

theorem Flows.handleWrite (h : s.Flows) (hhand : s.inHand = none) : s.handleWrite.Flows := by
  rcases s.handleWrite_cases with ⟨_, heq⟩ | ⟨hneed, heq⟩
  · rw [heq]
    exact h
  · rw [heq]
    exact h.of_place hhand (Or.inr (Or.inr ⟨rfl, hneed⟩))

theorem Flows.markNeedReconnect (h : s.Flows) (hw : s.writer = .waiting) (nowMs : Nat) :
    (s.markNeedReconnect nowMs).Flows := by
  refine h.of_flow ?_ (fun hin => absurd hin ?_)
  · unfold flow
    rw [markNeedReconnect_txQueue, markNeedReconnect_queued, markNeedReconnect_bus,
      markNeedReconnect_writer]
  · exact not_inLoop_of_waiting (by rw [markNeedReconnect_writer, hw])

theorem Flows.send (h : s.Flows) (frame : CanFrame) : (s.send frame).Flows := by
  have hhand : (s.send frame).inHand = s.inHand := rfl
  have hne : s.inHand ≠ none → s.txQueue ≠ [] := by
    intro hsome hnil
    cases hs : s.inHand with
    | none => exact hsome hs
    | some f =>
      have hfront := h.front f hs
      rw [hnil] at hfront
      cases hfront
  refine ⟨?_, ?_, h.connected⟩
  · have hunsent : (s.send frame).unsent = s.unsent ++ [frame] := by
      simp only [unsent, CanThread.send]
      cases hs : s.writer with
      | popping f => exact List.tail_append_of_ne_nil (hne (by simp [inHand, hs]))
      | waiting => rfl
      | looking => rfl
      | draining => rfl
      | writing f => rfl
    show s.queued ++ [frame] = s.bus ++ (s.send frame).unsent
    rw [hunsent, h.inOrder, List.append_assoc]
  · intro f hf
    rw [hhand] at hf
    show (s.txQueue ++ [frame]).head? = some f
    rw [List.head?_append_of_ne_nil _ (hne (by simp [hf]))]
    exact h.front f hf

theorem Flows.event (h : s.Flows) (nowMs : Nat) (result : Reopened) :
    (s.event nowMs result).Flows := by
  unfold CanThread.event
  dsimp only
  split_ifs with hguard hrun
  · exact h.of_flow rfl h.connected
  · have hcleared : ({ s with eventCount := 0 } : CanThread).Flows := h.of_flow rfl h.connected
    have htried := hcleared.tryReconnect hguard.1 nowMs result
    exact htried.of_place (inHand_of_waiting (by rw [tryReconnect_writer]; exact hguard.1))
      (Or.inr (Or.inl rfl))
  · exact h

theorem Flows.look (h : s.Flows) : s.look.Flows := by
  unfold CanThread.look
  dsimp only
  split_ifs with hlooking hpending
  · have hplaced := h.of_place (by simp [inHand, hlooking]) (Or.inl rfl : CanWriter.waiting = _ ∨ _)
    exact hplaced.handleWrite rfl
  · exact h.of_place (by simp [inHand, hlooking]) (Or.inl rfl)
  · exact h

theorem Flows.ready (h : s.Flows) (fd : Int) (error output : Bool) (nowMs : Nat) :
    (s.ready fd error output nowMs).Flows := by
  unfold CanThread.ready
  split_ifs with hguard
  · exact h.markNeedReconnect hguard.1 nowMs
  · exact h.handleWrite (inHand_of_waiting hguard.1)
  · exact h
  · exact h

theorem Flows.front' (h : s.Flows) : s.front.Flows := by
  unfold CanThread.front
  split_ifs with hdraining hrun
  · exact h.of_place (by simp [inHand, hdraining]) (Or.inl rfl)
  · have hconn : s.needReconnect = false := h.connected (by simp [InLoop, hdraining])
    have hall : s.queued = s.bus ++ s.txQueue := by
      have hin := h.inOrder
      rwa [unsent, hdraining] at hin
    cases hhead : s.txQueue.head? with
    | none => exact h.of_place (by simp [inHand, hdraining]) (Or.inl rfl)
    | some frame =>
      refine ⟨hall, ?_, fun _ => hconn⟩
      rintro f ⟨⟩
      exact hhead
  · exact h

theorem Flows.write (h : s.Flows) (outcome : CanWrite) (nowMs : Nat) :
    (s.write outcome nowMs).Flows := by
  unfold CanThread.write
  cases hw : s.writer with
  | waiting => exact h
  | looking => exact h
  | draining => exact h
  | popping f => exact h
  | writing frame =>
    have hconn : s.needReconnect = false := h.connected (by simp [InLoop, hw])
    have hfront : s.txQueue.head? = some frame := h.front frame (by simp [inHand, hw])
    have hall : s.queued = s.bus ++ s.txQueue := by
      have hin := h.inOrder
      rwa [unsent, hw] at hin
    cases hout : s.driverSend outcome with
    | taken =>
      refine ⟨?_, ?_, fun _ => hconn⟩
      · show s.queued = s.bus ++ [frame] ++ s.txQueue.tail
        rw [hall, List.append_assoc, List.singleton_append, List.cons_head?_tail hfront]
      · rintro f ⟨⟩
        exact hfront
    | refused errno =>
      have hback : ({ s with refused := true, writer := .waiting } : CanThread).Flows :=
        ⟨hall, nofun, fun hin => absurd rfl hin.1⟩
      dsimp only
      split_ifs
      · exact hback.markNeedReconnect rfl nowMs
      · exact hback

theorem Flows.pop (h : s.Flows) : s.pop.Flows := by
  unfold CanThread.pop
  cases hw : s.writer with
  | waiting => exact h
  | looking => exact h
  | draining => exact h
  | writing f => exact h
  | popping frame =>
    have hconn : s.needReconnect = false := h.connected (by simp [InLoop, hw])
    refine ⟨?_, nofun, fun _ => hconn⟩
    have hin := h.inOrder
    rwa [unsent, hw] at hin

theorem Flows.step (h : s.Flows) (e : CanStep) : (s.step e).Flows := by
  cases e with
  | send frame => exact h.send frame
  | wakeup =>
    show s.wakeup.Flows
    unfold CanThread.wakeup
    split_ifs
    · exact h
    · exact h.of_flow rfl h.connected
  | stop => exact h.of_flow rfl h.connected
  | event nowMs result => exact h.event nowMs result
  | look => exact h.look
  | ready fd error output nowMs => exact h.ready fd error output nowMs
  | reconnect nowMs result =>
    show (s.reconnect nowMs result).Flows
    unfold CanThread.reconnect
    split_ifs with hw
    · exact h.tryReconnect hw nowMs result
    · exact h
  | front => exact h.front'
  | write outcome nowMs => exact h.write outcome nowMs
  | pop => exact h.pop

end CanThread

theorem canThread_flows (socketFd : Int) (startMs : Nat) :
    (canThread socketFd startMs).Invariant CanThread.Flows where
  start := ⟨rfl, nofun, fun hin => absurd rfl hin.1⟩
  step _ e h := h.step e

/-! ### What the bus takes -/

namespace CanThread

variable {s : CanThread}

theorem tryReconnect_bus (s : CanThread) (nowMs : Nat) (result : Reopened) :
    (s.tryReconnect nowMs result).bus = s.bus :=
  congrArg (fun f => f.2.2.1) (s.tryReconnect_flow nowMs result)

theorem handleWrite_bus (s : CanThread) : s.handleWrite.bus = s.bus := by
  rcases s.handleWrite_cases with ⟨_, heq⟩ | ⟨_, heq⟩ <;> rw [heq]

/-- Only a write changes what the bus has taken. -/
theorem step_bus {e : CanStep} (he : ∀ outcome nowMs, e ≠ .write outcome nowMs) :
    (s.step e).bus = s.bus := by
  cases e with
  | send frame => rfl
  | wakeup =>
    show s.wakeup.bus = s.bus
    unfold CanThread.wakeup
    split_ifs <;> rfl
  | stop => rfl
  | event nowMs result =>
    show (s.event nowMs result).bus = s.bus
    unfold CanThread.event
    dsimp only
    split_ifs
    · rfl
    · exact tryReconnect_bus _ nowMs result
    · rfl
  | look =>
    show s.look.bus = s.bus
    unfold CanThread.look
    dsimp only
    split_ifs
    · exact handleWrite_bus _
    · rfl
    · rfl
  | ready fd error output nowMs =>
    show (s.ready fd error output nowMs).bus = s.bus
    unfold CanThread.ready
    split_ifs
    · exact markNeedReconnect_bus s nowMs
    · exact handleWrite_bus s
    · rfl
    · rfl
  | reconnect nowMs result =>
    show (s.reconnect nowMs result).bus = s.bus
    unfold CanThread.reconnect
    split_ifs
    · exact tryReconnect_bus s nowMs result
    · rfl
  | front =>
    show s.front.bus = s.bus
    unfold CanThread.front
    split_ifs <;> rfl
  | write outcome nowMs => exact absurd rfl (he outcome nowMs)
  | pop =>
    show s.pop.bus = s.bus
    unfold CanThread.pop
    split <;> rfl

/-- A write adds the frame in front, over an open socket that is not to be replaced. -/
theorem Flows.write_bus (h : s.Flows) (outcome : CanWrite) (nowMs : Nat) :
    (s.write outcome nowMs).bus = s.bus ∨
      s.needReconnect = false ∧ 0 ≤ s.socketFd ∧
        ∃ frame, s.txQueue.head? = some frame ∧
          (s.write outcome nowMs).bus = s.bus ++ [frame] := by
  unfold CanThread.write
  cases hw : s.writer with
  | waiting => exact Or.inl rfl
  | looking => exact Or.inl rfl
  | draining => exact Or.inl rfl
  | popping f => exact Or.inl rfl
  | writing frame =>
    cases hout : s.driverSend outcome with
    | taken =>
      refine Or.inr ⟨h.connected (by simp [InLoop, hw]), ?_, frame, ?_, rfl⟩
      · by_contra hneg
        rw [driverSend, if_pos (by omega)] at hout
        cases hout
      · exact h.front frame (by simp [inHand, hw])
    | refused errno =>
      refine Or.inl ?_
      dsimp only
      split_ifs
      · exact markNeedReconnect_bus _ nowMs
      · rfl

end CanThread

/-- Whatever senders, losses of the connection and refused writes come in between, the bus has
taken the queued frames in their order, each once and none left out, and the rest is still in
the queue.  A step adds at most the frame in front, and only while the socket is open and no
reconnect is due. -/
theorem frames_taken_in_order (socketFd : Int) (startMs : Nat) (es : List CanStep) :
    let s := (canThread socketFd startMs).run es
    s.queued = s.bus ++ s.unsent ∧
      ∀ e, (s.step e).bus = s.bus ∨
        s.needReconnect = false ∧ 0 ≤ s.socketFd ∧
          ∃ frame, s.txQueue.head? = some frame ∧ (s.step e).bus = s.bus ++ [frame] := by
  intro s
  have hs : s.Flows := (canThread_flows socketFd startMs).run es
  refine ⟨hs.inOrder, fun e => ?_⟩
  by_cases he : ∃ outcome nowMs, e = .write outcome nowMs
  · obtain ⟨outcome, nowMs, rfl⟩ := he
    exact hs.write_bus outcome nowMs
  · push Not at he
    exact Or.inl (CanThread.step_bus he)

end Driver
end EnergyStorage
