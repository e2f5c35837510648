import EnergyStorage.Driver.CanSending

/-! # Waking the thread of a CAN interface

A frame in the queue has somebody who sees to it, unless the bus has refused it since; and one
wake-up is enough for all the frames that wait. -/

namespace EnergyStorage
namespace Driver

open Lib

namespace CanThread

/-- A sender is about to wake the thread, it has been woken, it is at work, the connection is
to be mended, or the last frame it tried has been refused. -/
def Attended (s : CanThread) : Prop :=
  0 < s.notifying ∨ 0 < s.eventCount ∨ s.writer ≠ .waiting ∨ s.needReconnect = true ∨
    s.refused = true

def Woken (s : CanThread) : Prop := s.running = true → s.txQueue ≠ [] → s.Attended

variable {s : CanThread}

theorem attended_of_event (h : 0 < s.eventCount) : s.Attended := Or.inr (Or.inl h)

theorem attended_of_writer (h : s.writer ≠ .waiting) : s.Attended := Or.inr (Or.inr (Or.inl h))

theorem attended_of_need (h : s.needReconnect = true) : s.Attended :=
  Or.inr (Or.inr (Or.inr (Or.inl h)))

theorem attended_handleWrite (s : CanThread) : s.handleWrite.Attended := by
  rcases s.handleWrite_cases with ⟨hneed, heq⟩ | ⟨_, heq⟩
  · rw [heq]
    exact attended_of_need hneed
  · rw [heq]
    exact attended_of_writer nofun

theorem Woken.tryReconnect (h : s.Woken) (nowMs : Nat) (result : Reopened) :
    (s.tryReconnect nowMs result).Woken := by
  unfold CanThread.tryReconnect
  split_ifs
  · exact h
  · exact h
  · cases result with
    | failed => exact fun _ _ => attended_of_event (Nat.succ_pos _)
    | unregistered fd => exact fun _ _ => attended_of_event (Nat.succ_pos _)
    | «open» fd =>
      dsimp only
      split_ifs with hnil
      · exact fun _ hne => absurd hnil hne
      · exact fun _ _ => attended_of_event (Nat.succ_pos _)

theorem Woken.step (h : s.Woken) (e : CanStep) : (s.step e).Woken := by
  cases e with
  | send frame => exact fun _ _ => Or.inl (Nat.succ_pos _)
  | wakeup =>
    show s.wakeup.Woken
    unfold CanThread.wakeup
    split_ifs
    · exact h
    · exact fun _ _ => attended_of_event (Nat.succ_pos _)
  | stop => exact fun hrun => absurd hrun Bool.false_ne_true
  | event nowMs result =>
    show (s.event nowMs result).Woken
    unfold CanThread.event
    dsimp only
    split_ifs with hguard hstopped
    · exact fun hrun => absurd (hrun.symm.trans hstopped) Bool.noConfusion
    · exact fun _ _ => attended_of_writer nofun
    · exact h
  | look =>
    show s.look.Woken
    unfold CanThread.look
    dsimp only
    split_ifs with hlooking hpending
    · exact fun _ _ => attended_handleWrite _
    · -- frames wait, so the connection is to be mended
      refine fun _ hne => attended_of_need ?_
      show s.needReconnect = true
      by_contra hneed
      exact hpending ⟨Bool.eq_false_iff.mpr hneed, hne⟩
    · exact h
  | ready fd error output nowMs =>
    show (s.ready fd error output nowMs).Woken
    unfold CanThread.ready
    split_ifs
    · exact fun _ _ => attended_of_need (markNeedReconnect_needReconnect s nowMs)
    · exact fun _ _ => attended_handleWrite s
    · exact h
    · exact h
  | reconnect nowMs result =>
    show (s.reconnect nowMs result).Woken
    unfold CanThread.reconnect
    split_ifs
    · exact h.tryReconnect nowMs result
    · exact h
  | front =>
    show s.front.Woken
    unfold CanThread.front
    split_ifs with hdraining hstopped
    · exact fun hrun => absurd (hrun.symm.trans hstopped) Bool.noConfusion
    · intro _ hne
      cases hhead : s.txQueue.head? with
      | none => exact absurd (List.head?_eq_none_iff.mp hhead) hne
      | some frame => exact attended_of_writer nofun
    · exact h
  | write outcome nowMs =>
    show (s.write outcome nowMs).Woken
    unfold CanThread.write
    cases hw : s.writer with
    | waiting => exact h
    | looking => exact h
    | draining => exact h
    | popping f => exact h
    | writing frame =>
      cases hout : s.driverSend outcome with
      | taken => exact fun _ _ => attended_of_writer nofun
      | refused errno =>
        dsimp only
        split_ifs
        · exact fun _ _ => attended_of_need (markNeedReconnect_needReconnect _ nowMs)
        · exact fun _ _ => Or.inr (Or.inr (Or.inr (Or.inr rfl)))
  | pop =>
    show s.pop.Woken
    unfold CanThread.pop
    cases hw : s.writer with
    | popping f => exact fun _ _ => attended_of_writer nofun
    | waiting => exact h
    | looking => exact h
    | draining => exact h
    | writing f => exact h

end CanThread

/-! ### One wake-up for all frames -/

/-- The passes of the loop over `frames`, each of which the socket takes. -/
def canDrain (nowMs : Nat) (frames : List CanFrame) : List CanStep :=
  frames.flatMap (fun _ => [.front, .write .taken nowMs, .pop]) ++ [.front]

/-- The thread has sent all that was queued in `s`. -/
def CanThread.SentAll (s t : CanThread) : Prop := t.txQueue = [] ∧ t.bus = s.queued

section Run

variable {socketFd : Int} {startMs : Nat} {s : CanThread}

theorem runFrom_canDrain (socketFd : Int) (startMs nowMs : Nat) (s : CanThread)
    (hw : s.writer = .draining) (hrun : s.running = true) (hfd : 0 ≤ s.socketFd) :
    let t := (canThread socketFd startMs).runFrom s (canDrain nowMs s.txQueue)
    t.txQueue = [] ∧ t.bus = s.bus ++ s.txQueue := by
  generalize hq : s.txQueue = frames
  induction frames generalizing s with
  | nil =>
    have hfront : s.front = { s with writer := .waiting } := by
      rw [CanThread.front, if_pos hw, if_neg (by rw [hrun]; exact Bool.noConfusion), hq]
      rfl
    show s.front.txQueue = [] ∧ s.front.bus = s.bus ++ []
    rw [hfront, List.append_nil]
    exact ⟨hq, rfl⟩
  | cons frame rest ih =>
    have hfront : s.front = { s with writer := .writing frame } := by
      rw [CanThread.front, if_pos hw, if_neg (by rw [hrun]; exact Bool.noConfusion), hq]
      rfl
    have hpass : (s.front.write .taken nowMs).pop =
        { s with
          txQueue := rest, bus := s.bus ++ [frame], refused := false, writer := .draining } := by
      rw [hfront]
      simp only [CanThread.write, CanThread.driverSend, if_neg (show ¬ s.socketFd < 0 by omega),
        CanThread.pop, hq, List.tail_cons]
    have hrest := ih ((s.front.write .taken nowMs).pop) (by rw [hpass]) (by rw [hpass]; exact hrun)
      (by rw [hpass]; exact hfd) (by rw [hpass])
    have hbus : ((s.front.write .taken nowMs).pop).bus = s.bus ++ [frame] := by rw [hpass]
    rw [hbus, List.append_assoc] at hrest
    exact hrest

/-- With an empty queue there is nothing left to send. -/
theorem CanThread.Flows.sentAll_of_nil (h : s.Flows) (hw : s.writer = .waiting)
    (hnil : s.txQueue = []) : s.SentAll s := by
  have hin := h.inOrder
  rw [unsent, hw, hnil, List.append_nil] at hin
  exact ⟨hnil, hin.symm⟩

theorem front_of_waiting (hw : s.writer = .waiting) : s.front = s :=
  if_neg fun hdraining => CanWriter.noConfusion (hw.symm.trans hdraining)

theorem canDrain_nil {frames : List CanFrame} (nowMs : Nat) (h : frames = []) :
    canDrain nowMs frames = [.front] := by
  subst h
  rfl

/-- Room for a write on the socket. -/
theorem sentAll_of_ready (h : s.Flows) (hrun : s.running = true) (hw : s.writer = .waiting)
    (hneed : s.needReconnect = false) (hfd : 0 ≤ s.socketFd) (nowMs : Nat) :
    s.SentAll ((canThread socketFd startMs).runFrom s
      (.ready s.socketFd false true nowMs :: canDrain nowMs s.txQueue)) := by
  have hready : s.ready s.socketFd false true nowMs = { s with writer := .draining } := by
    rw [CanThread.ready, if_pos ⟨hw, rfl⟩, if_neg Bool.false_ne_true, if_pos rfl,
      CanThread.handleWrite, if_neg (by rw [hneed]; exact Bool.false_ne_true)]
  have hin := h.inOrder
  rw [CanThread.unsent, hw] at hin
  have hdrain := runFrom_canDrain socketFd startMs nowMs
    { s with writer := .draining } rfl hrun hfd
  show s.SentAll ((canThread socketFd startMs).runFrom (s.ready s.socketFd false true nowMs) _)
  rw [hready]
  exact ⟨hdrain.1, hdrain.2.trans hin.symm⟩

/-- The event descriptor. -/
theorem sentAll_of_event (h : s.Flows) (hrun : s.running = true) (hw : s.writer = .waiting)
    (hneed : s.needReconnect = false) (hfd : 0 ≤ s.socketFd) (hcount : 0 < s.eventCount)
    (nowMs : Nat) (result : Reopened) :
    s.SentAll ((canThread socketFd startMs).runFrom s
      (.event nowMs result :: .look :: canDrain nowMs s.txQueue)) := by
  have hevent : s.event nowMs result = { s with eventCount := 0, writer := .looking } := by
    have hstill : ({ s with eventCount := 0 } : CanThread).tryReconnect nowMs result =
        { s with eventCount := 0 } := if_pos hneed
    rw [CanThread.event, if_pos ⟨hw, hcount⟩]
    dsimp only
    rw [if_neg (by rw [hrun]; exact Bool.noConfusion), hstill]
  show s.SentAll ((canThread socketFd startMs).runFrom (s.event nowMs result).look _)
  rw [hevent]
  by_cases hnil : s.txQueue = []
  · have hlook : ({ s with eventCount := 0, writer := .looking } : CanThread).look =
        { s with eventCount := 0, writer := .waiting } := by
      rw [CanThread.look, if_pos rfl]
      exact if_neg fun hpending => hpending.2 hnil
    rw [hlook, canDrain_nil nowMs hnil]
    show s.SentAll ({ s with eventCount := 0, writer := .waiting } : CanThread).front
    rw [front_of_waiting rfl]
    exact h.sentAll_of_nil hw hnil
  · have hlook : ({ s with eventCount := 0, writer := .looking } : CanThread).look =
        { s with eventCount := 0, writer := .draining } := by
      rw [CanThread.look, if_pos rfl]
      dsimp only
      rw [if_pos ⟨hneed, hnil⟩, CanThread.handleWrite,
        if_neg (by rw [hneed]; exact Bool.false_ne_true)]
    rw [hlook]
    have hin := h.inOrder
    rw [CanThread.unsent, hw] at hin
    have hdrain := runFrom_canDrain socketFd startMs nowMs
      { s with eventCount := 0, writer := .draining } rfl hrun hfd
    exact ⟨hdrain.1, hdrain.2.trans hin.symm⟩

/-- With an empty queue, steps that find nothing to do. -/
theorem sentAll_of_idle (h : s.Flows) (hw : s.writer = .waiting) (hnil : s.txQueue = [])
    (hcount : ¬ 0 < s.eventCount) (nowMs : Nat) (result : Reopened) :
    s.SentAll ((canThread socketFd startMs).runFrom s
      (.event nowMs result :: .look :: canDrain nowMs s.txQueue)) := by
  have hevent : s.event nowMs result = s := if_neg fun hguard => hcount hguard.2
  have hlook : s.look = s := if_neg fun hlooking => CanWriter.noConfusion (hw.symm.trans hlooking)
  rw [canDrain_nil nowMs hnil]
  show s.SentAll ((s.event nowMs result).look).front
  rw [hevent, hlook, front_of_waiting hw]
  exact h.sentAll_of_nil hw hnil

/-- What a successful attempt to reconnect leaves: it wakes the thread for frames that wait. -/
theorem reconnect_open (hw : s.writer = .waiting) (hneed : s.needReconnect = true) {nowMs : Nat}
    (hdue : s.nextReconnectTp ≤ nowMs) (fd : Nat) :
    let t := s.reconnect nowMs (.open fd)
    t.flow = s.flow ∧ t.running = s.running ∧ t.needReconnect = false ∧ t.socketFd = fd ∧
      (t.txQueue ≠ [] → 0 < t.eventCount) := by
  have hopen : s.reconnect nowMs (.open fd) =
      if s.txQueue = [] then { s.recovered fd with reconnectDelay := kReconnectMin }
      else { s.recovered fd with
        reconnectDelay := kReconnectMin, eventCount := s.eventCount + 1 } := by
    rw [CanThread.reconnect, if_pos hw, CanThread.tryReconnect,
      if_neg (by rw [hneed]; exact Bool.noConfusion), if_neg (Nat.not_lt.mpr hdue)]
    rfl
  dsimp only
  rw [hopen]
  split_ifs with hnil
  · exact ⟨rfl, rfl, rfl, rfl, fun hne => absurd hnil hne⟩
  · exact ⟨rfl, rfl, rfl, rfl, fun _ => Nat.succ_pos _⟩

theorem sentAll_of_reconnect (h : s.Flows) (hrun : s.running = true) (hw : s.writer = .waiting)
    (hneed : s.needReconnect = true) {nowMs : Nat} (hdue : s.nextReconnectTp ≤ nowMs) (fd : Nat)
    (result : Reopened) :
    s.SentAll ((canThread socketFd startMs).runFrom s
      (.reconnect nowMs (.open fd) :: .event nowMs result :: .look ::
        canDrain nowMs s.txQueue)) := by
  have hafter : (s.reconnect nowMs (.open fd)).Flows := h.step (.reconnect nowMs (.open fd))
  obtain ⟨hflow, hrun', hneed', hfd, hcount⟩ := reconnect_open hw hneed hdue fd
  show s.SentAll ((canThread socketFd startMs).runFrom (s.reconnect nowMs (.open fd)) _)
  revert hafter hflow hrun' hneed' hfd hcount
  generalize s.reconnect nowMs (.open fd) = t
  intro hafter hflow hrun' hneed' hfd hcount
  simp only [CanThread.flow, Prod.mk.injEq] at hflow
  obtain ⟨htx, hqueued, _, hwriter⟩ := hflow
  have hsent : t.SentAll ((canThread socketFd startMs).runFrom t
      (.event nowMs result :: .look :: canDrain nowMs t.txQueue)) := by
    by_cases hpos : 0 < t.eventCount
    · exact sentAll_of_event hafter (hrun'.trans hrun) (hwriter.trans hw) hneed' (by omega) hpos
        nowMs result
    · have hnil : t.txQueue = [] := by
        by_contra hne
        exact hpos (hcount hne)
      exact sentAll_of_idle hafter (hwriter.trans hw) hnil hpos nowMs result
  rw [htx] at hsent
  exact ⟨hsent.1, hsent.2.trans hqueued⟩

end Run

/-- While the thread runs, a queued frame has a wake-up on its way, unless the bus has refused
it since or the connection is to be mended.  The wake-up, room for a write, or an attempt to
reconnect that succeeds brings everything that was queued to the bus, if the bus takes it. -/
theorem queued_frames_woken (socketFd : Int) (startMs : Nat) (es : List CanStep)
    (nowMs fd : Nat) (result : Reopened) :
    let M := canThread socketFd startMs
    let s := M.run es
    s.running = true →
      (s.txQueue ≠ [] → s.Attended) ∧
      (s.writer = .waiting → s.needReconnect = false → 0 ≤ s.socketFd →
        (0 < s.eventCount → s.SentAll (M.run
          (es ++ .event nowMs result :: .look :: canDrain nowMs s.txQueue))) ∧
        s.SentAll (M.run
          (es ++ .ready s.socketFd false true nowMs :: canDrain nowMs s.txQueue))) ∧
      (s.writer = .waiting → s.needReconnect = true → s.nextReconnectTp ≤ nowMs →
        s.SentAll (M.run (es ++ .reconnect nowMs (.open fd) :: .event nowMs result :: .look ::
          canDrain nowMs s.txQueue))) := by
  intro M s hrun
  have hflows : s.Flows := (canThread_flows socketFd startMs).run es
  have hwoken : s.Woken := by
    have hinv : M.Invariant CanThread.Woken :=
      ⟨fun _ hne => absurd rfl hne, fun _ e h => h.step e⟩
    exact hinv.run es
  simp only [Machine.run_append]
  refine ⟨hwoken hrun, fun hw hneed hfd => ⟨fun hcount => ?_, ?_⟩, fun hw hneed hdue => ?_⟩
  · exact sentAll_of_event hflows hrun hw hneed hfd hcount nowMs result
  · exact sentAll_of_ready hflows hrun hw hneed hfd nowMs
  · exact sentAll_of_reconnect hflows hrun hw hneed hdue fd result

/-- A command frame with a number in it. -/
def canPing (n : Nat) : CanFrame := ⟨0x1801F456#32, 8, BitVec.ofNat 64 n⟩

/-- Two frames wait while the connection is lost; a later attempt opens the socket, and both
reach the bus. -/
theorem queued_frames_woken_reopened :
    let M := canThread 5 0
    let es : List CanStep :=
      [.send (canPing 1), .wakeup, .event 10 .failed, .look, .front,
        .write (.refused .netDown) 10, .send (canPing 2), .reconnect 10 .failed]
    (M.run (es ++ .reconnect 210 (.open 6) :: .event 210 .failed :: .look ::
      canDrain 210 [canPing 1, canPing 2])).bus = [canPing 1, canPing 2] := by
  intro M es
  exact ((queued_frames_woken 5 0 es 210 6 .failed rfl).2.2 rfl rfl (by decide)).2

end Driver
end EnergyStorage
