import EnergyStorage.Driver.SerialThread

/-! # The frames that reach a serial port

A frame leaves the queue before it is written, so what its write leaves over is lost. -/

namespace EnergyStorage
namespace Driver

open Lib

namespace SerialThread

/-- The frame that has left the queue and is about to be written. -/
def inHand (s : SerialThread) : List (List Byte) :=
  match s.writer with
  | .writing data => [data]
  | .idle | .draining => []

/-- The port has had the first of the queued frames, whole and in order; the others wait, and
somebody is going to wake the thread for them. -/
structure Delivers (s : SerialThread) : Prop where
  inOrder : ∃ written, s.queued = written ++ s.inHand ++ s.txQueue ∧ s.port = written.flatten
  woken : s.txQueue ≠ [] → 0 < s.notifying ∨ 0 < s.eventCount ∨ s.writer ≠ .idle

/-- A write, where it is one, takes the whole frame. -/
def FullWrite (s : SerialThread) (e : SerialStep) : Prop :=
  ∀ data outcome, s.writer = .writing data → e = .write outcome →
    ∃ n, outcome = .wrote n ∧ data.length ≤ n

structure Delivering (s : SerialThread) : Prop extends s.Delivers where
  nonempty : ∀ frame ∈ s.queued, frame ≠ []

variable {s : SerialThread}

theorem Delivering.send (h : s.Delivering) (data : List Byte) : (s.send data).Delivering := by
  unfold SerialThread.send
  split
  · rename_i hcan
    obtain ⟨written, hq, hport⟩ := h.inOrder
    refine ⟨⟨⟨written, ?_, hport⟩, fun _ => Or.inl (Nat.succ_pos _)⟩, fun frame hmem => ?_⟩
    · show s.queued ++ [data] = written ++ s.inHand ++ (s.txQueue ++ [data])
      rw [hq, List.append_assoc]
    · rcases List.mem_append.mp hmem with hmem | hmem
      · exact h.nonempty frame hmem
      · obtain rfl := List.mem_singleton.mp hmem
        rintro rfl
        simp [canSend] at hcan
  · exact h

theorem Delivering.notify (h : s.Delivering) : s.notify.Delivering := by
  unfold SerialThread.notify
  split
  · exact h
  · exact ⟨⟨h.inOrder, fun _ => Or.inr (Or.inl (Nat.succ_pos _))⟩, h.nonempty⟩

theorem Delivering.wake (h : s.Delivering) : s.wake.Delivering := by
  unfold SerialThread.wake
  split
  · rename_i hidle
    obtain ⟨written, hq, hport⟩ := h.inOrder
    refine ⟨⟨⟨written, ?_, hport⟩, fun _ => Or.inr (Or.inr Writer.noConfusion)⟩, h.nonempty⟩
    rw [inHand, hidle.1] at hq
    exact hq
  · exact h

theorem Delivering.pop (h : s.Delivering) (nowMs : Nat) : (s.pop nowMs).Delivering := by
  obtain ⟨written, hq, hport⟩ := h.inOrder
  unfold SerialThread.pop
  cases hw : s.writer with
  | idle => exact h
  | writing data => exact h
  | draining =>
    rw [inHand, hw] at hq
    cases htx : s.txQueue with
    | nil =>
      rw [htx] at hq
      exact ⟨⟨⟨written, hq, hport⟩, fun hne => absurd rfl hne⟩, h.nonempty⟩
    | cons data rest =>
      rw [htx] at hq
      refine ⟨⟨⟨written, ?_, hport⟩, fun _ => Or.inr (Or.inr Writer.noConfusion)⟩, h.nonempty⟩
      show s.queued = written ++ [data] ++ rest
      rw [hq, List.append_nil, List.append_assoc]
      rfl

theorem Delivering.write (h : s.Delivering) {outcome : WriteOutcome}
    (hfull : s.FullWrite (.write outcome)) : (s.write outcome).Delivering := by
  obtain ⟨written, hq, hport⟩ := h.inOrder
  unfold SerialThread.write
  cases hw : s.writer with
  | idle => exact h
  | draining => exact h
  | writing data =>
    obtain ⟨n, rfl, hn⟩ := hfull data outcome hw rfl
    rw [inHand, hw] at hq
    refine ⟨⟨⟨written ++ [data], ?_, ?_⟩, fun _ => Or.inr (Or.inr Writer.noConfusion)⟩, h.nonempty⟩
    · show s.queued = written ++ [data] ++ [] ++ s.txQueue
      rw [List.append_nil]
      exact hq
    · show s.port ++ data.take n = (written ++ [data]).flatten
      rw [hport, List.take_of_length_le hn, List.flatten_append, List.flatten_singleton]

/-- A write that leaves bytes over takes them from the frames that the port gets. -/
theorem Delivering.full_of_delivers (h : s.Delivering) {outcome : WriteOutcome}
    (hafter : (s.write outcome).Delivers) : s.FullWrite (.write outcome) := by
  rintro data outcome' hw heq
  cases heq
  obtain ⟨written, hq, hport⟩ := h.inOrder
  obtain ⟨written', hq', hport'⟩ := hafter.inOrder
  rw [inHand, hw] at hq
  -- the frame counts as written, in whatever way the write ended
  have hshape : (s.write outcome).inHand = [] ∧ (s.write outcome).txQueue = s.txQueue ∧
      (s.write outcome).queued = s.queued := by
    unfold SerialThread.write
    rw [hw]
    cases outcome <;> exact ⟨rfl, rfl, rfl⟩
  rw [hshape.1, hshape.2.1, hshape.2.2, hq, List.append_nil] at hq'
  obtain rfl := List.append_cancel_right hq'
  rw [List.flatten_append, List.flatten_singleton, ← hport] at hport'
  have hdata : data ≠ [] := by
    refine h.nonempty data ?_
    rw [hq]
    exact List.mem_append_left _ (List.mem_append_right _ (List.mem_singleton_self data))
  unfold SerialThread.write at hport'
  rw [hw] at hport'
  cases outcome with
  | wrote n =>
    refine ⟨n, rfl, ?_⟩
    have htake : data.take n = data := List.append_cancel_left hport'
    rw [← htake]
    exact List.length_take_le n data
  | again => exact absurd (List.self_eq_append_right.mp hport') hdata
  | interrupted => exact absurd (List.self_eq_append_right.mp hport') hdata
  | failed => exact absurd (List.self_eq_append_right.mp hport') hdata

theorem Delivering.timer (h : s.Delivering) (cfg : LinkConfig) (nowMs : Nat) :
    (s.checkRxTimeout cfg nowMs).1.Delivering := by
  unfold checkRxTimeout
  dsimp only
  split_ifs
  · exact h
  · exact ⟨⟨h.inOrder, h.woken⟩, h.nonempty⟩
  · exact h
  · exact ⟨⟨h.inOrder, h.woken⟩, h.nonempty⟩
  · exact h

theorem Delivering.step (h : s.Delivering) (cfg : LinkConfig) (e : SerialStep)
    (hfull : s.FullWrite e) : (s.step cfg e).1.Delivering := by
  cases e with
  | send data => exact h.send data
  | notify => exact h.notify
  | wake => exact h.wake
  | pop nowMs => exact h.pop nowMs
  | write outcome => exact h.write hfull
  | read nowMs bytes =>
    show (s.handleRead nowMs bytes).Delivering
    unfold handleRead
    split
    · exact h
    · exact ⟨⟨h.inOrder, h.woken⟩, h.nonempty⟩
  | timer nowMs => exact h.timer cfg nowMs

theorem Delivering.full_of_step (h : s.Delivering) (cfg : LinkConfig) (e : SerialStep)
    (hafter : (s.step cfg e).1.Delivers) : s.FullWrite e := by
  cases e with
  | write outcome => exact h.full_of_delivers hafter
  | send data => exact fun _ _ _ heq => SerialStep.noConfusion heq
  | notify => exact fun _ _ _ heq => SerialStep.noConfusion heq
  | wake => exact fun _ _ _ heq => SerialStep.noConfusion heq
  | pop nowMs => exact fun _ _ _ heq => SerialStep.noConfusion heq
  | read nowMs bytes => exact fun _ _ _ heq => SerialStep.noConfusion heq
  | timer nowMs => exact fun _ _ _ heq => SerialStep.noConfusion heq

end SerialThread

/-! ### The thread until its queue is empty -/

/-- The passes of the loop over the frames, with writes that take them whole. -/
def drainSteps (nowMs : Nat) (frames : List (List Byte)) : List SerialStep :=
  frames.flatMap (fun frame => [.pop nowMs, .write (.wrote frame.length)]) ++ [.pop nowMs]

section Run

variable {cfg : LinkConfig} {running : Bool} {eventFd serialFd : Int}

theorem runFrom_drainSteps (nowMs : Nat) (s : SerialThread) (h : s.writer = .draining) :
    let t := (serialThread cfg running eventFd serialFd).runFrom s (drainSteps nowMs s.txQueue)
    t.txQueue = [] ∧ t.writer = .idle ∧ t.port = s.port ++ s.txQueue.flatten := by
  generalize hq : s.txQueue = frames
  induction frames generalizing s with
  | nil =>
    have hpop : s.pop nowMs = { s with writer := .idle } := by
      unfold SerialThread.pop
      rw [h, hq]
    show (s.pop nowMs).txQueue = [] ∧ (s.pop nowMs).writer = .idle ∧
      (s.pop nowMs).port = s.port ++ []
    rw [hpop, List.append_nil]
    exact ⟨hq, rfl, rfl⟩
  | cons frame rest ih =>
    have hpass : (s.pop nowMs).write (.wrote frame.length) =
        { s with
          txQueue := rest, lastTxTsMs := nowMs, port := s.port ++ frame, writer := .draining } := by
      unfold SerialThread.pop
      rw [h, hq]
      simp only [SerialThread.write, List.take_length]
    have hrest := ih ((s.pop nowMs).write (.wrote frame.length)) (by rw [hpass])
      (by rw [hpass])
    have hport : ((s.pop nowMs).write (.wrote frame.length)).port = s.port ++ frame := by
      rw [hpass]
    rw [hport, List.append_assoc] at hrest
    exact hrest

/-- What has been queued reaches the port whole and in order, and nothing is left without a
wake-up on its way, in exactly the runs in which every write takes its frame whole; in them a
wake-up whose writes go on so sends all that is left. -/
theorem frames_delivered_iff (cfg : LinkConfig) (running : Bool) (eventFd serialFd : Int)
    (es : List SerialStep) :
    ((∀ pre, pre <+: es → ((serialThread cfg running eventFd serialFd).run pre).Delivers) ↔
      (serialThread cfg running eventFd serialFd).EveryStep SerialThread.FullWrite es) ∧
    ((serialThread cfg running eventFd serialFd).EveryStep SerialThread.FullWrite es →
      ∀ nowMs, let s := (serialThread cfg running eventFd serialFd).run es
      s.writer = .idle → 0 < s.eventCount →
      let t := (serialThread cfg running eventFd serialFd).run
        (es ++ .wake :: drainSteps nowMs s.txQueue)
      t.txQueue = [] ∧ t.port = s.queued.flatten) := by
  have hstart : (serialThread cfg running eventFd serialFd).start.Delivering :=
    ⟨⟨⟨[], rfl, rfl⟩, fun h => absurd rfl h⟩, fun _ h => absurd h List.not_mem_nil⟩
  have hkeep : ∀ s e, SerialThread.Delivering s → s.FullWrite e →
      SerialThread.Delivering ((serialThread cfg running eventFd serialFd).step s e).1 :=
    fun s e hs hfull => hs.step cfg e hfull
  constructor
  · exact (serialThread cfg running eventFd serialFd).along_iff (C := fun _ => True) hstart
      (fun s hs => hs.toDelivers) (fun s e hs _ hfull => hkeep s e hs hfull)
      (fun s e hs _ hafter => hs.full_of_step cfg e hafter) fun _ _ => trivial
  · intro hfull nowMs s hidle hcount
    have hs : s.Delivering := hfull.invariant hstart hkeep
    obtain ⟨written, hq, hport⟩ := hs.inOrder
    have hwake : s.wake = { s with eventCount := 0, writer := .draining } := if_pos ⟨hidle, hcount⟩
    rw [SerialThread.inHand, hidle, List.append_nil] at hq
    rw [Machine.run_append]
    have hdrain := @runFrom_drainSteps cfg running eventFd serialFd nowMs s.wake (by rw [hwake])
    rw [hwake] at hdrain
    have hall : s.queued.flatten = s.port ++ s.txQueue.flatten := by
      rw [hq, List.flatten_append, ← hport]
    show ((serialThread cfg running eventFd serialFd).runFrom s.wake _).txQueue = [] ∧
      ((serialThread cfg running eventFd serialFd).runFrom s.wake _).port = _
    rw [hall, hwake]
    exact ⟨hdrain.1, hdrain.2.2⟩

end Run

def portConfig : LinkConfig where
  rxTimeoutMs := 1500
  timeoutCheckPeriodMs := 200
  startTxMs := 0
  startRxMs := 0
  start_le := Nat.le_refl .zero

/-- Two frames are written in one wake-up, a third comes while the first is on its way, and a fourth
wakes the thread again. -/
def fourFrames : List SerialStep :=
  [.send [0x01, 0x03], .notify, .send [0x02, 0x03], .notify, .wake, .pop 1, .write (.wrote 2),
    .send [0x03, 0x03], .notify, .pop 2, .write (.wrote 2), .pop 3, .write (.wrote 2), .pop 4,
    .send [0x04, 0x03], .notify]

theorem frames_delivered_iff_four :
    let M := serialThread portConfig true 4 5
    (∀ pre, pre <+: fourFrames → (M.run pre).Delivers) ∧
      (M.run (fourFrames ++ .wake :: drainSteps 5 [[0x04, 0x03]])).port =
        [0x01, 0x03, 0x02, 0x03, 0x03, 0x03, 0x04, 0x03] := by
  intro M
  have hother : ∀ (s : SerialThread) (e : SerialStep), (∀ outcome, e ≠ .write outcome) →
      s.FullWrite e := fun s e hne _ outcome _ heq => absurd heq (hne outcome)
  have hwhole : ∀ (s : SerialThread) (data : List Byte), s.writer = .writing data →
      data.length = 2 → s.FullWrite (.write (.wrote 2)) := by
    intro s data hw hlen data' outcome hw' heq
    rw [hw] at hw'
    cases hw'
    cases heq
    exact ⟨2, rfl, Nat.le_of_eq hlen⟩
  have hfull : M.EveryStep SerialThread.FullWrite fourFrames := by
    simp only [fourFrames, Machine.everyStep_cons]
    refine ⟨?_, ?_, ?_, ?_, ?_, ?_, hwhole _ [0x01, 0x03] (by decide +kernel) rfl, ?_, ?_, ?_,
      hwhole _ [0x02, 0x03] (by decide +kernel) rfl, ?_,
      hwhole _ [0x03, 0x03] (by decide +kernel) rfl, ?_, ?_, ?_, Machine.everyStep_nil _ _⟩
    all_goals exact hother _ _ fun _ h => SerialStep.noConfusion h
  obtain ⟨hiff, hdrained⟩ := frames_delivered_iff portConfig true 4 5 fourFrames
  exact ⟨hiff.mpr hfull, (hdrained hfull 5 (by decide +kernel) (by decide +kernel)).2⟩

/-- Two frames are queued and the thread is about to write the first of them. -/
def twoFrames : List SerialStep :=
  [.send [0x01, 0x03], .notify, .send [0x02, 0x03], .notify, .wake, .pop 1]

/-- A frame is lost when the port takes a part of it, when it takes nothing for the moment, and
when the write fails; in the last case the frame behind it has no wake-up left. -/
theorem unfinished_frame_lost :
    let M := serialThread portConfig true 4 5
    (∀ outcome ∈ [.wrote 1, .again, .interrupted, .failed],
      ¬ (M.run (twoFrames ++ [.write outcome])).Delivers) ∧
    let s := M.run (twoFrames ++ [.write .failed])
    s.txQueue = [[0x02, 0x03]] ∧ s.notifying = 0 ∧ s.eventCount = 0 ∧ s.writer = .idle := by
  intro M
  refine ⟨fun outcome hmem hdelivers => ?_, by decide⟩
  obtain ⟨written, hq, hport⟩ := hdelivers.inOrder
  have hwritten : ∀ rest : List (List Byte), [[0x01, 0x03]] ++ rest = written ++ [] ++ rest →
      written = [[0x01, 0x03]] := by
    intro rest heq
    rw [List.append_nil] at heq
    exact (List.append_cancel_right heq).symm
  simp only [List.mem_cons, List.not_mem_nil, or_false] at hmem
  rcases hmem with rfl | rfl | rfl | rfl <;>
    rw [hwritten [[0x02, 0x03]] hq] at hport <;> exact absurd hport (by decide)

end Driver
end EnergyStorage
