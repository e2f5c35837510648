import EnergyStorage.Lib.Mailbox
import EnergyStorage.Logic.ControlLoop

/-! # The control thread

Snapshots do not pile up: the latest one waits in a slot, and a marker in the queue stands
for it.  Posters, the control thread and the caller of `start` and `stop` take their steps
in any order. -/

namespace EnergyStorage
namespace Logic

open Lib

def isSnapshot (e : Event) : Bool :=
  match e.body with
  | .snapshot _ => true
  | .deviceData _ | .hmiWrite _ | .hmiHeartbeat | .ioSample _ | .tick _ | .stop => false

def isStop (e : Event) : Bool :=
  match e.body with
  | .stop => true
  | .deviceData _ | .snapshot _ | .hmiWrite _ | .hmiHeartbeat | .ioSample _ | .tick _ => false

/-- An event that goes into the queues as it is; only `stop` makes a `Stop`. -/
structure PlainEvent where
  event : Event
  notSnapshot : isSnapshot event = false
  notStop : isStop event = false

/-- Where the control thread stands in `threadMain`. -/
inductive ThreadAt
  | absent
  /-- before the loop reads `running` -/
  | test
  /-- in `popEvent` -/
  | pop
  /-- it has popped a marker and has not looked for the latest snapshot -/
  | take
  | handle (e : Event)
  /-- `threadMain` has returned -/
  | exited

/-- Where the caller of `stop` stands in it. -/
inductive StopAt
  | idle
  | clear
  | push
  | join
  deriving DecidableEq

structure LoopState where
  running : Bool := false
  loop : ControlLoop := {}
  /-- The snapshot behind `hasLatestSnapshot`. -/
  latestSnapshot : Option Event := none
  snapshotMarkerEnqueued : Bool := false
  /-- Markers of the posters between the lock of the slot and the one of the queues. -/
  pushing : List Event := []
  thread : ThreadAt := .absent
  stopping : StopAt := .idle
  logic : LogicState

/-- Every call of `start` and `stop` comes from one thread, the one that joins the control
thread. -/
inductive LoopStep
  | storeSnapshot (tsMs : Nat) (snap : SnapshotEvent)
  | pushMarker (k : Nat)
  | post (e : PlainEvent)
  | start
  /-- the next step of `stop`, its first one if it is not under way -/
  | stop
  | control (nowMs : Nat)

namespace LoopState

/-- Only the type of a marker matters. -/
def marker (tsMs : Nat) : Event := ⟨tsMs, .snapshot { tsMs := 0 }⟩

def stopEvent : Event := ⟨0, .stop⟩

def storeSnapshot (s : LoopState) (e : Event) : LoopState :=
  { s with
    latestSnapshot := some e
    snapshotMarkerEnqueued := true
    pushing := if s.snapshotMarkerEnqueued then s.pushing else s.pushing ++ [marker e.tsMs] }

def pushMarker (s : LoopState) (k : Nat) : LoopState :=
  match s.pushing[k]? with
  | none => s
  | some e => { s with loop := s.loop.pushEvent e, pushing := s.pushing.eraseIdx k }

/-- What the loop does next with an event it has popped. -/
def afterPop (e : Event) : ThreadAt :=
  if isStop e then .exited else if isSnapshot e then .take else .handle e

def stamped (e : Event) (nowMs : Nat) : Event := if e.tsMs = 0 then { e with tsMs := nowMs } else e

/-- The next step of `threadMain`. -/
def control (s : LoopState) (nowMs : Nat) : LoopState × List Command :=
  match s.thread with
  | .absent | .exited => (s, [])
  | .test => ({ s with thread := if s.running then .pop else .exited }, [])
  | .pop =>
    match s.loop.popEvent with
    | none => (s, [])
    | some (e, loop) => ({ s with loop := loop, thread := afterPop e }, [])
  | .take =>
    match s.latestSnapshot with
    | none => ({ s with snapshotMarkerEnqueued := false, thread := .test }, [])
    | some e =>
      ({ s with latestSnapshot := none, snapshotMarkerEnqueued := false, thread := .handle e }, [])
  | .handle e =>
    ({ s with logic := (LogicEngine.onEvent s.logic (stamped e nowMs)).1, thread := .test },
      (LogicEngine.onEvent s.logic (stamped e nowMs)).2)

def start (s : LoopState) : LoopState :=
  match s.stopping with
  | .idle => if s.running then s else { s with running := true, thread := .test }
  | .clear | .push | .join => s

def stop (s : LoopState) : LoopState :=
  match s.stopping with
  | .idle => if s.running then { s with running := false, stopping := .clear } else s
  | .clear =>
    { s with latestSnapshot := none, snapshotMarkerEnqueued := false, stopping := .push }
  | .push => { s with loop := s.loop.pushEvent stopEvent, stopping := .join }
  | .join =>
    match s.thread with
    | .exited => { s with thread := .absent, stopping := .idle }
    | .absent | .test | .pop | .take | .handle _ => s

def step (s : LoopState) : LoopStep → LoopState × List Command
  | .storeSnapshot tsMs snap => (s.storeSnapshot ⟨tsMs, .snapshot snap⟩, [])
  | .pushMarker k => (s.pushMarker k, [])
  | .post e => ({ s with loop := s.loop.pushEvent e.event }, [])
  | .start => (s.start, [])
  | .stop => (s.stop, [])
  | .control nowMs => s.control nowMs

end LoopState

def controlLoop (sys : Option (List CanLinkCfg)) (map : Option HmiMapModel) :
    Machine LoopState LoopStep Command where
  start := { logic := (logicLoop sys map).start }
  step := LoopState.step

/-! ### The slot of the control loop -/

def ThreadAt.isTake : ThreadAt → Bool
  | .take => true
  | .absent | .test | .pop | .handle _ | .exited => false

def ThreadAt.held : ThreadAt → Option Event
  | .handle e => some e
  | .absent | .test | .pop | .take | .exited => none

/-- The markers that are queued, being processed or about to be pushed. -/
def markersInFlight (s : LoopState) : Nat :=
  s.pushing.length + s.loop.qNormal.countP isSnapshot + s.thread.isTake.toNat

/-- Nothing is queued or about to be, and the control thread is done with what it took. -/
structure Drained (s : LoopState) : Prop where
  high : s.loop.qHigh = []
  normal : s.loop.qNormal = []
  pushing : s.pushing = []
  taking : s.thread.isTake = false
  held : s.thread.held = none

/-- The snapshot that a step posts. -/
def postedSnapshots (_ : LoopState) : LoopStep → List Event
  | .storeSnapshot tsMs snap => [⟨tsMs, .snapshot snap⟩]
  | .pushMarker _ | .post _ | .start | .stop | .control _ => []

/-- The event, as it was posted, that a step gives to the engine. -/
def processed (s : LoopState) : LoopStep → List Event
  | .control _ => s.thread.held.toList
  | .storeSnapshot _ _ | .pushMarker _ | .post _ | .start | .stop => []

def processedSnapshots (s : LoopState) (a : LoopStep) : List Event :=
  (processed s a).filter isSnapshot

def IsStopCall : LoopStep → Prop
  | .stop => True
  | .storeSnapshot _ _ | .pushMarker _ | .post _ | .start | .control _ => False

namespace LoopState

def slot (s : LoopState) : Mailbox Event where
  slot := s.latestSnapshot
  marked := s.snapshotMarkerEnqueued
  pushing := s.pushing.length
  queued := s.loop.qNormal.countP isSnapshot
  taking := s.thread.isTake
  holding := s.thread.held.filter isSnapshot

/-- What a step of the control thread is to the slot. -/
def slotControl (s : LoopState) : List (MailboxStep Event) :=
  match s.thread with
  | .absent | .exited | .test => []
  | .pop =>
    match s.loop.popEvent with
    | none => []
    | some (e, _) => if isSnapshot e then [.pop] else []
  | .take => [.take]
  | .handle _ => [.finish]

/-- What a step is to the slot. -/
def slotSteps (s : LoopState) : LoopStep → List (MailboxStep Event)
  | .storeSnapshot tsMs snap => [.store ⟨tsMs, .snapshot snap⟩]
  | .pushMarker k => if k < s.pushing.length then [.push] else []
  | .post _ | .start => []
  | .stop =>
    match s.stopping with
    | .clear => [.clear]
    | .idle | .push | .join => []
  | .control _ => s.slotControl

end LoopState

/-! ### The control loop works as the mailbox does -/

/-- What the refinement needs of the events in the queues and of the thread. -/
structure SlotOk (s : LoopState) : Prop where
  high : ∀ e ∈ s.loop.qHigh, isSnapshot e = false
  pushing : ∀ e ∈ s.pushing, isSnapshot e = true
  latest : ∀ e ∈ s.latestSnapshot, isSnapshot e = true
  idle : s.stopping = .idle → s.running = false → s.thread = .absent

theorem qHigh_pushEvent_of_low {q : ControlLoop} {e : Event}
    (h : ControlLoop.isHighPriorityEvent e = false) :
    q.pushEvent e = { q with qNormal := q.qNormal ++ [e] } := by
  rw [ControlLoop.pushEvent, h]
  exact if_neg Bool.false_ne_true

theorem qHigh_pushEvent_of_high {q : ControlLoop} {e : Event}
    (h : ControlLoop.isHighPriorityEvent e = true) :
    q.pushEvent e = { q with qHigh := q.qHigh ++ [e] } := by
  rw [ControlLoop.pushEvent, h]
  exact if_pos rfl

theorem low_of_isSnapshot {e : Event} (h : isSnapshot e = true) :
    ControlLoop.isHighPriorityEvent e = false := by
  obtain ⟨tsMs, body⟩ := e
  cases body <;> first | rfl | cases h

theorem countP_pushEvent (q : ControlLoop) (e : Event) :
    (q.pushEvent e).qNormal.countP isSnapshot =
      q.qNormal.countP isSnapshot + (isSnapshot e).toNat := by
  cases hhigh : ControlLoop.isHighPriorityEvent e with
  | false =>
    rw [qHigh_pushEvent_of_low hhigh, List.countP_append, List.countP_singleton]
    cases isSnapshot e <;> rfl
  | true =>
    rw [qHigh_pushEvent_of_high hhigh]
    cases hsnap : isSnapshot e with
    | false => rfl
    | true =>
      rw [low_of_isSnapshot hsnap] at hhigh
      cases hhigh

theorem high_pushEvent {P : Event → Prop} {q : ControlLoop} (hq : ∀ x ∈ q.qHigh, P x) {e : Event}
    (he : ControlLoop.isHighPriorityEvent e = true → P e) : ∀ x ∈ (q.pushEvent e).qHigh, P x := by
  cases hhigh : ControlLoop.isHighPriorityEvent e with
  | false =>
    rw [qHigh_pushEvent_of_low hhigh]
    exact hq
  | true =>
    rw [qHigh_pushEvent_of_high hhigh]
    intro x hx
    obtain hx | hx := List.mem_append.mp hx
    · exact hq x hx
    · rw [List.mem_singleton.mp hx]
      exact he hhigh

/-- The event that is taken is the first of the panel's queue, or with that queue empty the
first of the other one. -/
theorem popEvent_cases {q q' : ControlLoop} {e : Event} (h : q.popEvent = some (e, q')) :
    q.qHigh = e :: q'.qHigh ∧ q.qNormal = q'.qNormal ∨
      q.qHigh = [] ∧ q'.qHigh = [] ∧ q.qNormal = e :: q'.qNormal := by
  obtain ⟨qHigh, qNormal⟩ := q
  cases qHigh with
  | cons x rest =>
    obtain ⟨rfl, rfl⟩ := Prod.mk.inj (Option.some_inj.mp h)
    exact Or.inl ⟨rfl, rfl⟩
  | nil =>
    cases qNormal with
    | nil => cases h
    | cons x rest =>
      obtain ⟨rfl, rfl⟩ := Prod.mk.inj (Option.some_inj.mp h)
      exact Or.inr ⟨rfl, rfl, rfl⟩

theorem mem_qHigh_of_popEvent {q q' : ControlLoop} {e x : Event}
    (h : q.popEvent = some (e, q')) (hx : x ∈ q'.qHigh) : x ∈ q.qHigh := by
  obtain ⟨hhigh, -⟩ | ⟨-, hnil, -⟩ := popEvent_cases h
  · rw [hhigh]
    exact List.mem_cons_of_mem e hx
  · rw [hnil] at hx
    cases hx

theorem SlotOk.control {s : LoopState} (h : SlotOk s) (nowMs : Nat) :
    SlotOk (s.control nowMs).1 := by
  have hbusy : s.thread ≠ .absent → s.stopping = .idle → s.running = false → False :=
    fun hne hidle hrun => hne (h.idle hidle hrun)
  unfold LoopState.control
  cases hthread : s.thread with
  | absent => exact h
  | exited => exact h
  | test =>
    rw [hthread] at hbusy
    exact ⟨h.high, h.pushing, h.latest, fun hidle hrun => (hbusy nofun hidle hrun).elim⟩
  | pop =>
    rw [hthread] at hbusy
    cases hpop : s.loop.popEvent with
    | none => exact h
    | some r =>
      obtain ⟨e, loop⟩ := r
      refine ⟨fun x hx => h.high x (mem_qHigh_of_popEvent hpop hx), h.pushing, h.latest, ?_⟩
      exact fun hidle hrun => (hbusy nofun hidle hrun).elim
  | take =>
    rw [hthread] at hbusy
    cases hlatest : s.latestSnapshot with
    | none => exact ⟨h.high, h.pushing, nofun, fun hidle hrun => (hbusy nofun hidle hrun).elim⟩
    | some e =>
      exact ⟨h.high, h.pushing, nofun, fun hidle hrun => (hbusy nofun hidle hrun).elim⟩
  | handle e =>
    rw [hthread] at hbusy
    exact ⟨h.high, h.pushing, h.latest, fun hidle hrun => (hbusy nofun hidle hrun).elim⟩

theorem SlotOk.stop {s : LoopState} (h : SlotOk s) : SlotOk s.stop := by
  unfold LoopState.stop
  cases hstop : s.stopping with
  | idle =>
    dsimp only
    split
    · exact ⟨h.high, h.pushing, h.latest, nofun⟩
    · exact h
  | clear => exact ⟨h.high, h.pushing, nofun, nofun⟩
  | push => exact ⟨high_pushEvent h.high fun _ => rfl, h.pushing, h.latest, nofun⟩
  | join =>
    cases hthread : s.thread with
    | exited => exact ⟨h.high, h.pushing, h.latest, fun _ _ => rfl⟩
    | absent => exact h
    | test => exact h
    | pop => exact h
    | take => exact h
    | handle e => exact h

theorem SlotOk.step {s : LoopState} (h : SlotOk s) (a : LoopStep) : SlotOk (s.step a).1 := by
  cases a with
  | storeSnapshot tsMs snap =>
    refine ⟨h.high, ?_, ?_, h.idle⟩
    · intro e he
      change e ∈ if s.snapshotMarkerEnqueued then s.pushing
        else s.pushing ++ [LoopState.marker tsMs] at he
      split at he
      · exact h.pushing e he
      · obtain he | he := List.mem_append.mp he
        · exact h.pushing e he
        · rw [List.mem_singleton.mp he]
          rfl
    · intro e he
      obtain rfl := Option.some_inj.mp he
      rfl
  | pushMarker k =>
    show SlotOk (s.pushMarker k)
    rw [LoopState.pushMarker]
    cases hk : s.pushing[k]? with
    | none => exact h
    | some e =>
      have hsnap := h.pushing e (List.mem_of_getElem? hk)
      refine ⟨high_pushEvent h.high ?_, ?_, h.latest, h.idle⟩
      · intro hhigh
        rw [low_of_isSnapshot hsnap] at hhigh
        cases hhigh
      · exact fun x hx => h.pushing x (List.mem_of_mem_eraseIdx hx)
  | post e => exact ⟨high_pushEvent h.high fun _ => e.notSnapshot, h.pushing, h.latest, h.idle⟩
  | start =>
    show SlotOk s.start
    unfold LoopState.start
    cases hstop : s.stopping with
    | idle =>
      dsimp only
      split
      · exact h
      · exact ⟨h.high, h.pushing, h.latest, fun _ => nofun⟩
    | clear => exact h
    | push => exact h
    | join => exact h
  | stop => exact h.stop
  | control nowMs => exact h.control nowMs

theorem slot_pushEvent (s : LoopState) {e : Event} (h : isSnapshot e = false) :
    LoopState.slot { s with loop := s.loop.pushEvent e } = s.slot := by
  have hcount := countP_pushEvent s.loop e
  rw [h, Bool.toNat_false, Nat.add_zero] at hcount
  unfold LoopState.slot
  rw [hcount]

theorem slot_pushMarker {s : LoopState} (h : SlotOk s) (k : Nat) :
    (s.pushMarker k).slot =
      (Mailbox.machine Event).runFrom s.slot (if k < s.pushing.length then [.push] else []) := by
  rw [LoopState.pushMarker]
  by_cases hk : k < s.pushing.length
  · rw [if_pos hk, List.getElem?_eq_getElem hk]
    have hsnap := h.pushing _ (List.getElem_mem hk)
    have hcount := countP_pushEvent s.loop s.pushing[k]
    rw [hsnap, Bool.toNat_true] at hcount
    have hsome : s.slot.pushing ≠ 0 := by
      show s.pushing.length ≠ 0
      omega
    show _ = s.slot.step .push
    rw [Mailbox.step, if_neg hsome]
    show Mailbox.mk _ _ (s.pushing.eraseIdx k).length
      ((s.loop.pushEvent s.pushing[k]).qNormal.countP isSnapshot) _ _ = _
    rw [hcount, List.length_eraseIdx_of_lt hk]
    rfl
  · rw [if_neg hk, List.getElem?_eq_none (Nat.le_of_not_lt hk)]
    rfl

theorem slot_pop {s : LoopState} (h : SlotOk s) (hthread : s.thread = .pop) {e : Event}
    {loop : ControlLoop} (hpop : s.loop.popEvent = some (e, loop)) :
    LoopState.slot { s with loop := loop, thread := LoopState.afterPop e } =
      (Mailbox.machine Event).runFrom s.slot (if isSnapshot e then [.pop] else []) := by
  obtain ⟨hhigh, hnormal⟩ | ⟨-, -, hnormal⟩ := popEvent_cases hpop
  -- an event of the panel's queue is no marker
  · have hplain : isSnapshot e = false := by
      apply h.high e
      rw [hhigh]
      exact List.mem_cons_self
    rw [hplain, if_neg Bool.false_ne_true, Machine.runFrom_nil]
    unfold LoopState.slot LoopState.afterPop
    rw [hplain, hnormal, hthread]
    cases isStop e with
    | true => rfl
    | false =>
      show Mailbox.mk _ _ _ _ _ ((some e).filter isSnapshot) = _
      rw [Option.filter_some_neg hplain]
      rfl
  · cases hsnap : isSnapshot e with
    | false =>
      have hcount : s.loop.qNormal.countP isSnapshot = loop.qNormal.countP isSnapshot := by
        rw [hnormal]
        exact List.countP_cons_of_neg (by rw [hsnap]; exact Bool.false_ne_true)
      rw [if_neg Bool.false_ne_true, Machine.runFrom_nil]
      unfold LoopState.slot LoopState.afterPop
      rw [hsnap, hcount, hthread]
      cases isStop e with
      | true => rfl
      | false =>
        show Mailbox.mk _ _ _ _ _ ((some e).filter isSnapshot) = _
        rw [Option.filter_some_neg hsnap]
        rfl
    | true =>
      have hcount : s.loop.qNormal.countP isSnapshot = loop.qNormal.countP isSnapshot + 1 := by
        rw [hnormal]
        exact List.countP_cons_of_pos hsnap
      have hready : s.slot.Free ∧ s.slot.queued ≠ 0 := by
        refine ⟨⟨?_, ?_⟩, ?_⟩
        · show s.thread.isTake = false
          rw [hthread]
          rfl
        · show s.thread.held.filter isSnapshot = none
          rw [hthread]
          rfl
        · show s.loop.qNormal.countP isSnapshot ≠ 0
          omega
      have hstop : isStop e = false := by
        obtain ⟨tsMs, body⟩ := e
        cases body <;> first | rfl | cases hsnap
      show _ = s.slot.step .pop
      rw [Mailbox.step, if_pos hready]
      unfold LoopState.slot LoopState.afterPop
      rw [hsnap, hstop, hcount, hthread]
      rfl

theorem slot_control {s : LoopState} (h : SlotOk s) (nowMs : Nat) :
    (s.control nowMs).1.slot = (Mailbox.machine Event).runFrom s.slot s.slotControl := by
  unfold LoopState.control LoopState.slotControl
  cases hthread : s.thread with
  | absent => rfl
  | exited => rfl
  | test =>
    show LoopState.slot { s with thread := if s.running then .pop else .exited } = s.slot
    unfold LoopState.slot
    rw [hthread]
    cases s.running <;> rfl
  | pop =>
    cases hpop : s.loop.popEvent with
    | none => rfl
    | some r => exact slot_pop h hthread hpop
  | take =>
    have htaking : s.slot.taking = true := by
      show s.thread.isTake = true
      rw [hthread]
      rfl
    show _ = s.slot.step .take
    rw [Mailbox.step, if_pos htaking]
    cases hlatest : s.latestSnapshot with
    | none =>
      unfold LoopState.slot
      rw [hlatest]
      rfl
    | some e =>
      have hsnap := h.latest e hlatest
      unfold LoopState.slot
      rw [hlatest]
      show Mailbox.mk _ _ _ _ _ ((some e).filter isSnapshot) = _
      rw [Option.filter_some_pos hsnap]
      rfl
  | handle e =>
    show _ = s.slot.step .finish
    unfold LoopState.slot
    rw [hthread]
    rfl

theorem slot_step {s : LoopState} (h : SlotOk s) (a : LoopStep) :
    (s.step a).1.slot = (Mailbox.machine Event).runFrom s.slot (s.slotSteps a) := by
  cases a with
  | storeSnapshot tsMs snap =>
    show (s.storeSnapshot ⟨tsMs, .snapshot snap⟩).slot =
      s.slot.step (.store ⟨tsMs, .snapshot snap⟩)
    unfold LoopState.storeSnapshot LoopState.slot
    rw [Mailbox.step]
    cases s.snapshotMarkerEnqueued with
    | true => rfl
    | false =>
      dsimp only
      rw [if_neg Bool.false_ne_true, if_neg Bool.false_ne_true, List.length_append]
      rfl
  | pushMarker k => exact slot_pushMarker h k
  | post e => exact slot_pushEvent s e.notSnapshot
  | start =>
    show s.start.slot = s.slot
    unfold LoopState.start
    cases hstop : s.stopping with
    | clear => rfl
    | push => rfl
    | join => rfl
    | idle =>
      dsimp only
      by_cases hrun : s.running = true
      · rw [if_pos hrun]
      · rw [if_neg hrun]
        unfold LoopState.slot
        rw [h.idle hstop (Bool.eq_false_of_not_eq_true hrun)]
        rfl
  | stop =>
    show s.stop.slot = _
    unfold LoopState.stop LoopState.slotSteps
    cases hstop : s.stopping with
    | clear => rfl
    | push => exact slot_pushEvent s rfl
    | idle =>
      dsimp only
      split <;> rfl
    | join =>
      cases hthread : s.thread with
      | exited =>
        unfold LoopState.slot
        rw [hthread]
        rfl
      | absent => rfl
      | test => rfl
      | pop => rfl
      | take => rfl
      | handle e => rfl
  | control nowMs => exact slot_control h nowMs

variable (sys : Option (List CanLinkCfg)) (map : Option HmiMapModel)

theorem slotOk_run (acts : List LoopStep) : SlotOk ((controlLoop sys map).run acts) := by
  have hinv : (controlLoop sys map).Invariant SlotOk := by
    refine ⟨⟨nofun, nofun, nofun, fun _ _ => rfl⟩, ?_⟩
    intro s a hs
    exact hs.step a
  exact hinv.run acts

theorem slot_run (acts : List LoopStep) : ((controlLoop sys map).run acts).slot =
    (Mailbox.machine Event).run ((controlLoop sys map).trace LoopState.slotSteps acts) :=
  (controlLoop sys map).refines (Mailbox.machine Event) rfl
    (fun pre a => slot_step (slotOk_run sys map pre) a) acts

theorem postedSnapshots_eq (s : LoopState) (a : LoopStep) : postedSnapshots s a =
    (Mailbox.machine Event).traceFrom Mailbox.stored s.slot (s.slotSteps a) := by
  cases a with
  | storeSnapshot tsMs snap => rfl
  | pushMarker k =>
    unfold LoopState.slotSteps
    dsimp only
    split <;> rfl
  | post e => rfl
  | start => rfl
  | stop =>
    unfold LoopState.slotSteps
    dsimp only
    split <;> rfl
  | control nowMs =>
    unfold LoopState.slotSteps LoopState.slotControl
    dsimp only
    cases s.thread with
    | pop =>
      dsimp only
      cases s.loop.popEvent with
      | none => rfl
      | some r =>
        dsimp only
        split <;> rfl
    | absent => rfl
    | exited => rfl
    | test => rfl
    | take => rfl
    | handle e => rfl

theorem processedSnapshots_eq (s : LoopState) (a : LoopStep) : processedSnapshots s a =
    (Mailbox.machine Event).traceFrom Mailbox.finished s.slot (s.slotSteps a) := by
  cases a with
  | storeSnapshot tsMs snap => rfl
  | pushMarker k =>
    unfold LoopState.slotSteps
    dsimp only
    split <;> rfl
  | post e => rfl
  | start => rfl
  | stop =>
    unfold LoopState.slotSteps
    dsimp only
    split <;> rfl
  | control nowMs =>
    unfold processedSnapshots processed LoopState.slotSteps LoopState.slotControl
    dsimp only
    cases hthread : s.thread with
    | pop =>
      dsimp only
      cases s.loop.popEvent with
      | none => rfl
      | some r =>
        dsimp only
        split <;> rfl
    | absent => rfl
    | exited => rfl
    | test => rfl
    | take => rfl
    | handle e =>
      show [e].filter isSnapshot = (s.thread.held.filter isSnapshot).toList ++ []
      rw [hthread, List.append_nil]
      show [e].filter isSnapshot = ((some e).filter isSnapshot).toList
      cases hsnap : isSnapshot e with
      | true => rw [Option.filter_some_pos hsnap, List.filter_singleton, hsnap]; rfl
      | false => rw [Option.filter_some_neg hsnap, List.filter_singleton, hsnap]; rfl

/-- Only `stop` empties the slot. -/
theorem isStopCall_of_clear {s : LoopState} {a : LoopStep} (h : .clear ∈ s.slotSteps a) :
    IsStopCall a := by
  unfold LoopState.slotSteps at h
  cases a with
  | stop => trivial
  | storeSnapshot tsMs snap => cases List.mem_singleton.mp h
  | pushMarker k =>
    dsimp only at h
    split at h
    · cases List.mem_singleton.mp h
    · cases h
  | post e => cases h
  | start => cases h
  | control nowMs =>
    unfold LoopState.slotControl at h
    dsimp only at h
    split at h
    · cases h
    · cases h
    · cases h
    · split at h
      · cases h
      · split at h
        · cases List.mem_singleton.mp h
        · cases h
    · cases List.mem_singleton.mp h
    · cases List.mem_singleton.mp h

theorem not_isClear {acts : List LoopStep} (h : ∀ a ∈ acts, ¬ IsStopCall a)
    (x : MailboxStep Event) (hx : x ∈ (controlLoop sys map).trace LoopState.slotSteps acts) :
    ¬ Mailbox.IsClear x := by
  induction acts using List.reverseRecOn with
  | nil => cases hx
  | append_singleton acts a ih =>
    rw [Machine.trace_snoc] at hx
    obtain hx | hx := List.mem_append.mp hx
    · exact ih (fun b hb => h b (List.mem_append_left _ hb)) hx
    · have ha := h a (List.mem_append_right _ (List.mem_singleton_self a))
      intro hclear
      cases x with
      | clear => exact ha (isStopCall_of_clear hx)
      | store e => exact hclear
      | push => exact hclear
      | pop => exact hclear
      | take => exact hclear
      | finish => exact hclear

theorem announced_slot (acts : List LoopStep) :
    Mailbox.Announced ((controlLoop sys map).run acts).slot := by
  rw [slot_run]
  exact Mailbox.announced_invariant.run _

/-- The slot's history, in the terms of the control loop. -/
theorem kept_controlLoop {acts : List LoopStep} (h : ∀ a ∈ acts, ¬ IsStopCall a) :
    Mailbox.Kept ((controlLoop sys map).trace postedSnapshots acts)
      ((controlLoop sys map).trace processedSnapshots acts)
      ((controlLoop sys map).run acts).slot := by
  have hposted : postedSnapshots = fun s a =>
      (Mailbox.machine Event).traceFrom Mailbox.stored s.slot (s.slotSteps a) := by
    funext s a
    exact postedSnapshots_eq s a
  have hprocessed : processedSnapshots = fun s a =>
      (Mailbox.machine Event).traceFrom Mailbox.finished s.slot (s.slotSteps a) := by
    funext s a
    exact processedSnapshots_eq s a
  have hstep : ∀ pre a, ((controlLoop sys map).step ((controlLoop sys map).run pre) a).1.slot =
      (Mailbox.machine Event).runFrom ((controlLoop sys map).run pre).slot
        (((controlLoop sys map).run pre).slotSteps a) :=
    fun pre a => slot_step (slotOk_run sys map pre) a
  rw [hposted, hprocessed,
    (controlLoop sys map).trace_refines (Mailbox.machine Event) rfl hstep Mailbox.stored,
    (controlLoop sys map).trace_refines (Mailbox.machine Event) rfl hstep Mailbox.finished,
    slot_run]
  exact Mailbox.kept_run (not_isClear sys map h)

/-- Without a call of `stop`, one marker at most is on its way, there is one for every
snapshot that waits, and what is processed are the snapshots in the order in which they were
posted, the last one among them. -/
theorem latest_snapshot_kept {acts : List LoopStep} (h : ∀ a ∈ acts, ¬ IsStopCall a) :
    markersInFlight ((controlLoop sys map).run acts) ≤ 1 ∧
      (((controlLoop sys map).run acts).latestSnapshot ≠ none →
        markersInFlight ((controlLoop sys map).run acts) = 1) ∧
      ((controlLoop sys map).trace processedSnapshots acts).Sublist
        ((controlLoop sys map).trace postedSnapshots acts) ∧
      (Drained ((controlLoop sys map).run acts) →
        ((controlLoop sys map).trace processedSnapshots acts).getLast? =
          ((controlLoop sys map).trace postedSnapshots acts).getLast?) := by
  have hkept := kept_controlLoop sys map h
  have hmarked := (announced_slot sys map acts).marked
  generalize (controlLoop sys map).run acts = s at hkept hmarked ⊢
  have hflights : markersInFlight s = s.snapshotMarkerEnqueued.toNat := hkept.flights
  have hannounced : s.latestSnapshot ≠ none → s.snapshotMarkerEnqueued = true := hmarked
  refine ⟨?_, ?_, ?_, ?_⟩
  · rw [hflights]
    exact Bool.toNat_le _
  · intro hwaits
    rw [hflights, hannounced hwaits]
    rfl
  · have horder := hkept.order
    rw [List.append_assoc] at horder
    exact (List.sublist_append_left _ _).trans horder
  · intro hdrained
    have hnone : markersInFlight s = 0 := by
      unfold markersInFlight
      rw [hdrained.normal, hdrained.pushing, hdrained.taking]
      rfl
    have hslot : s.slot.slot = none := by
      by_contra hwaits
      rw [hflights, hannounced hwaits] at hnone
      cases hnone
    have hholding : s.slot.holding = none := by
      show s.thread.held.filter isSnapshot = none
      rw [hdrained.held]
      rfl
    rw [hkept.latest, hslot, hholding]
    rfl

/-- Two snapshots are posted before the thread takes the first; it processes the second. -/
theorem latest_snapshot_kept_second :
    ((controlLoop none none).trace processedSnapshots [.start, .control 0,
        .storeSnapshot 1 { tsMs := 1 }, .pushMarker 0, .storeSnapshot 2 { tsMs := 2 },
        .control 0, .control 0, .control 0]).getLast? =
      some ⟨2, .snapshot { tsMs := 2 }⟩ := by
  refine ((latest_snapshot_kept none none ?_).2.2.2 ⟨rfl, rfl, rfl, rfl, rfl⟩).trans rfl
  intro a ha
  simp only [List.mem_cons, List.not_mem_nil, or_false] at ha
  rcases ha with rfl | rfl | rfl | rfl | rfl | rfl | rfl | rfl <;> exact id

/-- Between the two steps of a poster the snapshot waits without a marker, and a second
poster leaves it to the first. -/
theorem unpushed_marker_waits :
    let acts : List LoopStep :=
      [.start, .control 0, .storeSnapshot 1 { tsMs := 1 }, .storeSnapshot 2 { tsMs := 2 }]
    let s := (controlLoop none none).run acts
    s.latestSnapshot.isSome = true ∧ s.loop.qHigh = [] ∧ s.loop.qNormal = [] ∧
      s.thread.isTake = false ∧ s.thread.held.isNone = true ∧
      ((controlLoop none none).trace postedSnapshots acts).length = 2 ∧
      (controlLoop none none).trace processedSnapshots acts = [] :=
  ⟨rfl, rfl, rfl, rfl, rfl, rfl, rfl⟩

end Logic
end EnergyStorage
