import EnergyStorage.Logic.SnapshotSlot

/-! # Stopping and starting the control thread again

`stop` lowers the flag and then posts an event that wakes the thread.  The thread that reads
the flag first leaves that event in the queue. -/

namespace EnergyStorage
namespace Logic

open Lib

/-- `stop` has returned. -/
def Stopped (s : LoopState) : Prop := s.stopping = .idle ∧ s.running = false

def Running (s : LoopState) : Prop := s.stopping = .idle ∧ s.running = true

def stopEvents (s : LoopState) : Nat := s.loop.qHigh.countP isStop

/-- The step is not the one by which the thread finds the flag lowered. -/
def FlagStillUp (s : LoopState) : LoopStep → Prop
  | .control _ => s.thread = .test → s.running = true
  | .storeSnapshot _ _ | .pushMarker _ | .post _ | .start | .stop => True

/-- The event that a step posts. -/
def Posts (e : Event) : LoopStep → Prop
  | .storeSnapshot tsMs snap => e = ⟨tsMs, .snapshot snap⟩
  | .post x => e = x.event
  | .pushMarker _ | .start | .stop | .control _ => False

/-- A snapshot that waits gives way to a later one. -/
def Overtaken (e : Event) (acts : List LoopStep) : Prop :=
  isSnapshot e = true ∧ ∃ a ∈ acts, ∃ tsMs snap, a = .storeSnapshot tsMs snap

/-- The steps of the thread and of the posters that are under way. -/
def GoesOn : LoopStep → Prop
  | .control _ | .pushMarker _ => True
  | .storeSnapshot _ _ | .post _ | .start | .stop => False

/-- The event waits to be given to the engine. -/
def Awaits (e : Event) (s : LoopState) : Prop :=
  s.thread.held = some e ∨
    (isSnapshot e = false ∧ isStop e = false ∧ (e ∈ s.loop.qHigh ∨ e ∈ s.loop.qNormal)) ∨
    s.latestSnapshot = some e

/-! ### Where the `Stop` event is -/

def ThreadAt.Alive : ThreadAt → Prop
  | .test | .pop | .take | .handle _ => True
  | .absent | .exited => False

/-- The thread and the queue, by where the caller of `stop` stands. -/
def StopOk (s : LoopState) : Prop :=
  match s.stopping with
  | .idle => stopEvents s = 0 ∧ if s.running then s.thread.Alive else s.thread = .absent
  | .clear | .push => stopEvents s = 0 ∧ s.running = false ∧ s.thread.Alive
  | .join =>
    s.running = false ∧
      (stopEvents s = 1 ∧ s.thread.Alive ∨ stopEvents s = 0 ∧ s.thread = .exited)

structure LoopOk (s : LoopState) : Prop where
  slot : SlotOk s
  normal : ∀ e ∈ s.loop.qNormal, isStop e = false
  stop : StopOk s

theorem isSnapshot_of_isStop {e : Event} (h : isStop e = true) : isSnapshot e = false := by
  obtain ⟨tsMs, body⟩ := e
  cases body <;> first | rfl | cases h

theorem high_of_isStop {e : Event} (h : isStop e = true) :
    ControlLoop.isHighPriorityEvent e = true := by
  obtain ⟨tsMs, body⟩ := e
  cases body <;> first | rfl | cases h

theorem qHigh_pushEvent {e : Event} (q : ControlLoop) (h : isStop e = false) :
    (q.pushEvent e).qHigh.countP isStop = q.qHigh.countP isStop := by
  cases hhigh : ControlLoop.isHighPriorityEvent e with
  | false => rw [qHigh_pushEvent_of_low hhigh]
  | true =>
    rw [qHigh_pushEvent_of_high hhigh, List.countP_append, List.countP_singleton, h]
    rfl

theorem normal_pushEvent {q : ControlLoop} (hq : ∀ x ∈ q.qNormal, isStop x = false) (e : Event) :
    ∀ x ∈ (q.pushEvent e).qNormal, isStop x = false := by
  cases hhigh : ControlLoop.isHighPriorityEvent e with
  | true =>
    rw [qHigh_pushEvent_of_high hhigh]
    exact hq
  | false =>
    rw [qHigh_pushEvent_of_low hhigh]
    intro x hx
    obtain hx | hx := List.mem_append.mp hx
    · exact hq x hx
    · rw [List.mem_singleton.mp hx]
      by_contra hstop
      rw [high_of_isStop (Bool.eq_true_of_not_eq_false hstop)] at hhigh
      cases hhigh

theorem StopOk.of_alive {s s' : LoopState} (h : StopOk s) (hstopping : s'.stopping = s.stopping)
    (hrunning : s'.running = s.running) (hevents : stopEvents s' = stopEvents s)
    (hold : s.thread.Alive) (hnew : s'.thread.Alive) : StopOk s' := by
  unfold StopOk at h ⊢
  rw [hstopping, hrunning, hevents]
  cases hat : s.stopping with
  | idle =>
    rw [hat] at h
    obtain ⟨hnone, hthread⟩ := h
    refine ⟨hnone, ?_⟩
    cases hrun : s.running with
    | true => exact hnew
    | false =>
      rw [hrun] at hthread
      change s.thread = .absent at hthread
      rw [hthread] at hold
      cases hold
  | clear =>
    rw [hat] at h
    exact ⟨h.1, h.2.1, hnew⟩
  | push =>
    rw [hat] at h
    exact ⟨h.1, h.2.1, hnew⟩
  | join =>
    rw [hat] at h
    obtain ⟨hrun, ⟨hone, -⟩ | ⟨-, hexited⟩⟩ := h
    · exact ⟨hrun, Or.inl ⟨hone, hnew⟩⟩
    · rw [hexited] at hold
      cases hold

/-- The thread pops a `Stop` only after `stop` has posted it. -/
theorem StopOk.pop_stop {s : LoopState} (h : StopOk s) (halive : s.thread.Alive) {n : Nat}
    (hone : stopEvents s = n + 1) : s.stopping = .join ∧ s.running = false ∧ n = 0 := by
  unfold StopOk at h
  cases hat : s.stopping with
  | idle =>
    rw [hat] at h
    have hnone := h.1
    omega
  | clear =>
    rw [hat] at h
    have hnone := h.1
    omega
  | push =>
    rw [hat] at h
    have hnone := h.1
    omega
  | join =>
    rw [hat] at h
    obtain ⟨hrun, ⟨hcount, -⟩ | ⟨-, hexited⟩⟩ := h
    · exact ⟨rfl, hrun, by omega⟩
    · rw [hexited] at halive
      cases halive

theorem LoopOk.pop {s : LoopState} (h : LoopOk s) (hthread : s.thread = .pop) {e : Event}
    {loop : ControlLoop} (hpop : s.loop.popEvent = some (e, loop)) :
    (∀ x ∈ loop.qNormal, isStop x = false) ∧
      StopOk { s with loop := loop, thread := LoopState.afterPop e } := by
  have halive : s.thread.Alive := by
    rw [hthread]
    trivial
  obtain ⟨hhigh, hnormal⟩ | ⟨hhigh, hhigh', hnormal⟩ := popEvent_cases hpop
  · refine ⟨hnormal ▸ h.normal, ?_⟩
    have hcount : stopEvents s = loop.qHigh.countP isStop + (isStop e).toNat := by
      unfold stopEvents
      rw [hhigh, List.countP_cons]
      cases isStop e <;> rfl
    cases hstop : isStop e with
    | true =>
      rw [hstop] at hcount
      obtain ⟨hjoin, hrun, hnone⟩ := h.stop.pop_stop halive hcount
      unfold StopOk
      rw [hjoin]
      refine ⟨hrun, Or.inr ⟨hnone, ?_⟩⟩
      show LoopState.afterPop e = .exited
      unfold LoopState.afterPop
      rw [hstop]
      rfl
    | false =>
      rw [hstop] at hcount
      refine h.stop.of_alive rfl rfl hcount.symm halive ?_
      show (LoopState.afterPop e).Alive
      unfold LoopState.afterPop
      rw [hstop]
      cases isSnapshot e <;> trivial
  · have hstop : isStop e = false := h.normal e (by rw [hnormal]; exact List.mem_cons_self)
    refine ⟨fun x hx => h.normal x (by rw [hnormal]; exact List.mem_cons_of_mem e hx), ?_⟩
    refine h.stop.of_alive rfl rfl ?_ halive ?_
    · show loop.qHigh.countP isStop = s.loop.qHigh.countP isStop
      rw [hhigh, hhigh']
    · show (LoopState.afterPop e).Alive
      unfold LoopState.afterPop
      rw [hstop]
      cases isSnapshot e <;> trivial

theorem LoopOk.control {s : LoopState} (h : LoopOk s) (nowMs : Nat)
    (hup : s.thread = .test → s.running = true) : LoopOk (s.control nowMs).1 := by
  suffices hboth : (∀ x ∈ (s.control nowMs).1.loop.qNormal, isStop x = false) ∧
      StopOk (s.control nowMs).1 from ⟨h.slot.control nowMs, hboth.1, hboth.2⟩
  have hkeep : ∀ {s' : LoopState}, s.thread.Alive → s'.stopping = s.stopping →
      s'.running = s.running → stopEvents s' = stopEvents s → s'.thread.Alive → StopOk s' :=
    fun hold hstopping hrunning hevents => h.stop.of_alive hstopping hrunning hevents hold
  unfold LoopState.control
  cases hthread : s.thread with
  | absent => exact ⟨h.normal, h.stop⟩
  | exited => exact ⟨h.normal, h.stop⟩
  | test =>
    rw [hthread] at hkeep
    refine ⟨h.normal, hkeep trivial rfl rfl rfl ?_⟩
    show ThreadAt.Alive (if s.running then .pop else .exited)
    rw [hup hthread]
    trivial
  | pop =>
    cases hpop : s.loop.popEvent with
    | none => exact ⟨h.normal, h.stop⟩
    | some r => exact h.pop hthread hpop
  | take =>
    rw [hthread] at hkeep
    cases s.latestSnapshot with
    | none => exact ⟨h.normal, hkeep trivial rfl rfl rfl trivial⟩
    | some e => exact ⟨h.normal, hkeep trivial rfl rfl rfl trivial⟩
  | handle e =>
    rw [hthread] at hkeep
    exact ⟨h.normal, hkeep trivial rfl rfl rfl trivial⟩

theorem LoopOk.pushEvent {s : LoopState} (h : LoopOk s) {e : Event} (hstop : isStop e = false)
    {s' : LoopState} (hslot : SlotOk s') (hloop : s'.loop = s.loop.pushEvent e)
    (hstopping : s'.stopping = s.stopping) (hrunning : s'.running = s.running)
    (hthread : s'.thread = s.thread) : LoopOk s' := by
  refine ⟨hslot, ?_, ?_⟩
  · rw [hloop]
    exact normal_pushEvent h.normal e
  · have hevents : stopEvents s' = stopEvents s := by
      unfold stopEvents
      rw [hloop]
      exact qHigh_pushEvent s.loop hstop
    have hok := h.stop
    unfold StopOk at hok ⊢
    rw [hstopping, hrunning, hthread, hevents]
    exact hok

theorem StopOk.start {s : LoopState} (h : StopOk s) : StopOk s.start := by
  unfold LoopState.start
  cases hat : s.stopping with
  | clear => exact h
  | push => exact h
  | join => exact h
  | idle =>
    cases hrun : s.running with
    | true => exact h
    | false =>
      unfold StopOk at h
      rw [hat] at h
      exact ⟨h.1, trivial⟩

theorem stopEvents_stopEvent (q : ControlLoop) :
    (q.pushEvent LoopState.stopEvent).qHigh.countP isStop = q.qHigh.countP isStop + 1 := by
  rw [qHigh_pushEvent_of_high rfl, List.countP_append]
  rfl

theorem StopOk.stop {s : LoopState} (h : StopOk s) : StopOk s.stop := by
  unfold LoopState.stop
  cases hat : s.stopping with
  | idle =>
    cases hrun : s.running with
    | false => exact h
    | true =>
      unfold StopOk at h
      rw [hat, hrun] at h
      exact ⟨h.1, rfl, h.2⟩
  | clear =>
    unfold StopOk at h
    rw [hat] at h
    exact h
  | push =>
    unfold StopOk at h
    rw [hat] at h
    obtain ⟨hnone, hrun, halive⟩ := h
    refine ⟨hrun, Or.inl ⟨?_, halive⟩⟩
    show (s.loop.pushEvent LoopState.stopEvent).qHigh.countP isStop = 1
    rw [stopEvents_stopEvent]
    exact congrArg (· + 1) hnone
  | join =>
    cases hthread : s.thread with
    | exited =>
      unfold StopOk at h
      rw [hat, hthread] at h
      obtain ⟨hrun, ⟨-, halive⟩ | ⟨hnone, -⟩⟩ := h
      · cases halive
      · show StopOk { s with thread := .absent, stopping := .idle }
        unfold StopOk
        refine ⟨hnone, ?_⟩
        dsimp only
        rw [hrun]
        rfl
    | absent => exact h
    | test => exact h
    | pop => exact h
    | take => exact h
    | handle e => exact h

theorem loop_start (s : LoopState) : s.start.loop = s.loop := by
  unfold LoopState.start
  split
  · split <;> rfl
  · rfl
  · rfl
  · rfl

theorem normal_stop {s : LoopState} (h : ∀ x ∈ s.loop.qNormal, isStop x = false) :
    ∀ x ∈ s.stop.loop.qNormal, isStop x = false := by
  unfold LoopState.stop
  cases s.stopping with
  | idle =>
    dsimp only
    split <;> exact h
  | clear => exact h
  | push => exact normal_pushEvent h LoopState.stopEvent
  | join =>
    dsimp only
    split <;> exact h

theorem LoopOk.step {s : LoopState} (h : LoopOk s) {a : LoopStep} (ha : FlagStillUp s a) :
    LoopOk (s.step a).1 := by
  have hslot := h.slot.step a
  cases a with
  | storeSnapshot tsMs snap => exact ⟨hslot, h.normal, h.stop⟩
  | pushMarker k =>
    change LoopOk (s.pushMarker k)
    change SlotOk (s.pushMarker k) at hslot
    rw [LoopState.pushMarker] at hslot ⊢
    cases hk : s.pushing[k]? with
    | none => exact h
    | some e =>
      rw [hk] at hslot
      refine h.pushEvent ?_ hslot rfl rfl rfl rfl
      have hsnap := h.slot.pushing e (List.mem_of_getElem? hk)
      by_contra hstop
      rw [isSnapshot_of_isStop (Bool.eq_true_of_not_eq_false hstop)] at hsnap
      cases hsnap
  | post e => exact h.pushEvent e.notStop hslot rfl rfl rfl rfl
  | start => exact ⟨hslot, (loop_start s).symm ▸ h.normal, h.stop.start⟩
  | stop => exact ⟨hslot, normal_stop h.normal, h.stop.stop⟩
  | control nowMs => exact h.control nowMs ha

/-! ### The running loop processes what is posted -/

structure Ready (s : LoopState) : Prop where
  ok : LoopOk s
  running : Running s
  announced : Mailbox.Announced s.slot

theorem Ready.alive {s : LoopState} (h : Ready s) : s.thread.Alive := by
  have hstop := h.ok.stop
  unfold StopOk at hstop
  rw [h.running.1, h.running.2] at hstop
  exact hstop.2

theorem control_running (s : LoopState) (nowMs : Nat) :
    (s.control nowMs).1.stopping = s.stopping ∧ (s.control nowMs).1.running = s.running := by
  unfold LoopState.control
  cases s.thread with
  | absent => exact ⟨rfl, rfl⟩
  | exited => exact ⟨rfl, rfl⟩
  | test => exact ⟨rfl, rfl⟩
  | handle e => exact ⟨rfl, rfl⟩
  | pop =>
    cases s.loop.popEvent with
    | none => exact ⟨rfl, rfl⟩
    | some r => exact ⟨rfl, rfl⟩
  | take =>
    cases s.latestSnapshot with
    | none => exact ⟨rfl, rfl⟩
    | some e => exact ⟨rfl, rfl⟩

theorem start_of_running {s : LoopState} (h : Running s) : s.start = s := by
  unfold LoopState.start
  rw [h.1, h.2]
  exact if_pos rfl

theorem Running.step {s : LoopState} (h : Running s) {a : LoopStep} (ha : ¬ IsStopCall a) :
    Running (s.step a).1 := by
  cases a with
  | storeSnapshot tsMs snap => exact h
  | pushMarker k =>
    show Running (s.pushMarker k)
    unfold LoopState.pushMarker
    split
    · exact h
    · exact h
  | post e => exact h
  | start =>
    show Running s.start
    rw [start_of_running h]
    exact h
  | stop => exact absurd trivial ha
  | control nowMs =>
    obtain ⟨hstopping, hrunning⟩ := control_running s nowMs
    exact ⟨hstopping.trans h.1, hrunning.trans h.2⟩

theorem Ready.step {s : LoopState} (h : Ready s) {a : LoopStep} (ha : ¬ IsStopCall a) :
    Ready (s.step a).1 := by
  have hup : FlagStillUp s a := by
    cases a with
    | control nowMs => exact fun _ => h.running.2
    | storeSnapshot tsMs snap => trivial
    | pushMarker k => trivial
    | post e => trivial
    | start => trivial
    | stop => trivial
  refine ⟨h.ok.step hup, h.running.step ha, ?_⟩
  rw [slot_step h.ok.slot]
  exact Mailbox.announced_invariant.runFrom h.announced _

theorem mem_pushEvent (q : ControlLoop) (e : Event) :
    e ∈ (q.pushEvent e).qHigh ∨ e ∈ (q.pushEvent e).qNormal := by
  cases hhigh : ControlLoop.isHighPriorityEvent e with
  | false =>
    rw [qHigh_pushEvent_of_low hhigh]
    exact Or.inr (List.mem_append_right _ (List.mem_singleton_self e))
  | true =>
    rw [qHigh_pushEvent_of_high hhigh]
    exact Or.inl (List.mem_append_right _ (List.mem_singleton_self e))

theorem mem_pushEvent_of_mem {q : ControlLoop} {x : Event} (e : Event)
    (h : x ∈ q.qHigh ∨ x ∈ q.qNormal) :
    x ∈ (q.pushEvent e).qHigh ∨ x ∈ (q.pushEvent e).qNormal := by
  cases hhigh : ControlLoop.isHighPriorityEvent e with
  | false =>
    rw [qHigh_pushEvent_of_low hhigh]
    exact h.imp id (List.mem_append_left _)
  | true =>
    rw [qHigh_pushEvent_of_high hhigh]
    exact h.imp (List.mem_append_left _) id

theorem Posts.awaits {s : LoopState} {a : LoopStep} {e : Event} (h : Posts e a) :
    Awaits e (s.step a).1 := by
  cases a with
  | storeSnapshot tsMs snap =>
    rw [show e = _ from h]
    exact Or.inr (Or.inr rfl)
  | post x =>
    rw [show e = _ from h]
    exact Or.inr (Or.inl ⟨x.notSnapshot, x.notStop, mem_pushEvent s.loop x.event⟩)
  | pushMarker k => cases h
  | start => cases h
  | stop => cases h
  | control nowMs => cases h

theorem Awaits.pushEvent {s s' : LoopState} {e x : Event} (h : Awaits e s)
    (hthread : s'.thread = s.thread) (hlatest : s'.latestSnapshot = s.latestSnapshot)
    (hloop : s'.loop = s.loop.pushEvent x) : Awaits e s' := by
  unfold Awaits at h ⊢
  rw [hthread, hlatest, hloop]
  obtain hheld | ⟨hsnap, hstop, hmem⟩ | hwaits := h
  · exact Or.inl hheld
  · exact Or.inr (Or.inl ⟨hsnap, hstop, mem_pushEvent_of_mem x hmem⟩)
  · exact Or.inr (Or.inr hwaits)

theorem held_afterPop {e : Event} (hsnap : isSnapshot e = false) (hstop : isStop e = false) :
    (LoopState.afterPop e).held = some e := by
  unfold LoopState.afterPop
  rw [hstop, hsnap]
  rfl

/-- What the thread does with an event that waits: it brings it on, or leaves it. -/
theorem Awaits.control {s : LoopState} {e : Event} (h : Awaits e s) (nowMs : Nat) :
    e ∈ processed s (.control nowMs) ∨ Awaits e (s.control nowMs).1 := by
  unfold Awaits at h
  unfold processed LoopState.control
  cases hthread : s.thread with
  | absent => exact Or.inr h
  | exited => exact Or.inr h
  | test =>
    rw [hthread] at h
    obtain hheld | hmem | hwaits := h
    · cases hheld
    · exact Or.inr (Or.inr (Or.inl hmem))
    · exact Or.inr (Or.inr (Or.inr hwaits))
  | handle x =>
    rw [hthread] at h
    obtain hheld | hmem | hwaits := h
    · exact Or.inl (Option.mem_toList.mpr hheld)
    · exact Or.inr (Or.inr (Or.inl hmem))
    · exact Or.inr (Or.inr (Or.inr hwaits))
  | take =>
    rw [hthread] at h
    obtain hheld | hmem | hwaits := h
    · cases hheld
    · right
      cases s.latestSnapshot with
      | none => exact Or.inr (Or.inl hmem)
      | some x => exact Or.inr (Or.inl hmem)
    · rw [hwaits]
      exact Or.inr (Or.inl rfl)
  | pop =>
    rw [hthread] at h
    obtain hheld | ⟨hsnap, hstop, hmem⟩ | hwaits := h
    · cases hheld
    · right
      cases hpop : s.loop.popEvent with
      | none => exact Or.inr (Or.inl ⟨hsnap, hstop, hmem⟩)
      | some r =>
        obtain ⟨x, loop⟩ := r
        by_cases hx : e = x
        · rw [← hx]
          exact Or.inl (held_afterPop hsnap hstop)
        · refine Or.inr (Or.inl ⟨hsnap, hstop, ?_⟩)
          obtain ⟨hhigh, hnormal⟩ | ⟨hhigh, -, hnormal⟩ := popEvent_cases hpop
          · rw [hhigh, hnormal, List.mem_cons] at hmem
            exact hmem.imp (fun hor => hor.resolve_left hx) id
          · rw [hhigh, hnormal, List.mem_cons] at hmem
            obtain hnil | hor := hmem
            · cases hnil
            · exact Or.inr (hor.resolve_left hx)
    · right
      cases s.loop.popEvent with
      | none => exact Or.inr (Or.inr hwaits)
      | some r => exact Or.inr (Or.inr hwaits)

/-- An event that waits goes on waiting until it is processed, or overtaken by a snapshot. -/
theorem Awaits.step {s : LoopState} {e : Event} (h : Awaits e s) (hready : Ready s) {a : LoopStep}
    (ha : ¬ IsStopCall a) :
    e ∈ processed s a ∨ Overtaken e [a] ∨ Awaits e (s.step a).1 := by
  cases a with
  | storeSnapshot tsMs snap =>
    obtain hheld | hmem | hwaits := h
    · exact Or.inr (Or.inr (Or.inl hheld))
    · exact Or.inr (Or.inr (Or.inr (Or.inl hmem)))
    · have hsnap := hready.ok.slot.latest e hwaits
      exact Or.inr (Or.inl ⟨hsnap, _, List.mem_singleton_self _, tsMs, snap, rfl⟩)
  | pushMarker k =>
    right
    right
    show Awaits e (s.pushMarker k)
    unfold LoopState.pushMarker
    cases s.pushing[k]? with
    | none => exact h
    | some x => exact h.pushEvent rfl rfl rfl
  | post x => exact Or.inr (Or.inr (h.pushEvent rfl rfl rfl))
  | start =>
    right
    right
    show Awaits e s.start
    rw [start_of_running hready.running]
    exact h
  | stop => exact absurd trivial ha
  | control nowMs => exact (h.control nowMs).imp id Or.inr

def threadWeight : ThreadAt → Nat
  | .absent | .exited | .pop => 0
  | .test => 1
  | .handle _ => 2
  | .take => 3

/-- Steps that are left until nothing is queued or about to be. -/
def weight (s : LoopState) : Nat :=
  4 * (s.loop.qHigh.length + s.loop.qNormal.length) + 5 * s.pushing.length + threadWeight s.thread

theorem length_pushEvent (q : ControlLoop) (e : Event) :
    (q.pushEvent e).qHigh.length + (q.pushEvent e).qNormal.length =
      q.qHigh.length + q.qNormal.length + 1 := by
  cases hhigh : ControlLoop.isHighPriorityEvent e with
  | false =>
    rw [qHigh_pushEvent_of_low hhigh, List.length_append]
    rfl
  | true =>
    rw [qHigh_pushEvent_of_high hhigh, List.length_append, List.length_singleton]
    exact Nat.add_right_comm _ _ _

theorem weight_pushMarker {s : LoopState} (h : s.pushing ≠ []) :
    weight (s.pushMarker 0) < weight s := by
  unfold LoopState.pushMarker
  cases hpush : s.pushing with
  | nil => exact absurd hpush h
  | cons x rest =>
    show weight { s with loop := s.loop.pushEvent x, pushing := rest } < weight s
    unfold weight
    dsimp only
    rw [length_pushEvent, hpush, List.length_cons]
    omega

theorem weight_control {s : LoopState} (halive : s.thread.Alive)
    (hpop : s.thread = .pop → s.loop.popEvent ≠ none) (nowMs : Nat) :
    weight (s.control nowMs).1 < weight s := by
  unfold LoopState.control
  cases hthread : s.thread with
  | absent =>
    rw [hthread] at halive
    cases halive
  | exited =>
    rw [hthread] at halive
    cases halive
  | test =>
    unfold weight
    rw [hthread]
    cases s.running <;> exact Nat.lt_succ_self _
  | handle e =>
    unfold weight
    rw [hthread]
    exact Nat.lt_succ_self _
  | take =>
    unfold weight
    rw [hthread]
    cases s.latestSnapshot with
    | none => exact Nat.add_lt_add_left (show 1 < 3 by decide) _
    | some e => exact Nat.add_lt_add_left (show 2 < 3 by decide) _
  | pop =>
    cases hnext : s.loop.popEvent with
    | none => exact absurd hnext (hpop hthread)
    | some r =>
      obtain ⟨x, loop⟩ := r
      have hsmall : threadWeight (LoopState.afterPop x) ≤ 3 := by
        unfold LoopState.afterPop
        split
        · exact Nat.zero_le 3
        · split
          · exact Nat.le_refl 3
          · exact Nat.le_succ 2
      show 4 * (loop.qHigh.length + loop.qNormal.length) + 5 * s.pushing.length +
        threadWeight (LoopState.afterPop x) < weight s
      unfold weight
      obtain ⟨hhigh, hnormal⟩ | ⟨hhigh, hhigh', hnormal⟩ := popEvent_cases hnext
      · rw [hhigh, hnormal, List.length_cons]
        omega
      · rw [hhigh, hhigh', hnormal, List.length_cons]
        omega

theorem queues_empty {q : ControlLoop} (h : q.popEvent = none) :
    q.qHigh = [] ∧ q.qNormal = [] := by
  obtain ⟨qHigh, qNormal⟩ := q
  cases qHigh with
  | cons x rest => cases h
  | nil =>
    cases qNormal with
    | cons x rest => cases h
    | nil => exact ⟨rfl, rfl⟩

/-- Some step of the thread or of a poster brings a waiting event on. -/
theorem goesOn_step {s : LoopState} {e : Event} (h : Awaits e s) (hready : Ready s) :
    ∃ a, GoesOn a ∧ (e ∈ processed s a ∨
      (Ready (s.step a).1 ∧ Awaits e (s.step a).1) ∧ weight (s.step a).1 < weight s) := by
  by_cases hstuck : s.thread = .pop ∧ s.loop.popEvent = none
  -- only a snapshot can wait here, and a poster has still to push its marker
  · obtain ⟨hthread, hempty⟩ := hstuck
    have hnil := queues_empty hempty
    have hpushing : s.pushing ≠ [] := by
      unfold Awaits at h
      rw [hthread, hnil.1, hnil.2] at h
      obtain hheld | ⟨-, -, hmem⟩ | hwaits := h
      · cases hheld
      · obtain hmem | hmem := hmem <;> cases hmem
      · intro hnone
        have hslot : s.slot.slot ≠ none := by
          show s.latestSnapshot ≠ none
          rw [hwaits]
          exact Option.some_ne_none e
        have hflying := hready.announced.flying (hready.announced.marked hslot)
        have hzero : s.slot.flights = 0 := by
          show s.pushing.length + s.loop.qNormal.countP isSnapshot + s.thread.isTake.toNat = 0
          rw [hnone, hnil.2, hthread]
          rfl
        omega
    have hnext := h.step hready (a := .pushMarker 0) id
    refine ⟨.pushMarker 0, trivial, ?_⟩
    obtain hdone | ⟨-, a, ha, tsMs, snap, hstore⟩ | hawaits := hnext
    · cases hdone
    · rw [List.mem_singleton.mp ha] at hstore
      cases hstore
    · exact Or.inr ⟨⟨hready.step id, hawaits⟩, weight_pushMarker hpushing⟩
  · have hless := weight_control hready.alive (fun hthread hnone => hstuck ⟨hthread, hnone⟩) 0
    refine ⟨.control 0, trivial, ?_⟩
    obtain hdone | hawaits := h.control 0
    · exact Or.inl hdone
    · exact Or.inr ⟨⟨hready.step id, hawaits⟩, hless⟩

variable (sys : Option (List CanLinkCfg)) (map : Option HmiMapModel)

theorem exists_processed {s : LoopState} {e : Event} (h : Awaits e s) (hready : Ready s) :
    ∃ more, (∀ a ∈ more, GoesOn a) ∧ e ∈ (controlLoop sys map).traceFrom processed s more :=
  (controlLoop sys map).exists_mem_traceFrom (I := fun s => Ready s ∧ Awaits e s) weight
    (fun _ hs => goesOn_step hs.2 hs.1) ⟨hready, h⟩

/-- An event is processed by the steps taken, gives way to a later snapshot, or will be
processed when the thread and the posters go on. -/
def ProcessedBy (e : Event) (s : LoopState) (acts : List LoopStep) : Prop :=
  e ∈ (controlLoop sys map).traceFrom processed s acts ∨ Overtaken e acts ∨
    ∃ more, (∀ a ∈ more, GoesOn a) ∧
      e ∈ (controlLoop sys map).traceFrom processed ((controlLoop sys map).runFrom s acts) more

theorem Awaits.processedBy {s : LoopState} {e : Event} (h : Awaits e s) (hready : Ready s)
    {acts : List LoopStep} (hacts : ∀ a ∈ acts, ¬ IsStopCall a) :
    ProcessedBy sys map e s acts := by
  induction acts generalizing s with
  | nil => exact Or.inr (Or.inr (exists_processed sys map h hready))
  | cons a acts ih =>
    have ha := hacts a List.mem_cons_self
    obtain hdone | ⟨hsnap, b, hb, hstore⟩ | hawaits := h.step hready ha
    · exact Or.inl (List.mem_append_left _ hdone)
    · rw [List.mem_singleton.mp hb] at hstore
      exact Or.inr (Or.inl ⟨hsnap, a, List.mem_cons_self, hstore⟩)
    · obtain hdone | ⟨hsnap, b, hb, hstore⟩ | hlater :=
        ih hawaits (hready.step ha) fun b hb => hacts b (List.mem_cons_of_mem a hb)
      · exact Or.inl (List.mem_append_right _ hdone)
      · exact Or.inr (Or.inl ⟨hsnap, b, List.mem_cons_of_mem a hb, hstore⟩)
      · exact Or.inr (Or.inr hlater)

theorem loopOk_run {acts : List LoopStep} (h : (controlLoop sys map).EveryStep FlagStillUp acts) :
    LoopOk ((controlLoop sys map).run acts) := by
  have hstart : LoopOk (controlLoop sys map).start :=
    ⟨⟨nofun, nofun, nofun, fun _ _ => rfl⟩, nofun, ⟨rfl, rfl⟩⟩
  exact h.invariant hstart fun s a hs ha => hs.step ha

/-- In a run in which the thread never finds the flag lowered, `stop` leaves no `Stop` in the
queue, and what is posted while the loop is running is processed, whatever happens before the
next `stop`. -/
theorem stop_event_taken {acts : List LoopStep}
    (h : (controlLoop sys map).EveryStep FlagStillUp acts) :
    (∀ pre, pre <+: acts → Stopped ((controlLoop sys map).run pre) →
      stopEvents ((controlLoop sys map).run pre) = 0) ∧
    ∀ pre a mid e, pre ++ a :: mid <+: acts → Running ((controlLoop sys map).run pre) →
      Posts e a → (∀ x ∈ mid, ¬ IsStopCall x) →
        ProcessedBy sys map e ((controlLoop sys map).run (pre ++ [a])) mid := by
  have hok : ∀ pre, pre <+: acts → LoopOk ((controlLoop sys map).run pre) := by
    intro pre hpre
    exact loopOk_run sys map fun p x hp => h p x (hp.trans hpre)
  constructor
  · intro pre hpre hstopped
    have hstop := (hok pre hpre).stop
    unfold StopOk at hstop
    rw [hstopped.1] at hstop
    exact hstop.1
  · intro pre a mid e hpre hrunning hposts hmid
    have hready : Ready ((controlLoop sys map).run pre) :=
      ⟨hok pre ((List.prefix_append _ _).trans hpre), hrunning, announced_slot sys map pre⟩
    have ha : ¬ IsStopCall a := by
      intro hstop
      cases a <;> first | exact hstop | exact hposts
    rw [Machine.run_snoc]
    exact hposts.awaits.processedBy sys map (hready.step ha) hmid

def heartbeatAt (tsMs : Nat) : PlainEvent := ⟨⟨tsMs, .hmiHeartbeat⟩, rfl, rfl⟩

/-- The loop is stopped while its thread waits, and started again. -/
def restarted : List LoopStep :=
  [.start, .control 0, .stop, .stop, .stop, .control 0, .stop, .start, .post (heartbeatAt 7)]

theorem stop_event_taken_waiting :
    stopEvents ((controlLoop none none).run (restarted.take 7)) = 0 ∧
      ProcessedBy none none (heartbeatAt 7).event ((controlLoop none none).run restarted) [] := by
  have hsteps : restarted = ((((((((([] ++ [restarted[0]]) ++ [restarted[1]]) ++ [restarted[2]]) ++
      [restarted[3]]) ++ [restarted[4]]) ++ [restarted[5]]) ++ [restarted[6]]) ++
      [restarted[7]]) ++ [restarted[8]]) := rfl
  have hup : (controlLoop none none).EveryStep FlagStillUp restarted := by
    rw [hsteps]
    simp only [Machine.everyStep_snoc]
    exact ⟨⟨⟨⟨⟨⟨⟨⟨⟨Machine.everyStep_nil _ _, trivial⟩, fun _ => rfl⟩, trivial⟩, trivial⟩,
      trivial⟩, nofun⟩, trivial⟩, trivial⟩, trivial⟩
  obtain ⟨hstopped, hposted⟩ := stop_event_taken none none hup
  constructor
  · exact hstopped (restarted.take 7) (List.take_prefix 7 restarted) ⟨rfl, rfl⟩
  · exact hposted (restarted.take 8) (.post (heartbeatAt 7)) [] _ (List.prefix_refl _) ⟨rfl, rfl⟩
      rfl nofun

/-- The thread handles an event when `stop` is called. -/
def stoppedBusy : List LoopStep :=
  [.start, .control 0, .post (heartbeatAt 5), .control 0, .stop, .control 0, .control 0,
    .stop, .stop, .stop]

/-- It finds the flag lowered, and the thread that is started next takes the `Stop` of its
predecessor. -/
theorem stop_event_left :
    let s := (controlLoop none none).run stoppedBusy
    let s' := (controlLoop none none).run
      (stoppedBusy ++ [.start, .control 0, .control 0, .post (heartbeatAt 7)])
    s.stopping = .idle ∧ s.running = false ∧ stopEvents s = 1 ∧
      s'.stopping = .idle ∧ s'.running = true ∧ s'.loop.qHigh = [(heartbeatAt 7).event] ∧
      ∀ nowMs, s'.control nowMs = (s', []) ∧ processed s' (.control nowMs) = [] :=
  ⟨rfl, rfl, rfl, rfl, rfl, rfl, fun _ => ⟨rfl, rfl⟩⟩

end Logic
end EnergyStorage
