import EnergyStorage.Lib.Machine
import EnergyStorage.Lib.Sampling
import EnergyStorage.Scheduler.DeviceScheduler

/-! # Starting and stopping the scheduler

The scheduler and its timer each have a flag of their own, and the timer a thread and a list
of callbacks besides.  Any number of calls of `start` and `stop` may be under way. -/

namespace EnergyStorage
namespace Scheduler

open Lib

def schedTickMs : Nat := 50

/-- Where a call of `start` stands that has found the flag lowered. -/
inductive StartCall
  | loadTasks
  | addPeriodic
  /-- in `SchedulerTimer::start` -/
  | raiseFlag
  | spawn

/-- Where a call of `stop` stands that has found the flag up. -/
inductive StopCall
  | testAgain
  /-- in `SchedulerTimer::stop` -/
  | lowerFlag
  | join

/-- Where the timer's thread stands in `threadFunc`.  From `round` to `send` it holds the lock
of the timer, in the pass that began at `now`, before or in the callback of item `k`. -/
inductive TimerThread
  | absent
  | test
  | round (now k : Nat)
  /-- in `pollTick`, which has read the clock -/
  | tick (now k clock : Nat)
  /-- in `pollTick`, past its lock -/
  | send (now k : Nat) (due : List PollTask) (changed : List String)
  | exited

structure SchedulerTimer where
  running : Bool := false
  /-- The next tick of each item; all of them call `pollTick` and have its period. -/
  items : List Nat := []
  thread : TimerThread := .absent

structure CycleState where
  nowMs : Nat
  sched : DeviceScheduler
  running : Bool := false
  timer : SchedulerTimer := {}
  starts : List StartCall := []
  stops : List StopCall := []
  /-- Devices that a message has brought online, before the callback. -/
  reports : List String := []
  /-- `stop` has returned, and `start` has not been called since. -/
  stopped : Bool := false

inductive CycleStep
  | wait (ms : Nat)
  | callStart
  | start (k : Nat)
  | callStop
  | stop (k : Nat)
  | timer
  | data (deviceName : String)
  | report (k : Nat)

inductive SchedulerOutput
  | poll (t : PollTask)
  | health (deviceName : String)

def TimerThread.holdsLock : TimerThread → Bool
  | .round _ _ | .tick _ _ _ | .send _ _ _ _ => true
  | .absent | .test | .exited => false

namespace CycleState

def callStart (s : CycleState) : CycleState :=
  if s.running then { s with stopped := false }
  else { s with running := true, starts := s.starts ++ [.loadTasks], stopped := false }

/-- One step of a call of `start`, under the tasks of the configuration; a call that has to
wait stays where it is. -/
def stepStart (cfg : List PollTask) (s : CycleState) (k : Nat) : StartCall → CycleState
  | .loadTasks =>
    let sched :=
      match s.sched.tasks with
      | [] => cfg.foldl DeviceScheduler.addTask s.sched
      | _ :: _ => s.sched
    { s with sched := sched, starts := s.starts.set k .addPeriodic }
  | .addPeriodic =>
    if s.timer.thread.holdsLock then s
    else
      { s with
        timer := { s.timer with items := s.timer.items ++ [s.nowMs + schedTickMs] }
        starts := s.starts.set k .raiseFlag }
  | .raiseFlag =>
    if s.timer.running then { s with starts := s.starts.eraseIdx k }
    else { s with timer := { s.timer with running := true }, starts := s.starts.set k .spawn }
  | .spawn =>
    -- a thread that was not joined is joined first
    match s.timer.thread with
    | .absent | .exited =>
      { s with timer := { s.timer with thread := .test }, starts := s.starts.eraseIdx k }
    | .test | .round _ _ | .tick _ _ _ | .send _ _ _ _ => s

def callStop (s : CycleState) : CycleState :=
  if s.running then { s with running := false, stops := s.stops ++ [.testAgain] }
  else { s with stopped := true }

def stepStop (s : CycleState) (k : Nat) : StopCall → CycleState
  | .testAgain =>
    if s.running then { s with running := false, stops := s.stops.set k .lowerFlag }
    else { s with stops := s.stops.eraseIdx k, stopped := true }
  | .lowerFlag =>
    { s with timer := { s.timer with running := false }, stops := s.stops.set k .join }
  | .join =>
    match s.timer.thread with
    | .absent | .exited =>
      { s with timer := { s.timer with thread := .absent }, stops := s.stops.eraseIdx k,
               stopped := true }
    | .test | .round _ _ | .tick _ _ _ | .send _ _ _ _ => s

def atTimer (s : CycleState) (thread : TimerThread) : CycleState :=
  { s with timer := { s.timer with thread := thread } }

/-- One step of the timer's thread. -/
def stepTimer (s : CycleState) : CycleState × List SchedulerOutput :=
  match s.timer.thread with
  | .absent | .exited => (s, [])
  | .test => (s.atTimer (if s.timer.running then .round s.nowMs 0 else .exited), [])
  | .round now k =>
    match s.timer.items[k]? with
    | none => (s.atTimer .test, [])
    | some nextTick =>
      if s.timer.running then
        (s.atTimer (if nextTick ≤ now then .tick now k s.nowMs else .round now (k + 1)), [])
      else (s.atTimer .test, [])
  | .tick now k clock =>
    let r := s.sched.pollTick clock
    ({ s with sched := r.1, timer := { s.timer with thread := .send now k r.2.1 r.2.2 } }, [])
  | .send now k due changed =>
    ({ s with timer := { s.timer with
        items := s.timer.items.set k (now + schedTickMs), thread := .round now (k + 1) } },
      due.map .poll ++ changed.map .health)

def data (s : CycleState) (name : String) : CycleState :=
  let r := s.sched.onDeviceData s.nowMs name
  { s with sched := r.1, reports := if r.2 then s.reports ++ [name] else s.reports }

def step (cfg : List PollTask) (s : CycleState) : CycleStep → CycleState × List SchedulerOutput
  | .wait ms => ({ s with nowMs := s.nowMs + ms }, [])
  | .callStart => (s.callStart, [])
  | .start k =>
    match s.starts[k]? with
    | none => (s, [])
    | some c => (s.stepStart cfg k c, [])
  | .callStop => (s.callStop, [])
  | .stop k =>
    match s.stops[k]? with
    | none => (s, [])
    | some c => (s.stepStop k c, [])
  | .timer => s.stepTimer
  | .data name => (s.data name, [])
  | .report k =>
    match s.reports[k]? with
    | none => (s, [])
    | some name => ({ s with reports := s.reports.eraseIdx k }, [.health name])

end CycleState

/-- The scheduler with its callback and its parser, if any, set, from the time `startMs`. -/
def schedulerCycles (parser : Bool) (cfg : List PollTask) (startMs : Nat) :
    Machine CycleState CycleStep SchedulerOutput where
  start := { nowMs := startMs, sched := { parser := parser } }
  step := CycleState.step cfg

/-! ### What is read off a run -/

/-- When a pass of the timer's thread over its items begins. -/
def passes (s : CycleState) : CycleStep → List Nat
  | .timer =>
    match s.timer.thread with
    | .test => if s.timer.running then [s.nowMs] else []
    | .absent | .round _ _ | .tick _ _ _ | .send _ _ _ _ | .exited => []
  | .wait _ | .callStart | .start _ | .callStop | .stop _ | .data _ | .report _ => []

/-- The passes that run `pollTick`, once for each time that they do. -/
def pollTicks (s : CycleState) : CycleStep → List Nat
  | .timer =>
    match s.timer.thread with
    | .tick now _ _ => [now]
    | .absent | .test | .round _ _ | .send _ _ _ _ | .exited => []
  | .wait _ | .callStart | .start _ | .callStop | .stop _ | .data _ | .report _ => []

/-- When an item that is added is due. -/
def firstTicks (s : CycleState) : CycleStep → List Nat
  | .start k =>
    match s.starts[k]? with
    | some .addPeriodic => if s.timer.thread.holdsLock then [] else [s.nowMs + schedTickMs]
    | none | some .loadTasks | some .raiseFlag | some .spawn => []
  | .wait _ | .callStart | .callStop | .stop _ | .timer | .data _ | .report _ => []

/-- No poll is sent and no health callback made after `stop` has returned. -/
def SilentWhenStopped (M : Machine CycleState CycleStep SchedulerOutput) (es : List CycleStep) :
    Prop :=
  ∀ pre e, pre ++ [e] <+: es → (M.run pre).stopped = true → (M.step (M.run pre) e).2 = []

/-- Between two passes, `pollTick` has run once for each period that the passes so far have
seen end, and so never twice in one. -/
def OncePerPeriod (M : Machine CycleState CycleStep SchedulerOutput) (es : List CycleStep) : Prop :=
  ∀ pre, pre <+: es → (M.run pre).timer.thread.holdsLock = false →
    (M.trace pollTicks pre =
      (M.trace firstTicks pre).head?.elim [] fun due =>
        sample schedTickMs due (M.trace passes pre)) ∧
    (M.trace pollTicks pre).Pairwise fun a b => a + schedTickMs ≤ b

/-- `stop` is only called while the scheduler does not run, and with no callback of a message
outstanding; and no message brings a device online between `stop` and the next `start`. -/
def StopHarmless (s : CycleState) : CycleStep → Prop
  | .callStop => s.running = false ∧ s.reports = []
  | .data name => s.stopped = true → (s.sched.pollCtx.entry name).online = true
  | .wait _ | .callStart | .start _ | .stop _ | .timer | .report _ => True

/-! ### What a call of `stop` does -/

/-- The second test of the flag sees what the first one has left, so the timer goes on. -/
theorem stop_leaves_timer (cfg : List PollTask) {s : CycleState} (hrun : s.running = true)
    (hstops : s.stops = []) :
    ((s.step cfg .callStop).1.step cfg (.stop 0)).1 =
      { s with running := false, stopped := true } := by
  have hcall : (s.step cfg .callStop).1 = { s with running := false, stops := [.testAgain] } := by
    show s.callStop = _
    unfold CycleState.callStop
    rw [if_pos hrun, hstops]
    rfl
  rw [hcall]
  show CycleState.mk s.nowMs s.sched false s.timer s.starts [] s.reports true = _
  rw [← hstops]

/-! ### The timer's thread -/

theorem stepTimer_same (s : CycleState) :
    s.stepTimer.1.running = s.running ∧ s.stepTimer.1.starts = s.starts ∧
      s.stepTimer.1.stops = s.stops ∧ s.stepTimer.1.reports = s.reports ∧
      s.stepTimer.1.stopped = s.stopped ∧ s.stepTimer.1.timer.running = s.timer.running := by
  unfold CycleState.stepTimer
  cases s.timer.thread with
  | absent => exact ⟨rfl, rfl, rfl, rfl, rfl, rfl⟩
  | exited => exact ⟨rfl, rfl, rfl, rfl, rfl, rfl⟩
  | test => exact ⟨rfl, rfl, rfl, rfl, rfl, rfl⟩
  | tick now k clock => exact ⟨rfl, rfl, rfl, rfl, rfl, rfl⟩
  | send now k due changed => exact ⟨rfl, rfl, rfl, rfl, rfl, rfl⟩
  | round now k =>
    dsimp only
    split
    · exact ⟨rfl, rfl, rfl, rfl, rfl, rfl⟩
    · split <;> exact ⟨rfl, rfl, rfl, rfl, rfl, rfl⟩

/-- What the passes have run so far, by where the thread stands; there is one item, first due
at `due`. -/
def Looping (due : Nat) (begins runs items : List Nat) : TimerThread → Prop
  | .absent | .exited => False
  | .test =>
    items = [nextDue schedTickMs due begins] ∧ runs = sample schedTickMs due begins
  | .round now 0 =>
    ∃ bs, begins = bs ++ [now] ∧ items = [nextDue schedTickMs due bs] ∧
      runs = sample schedTickMs due bs
  | .round _ (_ + 1) =>
    items = [nextDue schedTickMs due begins] ∧ runs = sample schedTickMs due begins
  | .tick now k _ =>
    k = 0 ∧ ∃ bs, begins = bs ++ [now] ∧ nextDue schedTickMs due bs ≤ now ∧
      items = [nextDue schedTickMs due bs] ∧ runs = sample schedTickMs due bs
  | .send now k _ _ =>
    k = 0 ∧ ∃ bs, begins = bs ++ [now] ∧ nextDue schedTickMs due bs ≤ now ∧
      items = [nextDue schedTickMs due bs] ∧ runs = sample schedTickMs due bs ++ [now]

theorem Looping.step {due : Nat} {begins runs : List Nat} {s : CycleState}
    (h : Looping due begins runs s.timer.items s.timer.thread) (hrun : s.timer.running = true) :
    Looping due (begins ++ passes s .timer) (runs ++ pollTicks s .timer)
      s.stepTimer.1.timer.items s.stepTimer.1.timer.thread := by
  unfold CycleState.stepTimer passes pollTicks
  cases hthread : s.timer.thread with
  | absent =>
    rw [hthread] at h
    cases h
  | exited =>
    rw [hthread] at h
    cases h
  | test =>
    rw [hthread] at h
    obtain ⟨hitems, hruns⟩ := h
    show Looping due (begins ++ if s.timer.running then [s.nowMs] else []) (runs ++ [])
      s.timer.items (if s.timer.running then .round s.nowMs 0 else .exited)
    rw [hrun, List.append_nil]
    exact ⟨begins, rfl, hitems, hruns⟩
  | tick now k clock =>
    rw [hthread] at h
    obtain ⟨hk, bs, hbegins, hdue, hitems, hruns⟩ := h
    show Looping due (begins ++ []) (runs ++ [now]) s.timer.items (.send now k _ _)
    rw [List.append_nil, hruns]
    exact ⟨hk, bs, hbegins, hdue, hitems, rfl⟩
  | send now k dues changed =>
    rw [hthread] at h
    obtain ⟨hk, bs, hbegins, hdue, hitems, hruns⟩ := h
    show Looping due (begins ++ []) (runs ++ []) (s.timer.items.set k (now + schedTickMs))
      (.round now (k + 1))
    rw [List.append_nil, List.append_nil, hitems, hk, hbegins, hruns]
    constructor
    · rw [nextDue_snoc, if_pos hdue]
      rfl
    · rw [sample_snoc, if_pos hdue]
  | round now k =>
    rw [hthread] at h
    rw [List.append_nil, List.append_nil]
    cases k with
    | succ k =>
      obtain ⟨hitems, hruns⟩ := h
      have hnone : s.timer.items[k + 1]? = none := by
        rw [hitems]
        rfl
      dsimp only
      rw [hnone]
      exact ⟨hitems, hruns⟩
    | zero =>
      obtain ⟨bs, hbegins, hitems, hruns⟩ := h
      have hsome : s.timer.items[0]? = some (nextDue schedTickMs due bs) := by
        rw [hitems]
        rfl
      dsimp only
      rw [hsome]
      dsimp only
      rw [if_pos hrun]
      by_cases hdue : nextDue schedTickMs due bs ≤ now
      · rw [if_pos hdue]
        exact ⟨rfl, bs, hbegins, hdue, hitems, hruns⟩
      · rw [if_neg hdue]
        show s.timer.items = [nextDue schedTickMs due begins] ∧
          runs = sample schedTickMs due begins
        rw [hbegins, nextDue_snoc, sample_snoc, if_neg hdue, if_neg hdue, List.append_nil]
        exact ⟨hitems, hruns⟩

/-! ### From the first start on -/

/-- Where the launch of the timer stands, and what has been read off the run by then. -/
inductive Phase (first begins runs : List Nat) (s : CycleState) : Prop
  | idle (running : s.running = false) (starts : s.starts = []) (timer : s.timer = {})
      (traces : first = [] ∧ begins = [] ∧ runs = [])
  | loading (running : s.running = true) (c : StartCall) (starts : s.starts = [c])
      (before : c = .loadTasks ∨ c = .addPeriodic) (timer : s.timer = {})
      (traces : first = [] ∧ begins = [] ∧ runs = [])
  | raising (running : s.running = true) (starts : s.starts = [.raiseFlag]) (due : Nat)
      (timer : s.timer = { items := [due] }) (traces : first = [due] ∧ begins = [] ∧ runs = [])
  | spawning (running : s.running = true) (starts : s.starts = [.spawn]) (due : Nat)
      (timer : s.timer = { items := [due], running := true })
      (traces : first = [due] ∧ begins = [] ∧ runs = [])
  | up (running : s.running = true) (starts : s.starts = []) (due : Nat) (first : first = [due])
      (timer : s.timer.running = true)
      (looping : Looping due begins runs s.timer.items s.timer.thread)

/-- A step that touches neither the calls of `start` nor the timer. -/
theorem Phase.of_same {first begins runs : List Nat} {s s' : CycleState}
    (h : Phase first begins runs s) (hrunning : s'.running = s.running)
    (hstarts : s'.starts = s.starts) (htimer : s'.timer = s.timer) :
    Phase first begins runs s' := by
  cases h with
  | idle running starts timer traces =>
    exact .idle (hrunning.trans running) (hstarts.trans starts) (htimer.trans timer) traces
  | loading running c starts before timer traces =>
    exact .loading (hrunning.trans running) c (hstarts.trans starts) before (htimer.trans timer)
      traces
  | raising running starts due timer traces =>
    exact .raising (hrunning.trans running) (hstarts.trans starts) due (htimer.trans timer) traces
  | spawning running starts due timer traces =>
    exact .spawning (hrunning.trans running) (hstarts.trans starts) due (htimer.trans timer) traces
  | up running starts due first timer looping =>
    refine .up (hrunning.trans running) (hstarts.trans starts) due first ?_ ?_
    · rw [htimer]
      exact timer
    · rw [htimer]
      exact looping

theorem Phase.callStart {first begins runs : List Nat} {s : CycleState}
    (h : Phase first begins runs s) : Phase first begins runs s.callStart := by
  unfold CycleState.callStart
  by_cases hrun : s.running = true
  · rw [if_pos hrun]
    exact h.of_same rfl rfl rfl
  · rw [if_neg hrun]
    cases h with
    | idle running starts timer traces =>
      refine .loading rfl .loadTasks ?_ (Or.inl rfl) timer traces
      show s.starts ++ [.loadTasks] = _
      rw [starts]
      rfl
    | loading running => exact absurd running hrun
    | raising running => exact absurd running hrun
    | spawning running => exact absurd running hrun
    | up running => exact absurd running hrun

theorem Phase.start {first begins runs : List Nat} {s : CycleState} (cfg : List PollTask)
    (h : Phase first begins runs s) (k : Nat) :
    Phase (first ++ firstTicks s (.start k)) begins runs (s.step cfg (.start k)).1 := by
  unfold CycleState.step firstTicks
  dsimp only
  cases hk : s.starts[k]? with
  | none =>
    rw [List.append_nil]
    exact h
  | some c =>
    have honly : ∀ {x}, s.starts = [x] → k = 0 ∧ c = x := by
      intro x hx
      rw [hx] at hk
      cases k with
      | zero => exact ⟨rfl, (Option.some_inj.mp hk).symm⟩
      | succ k => cases hk
    cases h with
    | idle running starts timer traces =>
      rw [starts] at hk
      cases hk
    | up running starts =>
      rw [starts] at hk
      cases hk
    | loading running x starts before timer traces =>
      obtain ⟨rfl, rfl⟩ := honly starts
      obtain rfl | rfl := before
      · rw [List.append_nil]
        refine .loading running .addPeriodic ?_ (Or.inr rfl) timer traces
        show s.starts.set 0 .addPeriodic = _
        rw [starts]
        rfl
      · have hfree : s.timer.thread.holdsLock = false := by
          rw [timer]
          rfl
        obtain ⟨rfl, rfl, rfl⟩ := traces
        show Phase ([] ++ if s.timer.thread.holdsLock then [] else [s.nowMs + schedTickMs]) [] []
          (if s.timer.thread.holdsLock then s else _)
        rw [if_neg (by rw [hfree]; exact Bool.false_ne_true),
          if_neg (by rw [hfree]; exact Bool.false_ne_true)]
        refine .raising running ?_ (s.nowMs + schedTickMs) ?_ ⟨rfl, rfl, rfl⟩
        · show s.starts.set 0 .raiseFlag = _
          rw [starts]
          rfl
        · rw [timer]
          rfl
    | raising running starts due timer traces =>
      obtain ⟨rfl, rfl⟩ := honly starts
      rw [List.append_nil]
      have hdown : ¬ s.timer.running = true := by
        rw [timer]
        exact Bool.false_ne_true
      show Phase first begins runs (if s.timer.running then _ else _)
      rw [if_neg hdown]
      refine .spawning running ?_ due ?_ traces
      · show s.starts.set 0 .spawn = _
        rw [starts]
        rfl
      · rw [timer]
    | spawning running starts due timer traces =>
      obtain ⟨rfl, rfl⟩ := honly starts
      rw [List.append_nil]
      obtain ⟨hfirst, rfl, rfl⟩ := traces
      have habsent : s.timer.thread = .absent := by rw [timer]
      show Phase first [] [] (s.stepStart cfg 0 .spawn)
      unfold CycleState.stepStart
      rw [habsent]
      refine .up running ?_ due hfirst ?_ ?_
      · show s.starts.eraseIdx 0 = _
        rw [starts]
        rfl
      · show s.timer.running = true
        rw [timer]
      · show Looping due [] [] s.timer.items .test
        rw [timer]
        exact ⟨rfl, rfl⟩

theorem Phase.timer {first begins runs : List Nat} {s : CycleState}
    (h : Phase first begins runs s) :
    Phase first (begins ++ passes s .timer) (runs ++ pollTicks s .timer) s.stepTimer.1 := by
  have hrest : s.timer.thread = .absent → passes s .timer = [] ∧ pollTicks s .timer = [] ∧
      s.stepTimer.1 = s := by
    intro habsent
    unfold passes pollTicks CycleState.stepTimer
    rw [habsent]
    exact ⟨rfl, rfl, rfl⟩
  have habsent : s.timer.thread = .absent → Phase first (begins ++ passes s .timer)
      (runs ++ pollTicks s .timer) s.stepTimer.1 := by
    intro habsent
    obtain ⟨hpasses, hticks, hsame⟩ := hrest habsent
    rw [hpasses, hticks, hsame, List.append_nil, List.append_nil]
    exact h
  cases h with
  | idle running starts timer traces => exact habsent (by rw [timer])
  | loading running c starts before timer traces => exact habsent (by rw [timer])
  | raising running starts due timer traces => exact habsent (by rw [timer])
  | spawning running starts due timer traces => exact habsent (by rw [timer])
  | up running starts due first timer looping =>
    obtain ⟨hrunning, hstarts, -, -, -, htimer⟩ := stepTimer_same s
    exact .up (hrunning.trans running) (hstarts.trans starts) due first (htimer.trans timer)
      (looping.step timer)

/-! ### Runs -/

/-- What the steps of a run without a harmful `stop` keep. -/
structure Cycles (first begins runs : List Nat) (s : CycleState) : Prop where
  stops : s.stops = []
  stopped : s.stopped = true → s.running = false ∧ s.reports = []
  phase : Phase first begins runs s

theorem callStart_same (s : CycleState) :
    s.callStart.stops = s.stops ∧ s.callStart.stopped = false := by
  unfold CycleState.callStart
  split
  · exact ⟨rfl, rfl⟩
  · exact ⟨rfl, rfl⟩

theorem stepStart_same (cfg : List PollTask) (s : CycleState) (k : Nat) (c : StartCall) :
    (s.stepStart cfg k c).stops = s.stops ∧ (s.stepStart cfg k c).stopped = s.stopped ∧
      (s.stepStart cfg k c).running = s.running ∧ (s.stepStart cfg k c).reports = s.reports := by
  unfold CycleState.stepStart
  cases c with
  | loadTasks => exact ⟨rfl, rfl, rfl, rfl⟩
  | addPeriodic =>
    dsimp only
    split <;> exact ⟨rfl, rfl, rfl, rfl⟩
  | raiseFlag =>
    dsimp only
    split <;> exact ⟨rfl, rfl, rfl, rfl⟩
  | spawn =>
    dsimp only
    split <;> exact ⟨rfl, rfl, rfl, rfl⟩

/-- A message of a device that is online leaves no callback to be made. -/
theorem reports_data {s : CycleState} {name : String}
    (h : (s.sched.pollCtx.entry name).online = true) : (s.data name).reports = s.reports := by
  unfold CycleState.data DeviceScheduler.onDeviceData
  dsimp only
  rw [h]
  rfl

theorem Cycles.step {first begins runs : List Nat} {s : CycleState} (cfg : List PollTask)
    (h : Cycles first begins runs s) {e : CycleStep} (he : StopHarmless s e) :
    Cycles (first ++ firstTicks s e) (begins ++ passes s e) (runs ++ pollTicks s e)
      (s.step cfg e).1 := by
  cases e with
  | wait ms =>
    simp only [firstTicks, passes, pollTicks, List.append_nil]
    exact ⟨h.stops, h.stopped, h.phase.of_same rfl rfl rfl⟩
  | callStart =>
    simp only [firstTicks, passes, pollTicks, List.append_nil]
    obtain ⟨hstops, hstopped⟩ := callStart_same s
    refine ⟨hstops.trans h.stops, ?_, h.phase.callStart⟩
    intro hstop
    cases hstopped.symm.trans hstop
  | start k =>
    have hphase := h.phase.start cfg k
    simp only [passes, pollTicks, List.append_nil]
    refine ⟨?_, ?_, hphase⟩
    · show (CycleState.step cfg s (.start k)).1.stops = []
      unfold CycleState.step
      dsimp only
      split
      · exact h.stops
      · exact (stepStart_same cfg s k _).1.trans h.stops
    · unfold CycleState.step
      dsimp only
      split
      · exact h.stopped
      · obtain ⟨-, hstopped, hrunning, hreports⟩ := stepStart_same cfg s k ‹_›
        rw [hstopped, hrunning, hreports]
        exact h.stopped
  | callStop =>
    obtain ⟨hrun, hreports⟩ := he
    simp only [firstTicks, passes, pollTicks, List.append_nil]
    have hcall : s.callStop = { s with stopped := true } := by
      unfold CycleState.callStop
      rw [hrun]
      exact if_neg Bool.false_ne_true
    show Cycles first begins runs s.callStop
    rw [hcall]
    exact ⟨h.stops, fun _ => ⟨hrun, hreports⟩, h.phase.of_same rfl rfl rfl⟩
  | stop k =>
    simp only [firstTicks, passes, pollTicks, List.append_nil]
    have hnone : s.stops[k]? = none := by
      rw [h.stops]
      rfl
    unfold CycleState.step
    dsimp only
    rw [hnone]
    exact h
  | timer =>
    obtain ⟨hrunning, -, hstops, hreports, hstopped, -⟩ := stepTimer_same s
    simp only [firstTicks, List.append_nil]
    refine ⟨hstops.trans h.stops, ?_, h.phase.timer⟩
    show s.stepTimer.1.stopped = true → s.stepTimer.1.running = false ∧ s.stepTimer.1.reports = []
    rw [hstopped, hrunning, hreports]
    exact h.stopped
  | data name =>
    simp only [firstTicks, passes, pollTicks, List.append_nil]
    refine ⟨h.stops, ?_, h.phase.of_same rfl rfl rfl⟩
    intro hstop
    obtain ⟨hrun, hreports⟩ := h.stopped hstop
    exact ⟨hrun, (reports_data (he hstop)).trans hreports⟩
  | report k =>
    simp only [firstTicks, passes, pollTicks, List.append_nil]
    unfold CycleState.step
    dsimp only
    split
    · exact h
    · refine ⟨h.stops, ?_, h.phase.of_same rfl rfl rfl⟩
      intro hstop
      obtain ⟨hrun, hreports⟩ := h.stopped hstop
      refine ⟨hrun, ?_⟩
      show s.reports.eraseIdx k = []
      rw [hreports]
      rfl

/-- Without a timer and without an outstanding callback nothing is sent. -/
theorem Cycles.silent {first begins runs : List Nat} {s : CycleState} (cfg : List PollTask)
    (h : Cycles first begins runs s) (hstopped : s.stopped = true) (e : CycleStep) :
    (s.step cfg e).2 = [] := by
  obtain ⟨hrun, hreports⟩ := h.stopped hstopped
  have htimer : s.timer = {} := by
    cases h.phase with
    | idle running starts timer traces => exact timer
    | loading running => cases hrun.symm.trans running
    | raising running => cases hrun.symm.trans running
    | spawning running => cases hrun.symm.trans running
    | up running => cases hrun.symm.trans running
  unfold CycleState.step
  cases e with
  | wait ms => rfl
  | callStart => rfl
  | callStop => rfl
  | data name => rfl
  | start k =>
    dsimp only
    split <;> rfl
  | stop k =>
    dsimp only
    split <;> rfl
  | timer =>
    have habsent : s.timer.thread = .absent := by rw [htimer]
    unfold CycleState.stepTimer
    dsimp only
    rw [habsent]
  | report k =>
    dsimp only
    rw [hreports]
    rfl

theorem Phase.once {first begins runs : List Nat} {s : CycleState}
    (h : Phase first begins runs s) (hrest : s.timer.thread.holdsLock = false) :
    runs = first.head?.elim [] fun due => sample schedTickMs due begins := by
  cases h with
  | idle running starts timer traces =>
    obtain ⟨rfl, rfl, rfl⟩ := traces
    rfl
  | loading running c starts before timer traces =>
    obtain ⟨rfl, rfl, rfl⟩ := traces
    rfl
  | raising running starts due timer traces =>
    obtain ⟨rfl, rfl, rfl⟩ := traces
    rfl
  | spawning running starts due timer traces =>
    obtain ⟨rfl, rfl, rfl⟩ := traces
    rfl
  | up running starts due first timer looping =>
    rw [first]
    cases hthread : s.timer.thread with
    | absent =>
      rw [hthread] at looping
      cases looping
    | exited =>
      rw [hthread] at looping
      cases looping
    | test =>
      rw [hthread] at looping
      exact looping.2
    | round now k =>
      rw [hthread] at hrest
      cases hrest
    | tick now k clock =>
      rw [hthread] at hrest
      cases hrest
    | send now k due changed =>
      rw [hthread] at hrest
      cases hrest

section Runs

variable (parser : Bool) (cfg : List PollTask) (startMs : Nat)

theorem cycles_run {es : List CycleStep}
    (h : (schedulerCycles parser cfg startMs).EveryStep StopHarmless es) :
    Cycles ((schedulerCycles parser cfg startMs).trace firstTicks es)
      ((schedulerCycles parser cfg startMs).trace passes es)
      ((schedulerCycles parser cfg startMs).trace pollTicks es)
      ((schedulerCycles parser cfg startMs).run es) := by
  induction es using List.reverseRecOn with
  | nil => exact ⟨rfl, nofun, .idle rfl rfl rfl ⟨rfl, rfl, rfl⟩⟩
  | append_singleton es e ih =>
    obtain ⟨hbefore, hlast⟩ := (Machine.everyStep_snoc _).mp h
    rw [Machine.trace_snoc, Machine.trace_snoc, Machine.trace_snoc, Machine.run_snoc]
    exact (ih hbefore).step cfg hlast

end Runs

/-- The scheduler is started, and its timer fires for the first time. -/
def startedOnce : List CycleStep :=
  [.callStop, .callStart, .start 0, .start 0, .start 0, .start 0, .wait 50, .timer, .timer, .timer,
    .timer, .timer]

/-- It is stopped and, with its timer still up, started again. -/
def stoppedStarted : List CycleStep :=
  [.callStart, .start 0, .start 0, .start 0, .start 0, .callStop, .stop 0, .wait 50, .timer, .timer,
    .timer, .timer, .timer, .callStart, .start 0, .start 0, .start 0, .wait 50, .timer, .timer,
    .timer, .timer, .timer, .timer, .timer]

end Scheduler
end EnergyStorage
