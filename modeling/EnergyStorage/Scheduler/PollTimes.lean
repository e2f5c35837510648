import EnergyStorage.Scheduler.Polling

/-! # When a task is polled

The due time of a task is a period after its last poll or the last data of its device, whichever
order data and ticks come in.  So a tick polls a silent device as soon as the period is over. -/

namespace EnergyStorage
namespace Scheduler

open Lib

/-- The task that data of the device put off: the first one of its name. -/
def taskOf (ts : List PollTask) (name : String) : Option Nat :=
  ts.findIdx? fun t => t.deviceName = name

namespace Polling

/-- The time at which a step puts off the `i`-th task. -/
def touch (i : Nat) (s : Polling) : PollingStep → Option Nat
  | .onDeviceData d => if taskOf s.sched.tasks d.deviceName = some i then some s.clock else none
  | .pollTick => (pollOf i s .pollTick).head?
  | .wait _ | .readClock | .callback _ => none

end Polling

namespace DeviceScheduler

theorem taskOf_cons_self {t : PollTask} {name : String} (h : t.deviceName = name)
    (ts : List PollTask) : taskOf (t :: ts) name = some 0 := by
  rw [taskOf, List.findIdx?_cons, if_pos (decide_eq_true h)]

theorem taskOf_cons_of_ne {t : PollTask} {name : String} (h : t.deviceName ≠ name)
    (ts : List PollTask) : taskOf (t :: ts) name = (taskOf ts name).map (· + 1) := by
  rw [taskOf, List.findIdx?_cons, if_neg (by simpa using h), taskOf]

theorem getElem?_reschedule_eq (name : String) (now : Nat) (ts : List PollTask) (i : Nat) :
    (reschedule name now ts)[i]? = if taskOf ts name = some i then
      (ts[i]?).map fun t => { t with nextDueMs := now + t.periodMs } else ts[i]? := by
  induction ts generalizing i with
  | nil => rfl
  | cons t ts ih =>
    rw [reschedule]
    by_cases hname : t.deviceName = name
    · rw [if_pos hname, taskOf_cons_self hname]
      cases i with
      | zero => rfl
      | succ i =>
        rw [if_neg (by simp)]
        rfl
    · rw [if_neg hname, taskOf_cons_of_ne hname]
      cases i with
      | zero =>
        have hlater : (taskOf ts name).map (· + 1) ≠ some 0 := by simp
        rw [if_neg hlater]
        rfl
      | succ i =>
        have hsucc : (taskOf ts name).map (· + 1) = some (i + 1) ↔ taskOf ts name = some i := by
          simp
        rw [List.getElem?_cons_succ, List.getElem?_cons_succ, ih]
        simp only [hsucc]

theorem tasks_start (parser : Bool) (cfg : List PollTask) :
    (start parser cfg).tasks = cfg.map fun t => { t with nextDueMs := 0 } := by
  have hfold : ∀ (ts : List PollTask) (s : DeviceScheduler),
      (ts.foldl addTask s).tasks = s.tasks ++ ts.map fun t => { t with nextDueMs := 0 } := by
    intro ts
    induction ts with
    | nil => exact fun s => (List.append_nil s.tasks).symm
    | cons t ts ih =>
      intro s
      rw [List.foldl_cons, ih, List.map_cons]
      show (s.tasks ++ [_]) ++ _ = _
      rw [List.append_assoc, List.singleton_append]
  exact hfold cfg { parser := parser }

theorem isDue_iff {now : Nat} {t : PollTask} :
    isDue now t = true ↔ t.enable = true ∧ t.nextDueMs ≤ now := by
  rw [isDue, Bool.and_eq_true, decide_eq_true_eq, arm]
  split
  · rename_i hzero
    rw [hzero]
    simp
  · rfl

end DeviceScheduler

namespace Polling

open DeviceScheduler

/-- What a step does to the `i`-th task. -/
theorem getElem?_step (s : Polling) (e : PollingStep) (i : Nat) :
    (s.step e).sched.tasks[i]? = (s.sched.tasks[i]?).map fun t =>
      match touch i s e with
      | none => t
      | some at' => { t with nextDueMs := at' + t.periodMs } := by
  cases e with
  | wait ms => exact Option.map_id'.symm
  | readClock => exact Option.map_id'.symm
  | onDeviceData d =>
    show (reschedule d.deviceName s.clock s.sched.tasks)[i]? = _
    rw [getElem?_reschedule_eq, touch]
    by_cases hfirst : taskOf s.sched.tasks d.deviceName = some i
    · rw [if_pos hfirst, if_pos hfirst]
    · rw [if_neg hfirst, if_neg hfirst]
      exact Option.map_id'.symm
  | callback k =>
    have hsched : (s.step (.callback k)).sched = s.sched := by
      rw [step]
      split <;> rfl
    rw [hsched]
    exact Option.map_id'.symm
  | pollTick =>
    cases hticker : s.ticker with
    | none =>
      have hstep : s.step .pollTick = s := by rw [step, hticker]
      have hpoll : pollOf i s .pollTick = [] := by simp only [pollOf, hticker]
      rw [hstep, touch, hpoll]
      exact Option.map_id'.symm
    | some now =>
      have htasks : (s.step .pollTick).sched.tasks =
          if s.sched.parser then s.sched.tasks.map (collect now) else s.sched.tasks := by
        rw [step, hticker]
        exact s.sched.tasks_pollTick now
      have hpoll : pollOf i s .pollTick =
          if s.sched.parser && (s.sched.tasks[i]?).any (isDue now) then [now] else [] := by
        simp only [pollOf, hticker]
      rw [htasks, touch, hpoll]
      cases hparser : s.sched.parser with
      | false =>
        rw [if_neg Bool.false_ne_true]
        exact Option.map_id'.symm
      | true =>
        rw [if_pos rfl, List.getElem?_map]
        cases ht : s.sched.tasks[i]? with
        | none => rfl
        | some t =>
          rw [Option.any_some, Bool.true_and, Option.map_some, Option.map_some]
          cases hdue : isDue now t with
          | true => rw [collect_of_due hdue]; rfl
          | false => rw [collect_of_not_due hdue]; rfl

theorem parser_step (s : Polling) (e : PollingStep) :
    (s.step e).sched.parser = s.sched.parser := by
  cases e with
  | wait ms => rfl
  | readClock => rfl
  | onDeviceData d => rfl
  | callback k =>
    rw [step]
    split <;> rfl
  | pollTick =>
    rw [step]
    split
    · rfl
    · rw [pollTick]
      split <;> rfl

end Polling

section Run

variable (parser : Bool) (cfg : List PollTask) (startMs : Nat)

/-- The last time the `i`-th task was polled, or its device heard. -/
def lastTouch (es : List PollingStep) (i : Nat) : Option Nat :=
  (polling parser cfg startMs).latest (Polling.touch i) es

/-- A task in a run: all but its due time is the configuration's. -/
theorem task_run (es : List PollingStep) (i : Nat) :
    ((polling parser cfg startMs).run es).sched.tasks[i]? = (cfg[i]?).map fun t =>
      { t with
        nextDueMs := ((lastTouch parser cfg startMs es i).map (· + t.periodMs)).getD 0 } := by
  induction es using List.reverseRecOn with
  | nil =>
    show (DeviceScheduler.start parser cfg).tasks[i]? = _
    rw [DeviceScheduler.tasks_start]
    exact List.getElem?_map
  | append_singleton es e ih =>
    have hstep := Polling.getElem?_step ((polling parser cfg startMs).run es) e i
    rw [ih, Option.map_map] at hstep
    have hlast : lastTouch parser cfg startMs (es ++ [e]) i =
        (Polling.touch i ((polling parser cfg startMs).run es) e).or
          (lastTouch parser cfg startMs es i) :=
      (polling parser cfg startMs).latest_snoc (Polling.touch i) es e
    rw [Machine.run_snoc, hlast]
    refine hstep.trans ?_
    congr 1
    funext t
    cases Polling.touch i ((polling parser cfg startMs).run es) e with
    | none => rfl
    | some at' => rfl

/-- The task that data of a device put off is the configuration's. -/
theorem taskOf_run (es : List PollingStep) (name : String) :
    taskOf ((polling parser cfg startMs).run es).sched.tasks name = taskOf cfg name := by
  have hnames : ((polling parser cfg startMs).run es).sched.tasks.map PollTask.deviceName =
      cfg.map PollTask.deviceName := by
    apply List.ext_getElem?
    intro i
    rw [List.getElem?_map, List.getElem?_map, task_run, Option.map_map]
    rfl
  have hindex : ∀ ts : List PollTask, taskOf ts name =
      (ts.map PollTask.deviceName).findIdx? fun n => n = name := by
    intro ts
    rw [taskOf, List.findIdx?_map]
    rfl
  rw [hindex, hnames, ← hindex]

theorem parser_run (es : List PollingStep) :
    ((polling parser cfg startMs).run es).sched.parser = parser := by
  induction es using List.reverseRecOn with
  | nil =>
    have hfold : ∀ (ts : List PollTask) (s : DeviceScheduler),
        (ts.foldl DeviceScheduler.addTask s).parser = s.parser := by
      intro ts
      induction ts with
      | nil => exact fun _ => rfl
      | cons t ts ih => exact fun s => ih (s.addTask t)
    exact hfold cfg { parser := parser }
  | append_singleton es e ih =>
    rw [Machine.run_snoc]
    exact (Polling.parser_step _ e).trans ih

/-- A device says nothing in a stretch of the run. -/
def Silent (name : String) (es : List PollingStep) : Prop :=
  ∀ d, PollingStep.onDeviceData d ∈ es → d.deviceName ≠ name

variable {parser cfg startMs}

/-- What a tick does for a task. -/
theorem poll_iff (es : List PollingStep) {i : Nat} {t : PollTask} (ht : cfg[i]? = some t)
    {now : Nat} (htick : ((polling parser cfg startMs).run es).ticker = some now) :
    Polling.pollOf i ((polling parser cfg startMs).run es) .pollTick = [now] ↔
      parser = true ∧ t.enable = true ∧
        ∀ last ∈ lastTouch parser cfg startMs es i, last + t.periodMs ≤ now := by
  have htask := task_run parser cfg startMs es i
  rw [ht, Option.map_some] at htask
  have hpoll : Polling.pollOf i ((polling parser cfg startMs).run es) .pollTick =
      if ((polling parser cfg startMs).run es).sched.parser &&
        (((polling parser cfg startMs).run es).sched.tasks[i]?).any (DeviceScheduler.isDue now)
      then [now] else [] := by
    simp only [Polling.pollOf, htick]
  rw [hpoll, parser_run, htask, Option.any_some]
  have hdue : DeviceScheduler.isDue now { t with
      nextDueMs := ((lastTouch parser cfg startMs es i).map (· + t.periodMs)).getD 0 } = true ↔
      t.enable = true ∧ ∀ last ∈ lastTouch parser cfg startMs es i, last + t.periodMs ≤ now := by
    rw [DeviceScheduler.isDue_iff]
    cases lastTouch parser cfg startMs es i with
    | none => simp
    | some last => simp
  rw [← hdue, ← Bool.and_eq_true]
  split
  · rename_i hboth
    exact iff_of_true rfl hboth
  · rename_i hnot
    exact iff_of_false (List.cons_ne_nil now []).symm hnot

/-- Data put off a task of their own device only. -/
theorem name_of_taskOf {i : Nat} {t : PollTask} (ht : cfg[i]? = some t) {name : String}
    (h : taskOf cfg name = some i) : t.deviceName = name := by
  obtain ⟨hlt, hname, -⟩ := List.findIdx?_eq_some_iff_getElem.mp h
  have hget : cfg[i] = t := List.getElem_of_getElem? ht |>.2
  rw [hget] at hname
  exact of_decide_eq_true hname

/-- A step that neither polls the task nor brings data of its device leaves its last time. -/
theorem touch_of_quiet {es : List PollingStep} {i : Nat} {t : PollTask} (ht : cfg[i]? = some t)
    {e : PollingStep} (hsilent : Silent t.deviceName [e])
    (hpoll : Polling.pollOf i ((polling parser cfg startMs).run es) e = []) :
    Polling.touch i ((polling parser cfg startMs).run es) e = none := by
  cases e with
  | onDeviceData d =>
    apply if_neg
    rw [taskOf_run]
    intro hfirst
    exact hsilent d List.mem_cons_self (name_of_taskOf ht hfirst).symm
  | pollTick =>
    rw [Polling.touch, hpoll]
    rfl
  | wait ms | readClock | callback k => rfl

variable (parser cfg startMs) in
theorem polls_append (pre more : List PollingStep) (i : Nat) :
    ∃ later, polls parser cfg startMs (pre ++ more) i = polls parser cfg startMs pre i ++ later :=
  ⟨_, (polling parser cfg startMs).traceFrom_append (Polling.pollOf i) _ pre more⟩

/-- While the device is silent and its task not polled, its last time stays. -/
theorem lastTouch_of_quiet (pre first : List PollingStep) {i : Nat} {t : PollTask}
    (ht : cfg[i]? = some t) (hsilent : Silent t.deviceName first)
    (hpolls : polls parser cfg startMs (pre ++ first) i = polls parser cfg startMs pre i) :
    lastTouch parser cfg startMs (pre ++ first) i = lastTouch parser cfg startMs pre i := by
  induction first using List.reverseRecOn with
  | nil => rw [List.append_nil]
  | append_singleton first e ih =>
    have hsnoc : polls parser cfg startMs (pre ++ (first ++ [e])) i =
        polls parser cfg startMs (pre ++ first) i ++
          Polling.pollOf i ((polling parser cfg startMs).run (pre ++ first)) e := by
      rw [← List.append_assoc]
      exact (polling parser cfg startMs).trace_snoc (Polling.pollOf i) (pre ++ first) e
    -- polls are only added, so none of the two parts adds one
    obtain ⟨later, hlater⟩ := polls_append parser cfg startMs pre first i
    rw [hsnoc, hlater, List.append_assoc] at hpolls
    have hnone := List.append_eq_nil_iff.mp (List.append_right_eq_self.mp hpolls)
    rw [hnone.1, List.append_nil] at hlater
    have htouch := touch_of_quiet ht (fun d hd => hsilent d (List.mem_append_right first hd))
      hnone.2
    rw [← ih (fun d hd => hsilent d (List.mem_append_left [e] hd)) hlater, ← List.append_assoc]
    refine ((polling parser cfg startMs).latest_snoc (Polling.touch i) (pre ++ first) e).trans ?_
    rw [htouch, Option.none_or]
    rfl

/-- In any order of data and ticks, a tick polls a task exactly when it is enabled and a period
has gone by since it was last polled or its device last heard.  So a silent device is polled by
the first tick that is a period late, if not by one before it. -/
theorem polled_after_period (parser : Bool) (cfg : List PollTask) (startMs i : Nat) {t : PollTask}
    (ht : cfg[i]? = some t) :
    (∀ es now, ((polling parser cfg startMs).run es).ticker = some now →
      (Polling.pollOf i ((polling parser cfg startMs).run es) .pollTick = [now] ↔
        parser = true ∧ t.enable = true ∧
          ∀ last ∈ lastTouch parser cfg startMs es i, last + t.periodMs ≤ now)) ∧
    ∀ pre first now, parser = true → t.enable = true → Silent t.deviceName first →
      ((polling parser cfg startMs).run (pre ++ first)).ticker = some now →
      (∀ last ∈ lastTouch parser cfg startMs pre i, last + t.periodMs ≤ now) →
      ∃ later, later ≠ [] ∧ polls parser cfg startMs (pre ++ first ++ [.pollTick]) i =
        polls parser cfg startMs pre i ++ later := by
  refine ⟨fun es now htick => poll_iff es ht htick, ?_⟩
  intro pre first now hparser henable hsilent htick hlate
  have hsnoc : polls parser cfg startMs (pre ++ first ++ [.pollTick]) i =
      polls parser cfg startMs (pre ++ first) i ++
        Polling.pollOf i ((polling parser cfg startMs).run (pre ++ first)) .pollTick :=
    (polling parser cfg startMs).trace_snoc (Polling.pollOf i) (pre ++ first) .pollTick
  obtain ⟨later, hlater⟩ := polls_append parser cfg startMs pre first i
  rw [hsnoc, hlater]
  refine ⟨later ++ _, ?_, List.append_assoc _ _ _⟩
  intro hnil
  obtain ⟨hnone, hpoll⟩ := List.append_eq_nil_iff.mp hnil
  rw [hnone, List.append_nil] at hlater
  have hlast := lastTouch_of_quiet pre first ht hsilent hlater
  rw [(poll_iff (pre ++ first) ht htick).mpr ⟨hparser, henable, by rw [hlast]; exact hlate⟩]
    at hpoll
  exact List.cons_ne_nil now [] hpoll

end Run

/-- The UPS answers at 130, and is silent for its period of 200 ms while others send. -/
theorem polled_after_period_ups :
    let heard : List PollingStep :=
      [.readClock, .pollTick, .wait 30, .onDeviceData { deviceName := "UPS" }]
    let others : List PollingStep :=
      [.wait 150, .onDeviceData { deviceName := "GasDetector" }, .wait 50, .readClock]
    ∃ later, later ≠ [] ∧ polls true fallbackTasks 100 (heard ++ others ++ [.pollTick]) 3 =
      polls true fallbackTasks 100 heard 3 ++ later := by
  intro heard others
  obtain ⟨t, ht⟩ : ∃ t, fallbackTasks[3]? = some t := ⟨_, rfl⟩
  have htask : t.enable = true ∧ t.periodMs = 200 ∧ t.deviceName = "UPS" := by
    cases ht
    exact ⟨rfl, rfl, rfl⟩
  have hsilent : Silent t.deviceName others := by
    intro d hd
    simp only [others, List.mem_cons, List.not_mem_nil, or_false, reduceCtorEq, false_or,
      PollingStep.onDeviceData.injEq] at hd
    rw [hd, htask.2.2]
    decide
  refine (polled_after_period true fallbackTasks 100 3 ht).2 heard others 330 rfl htask.1 hsilent
    (by decide) ?_
  have hlast : lastTouch true fallbackTasks 100 heard 3 = some 130 := by decide
  rw [hlast, htask.2.1]
  simp

end Scheduler
end EnergyStorage
