import Mathlib.Data.List.Infix
import Mathlib.Data.List.Perm.Basic
import EnergyStorage.Lib.Machine
import EnergyStorage.Scheduler.DeviceScheduler

/-! # Data and ticks of the scheduler in any order

`pollTick` reads the clock before it takes the lock, `onDeviceData` after.  The calls of the
health callback follow when the lock is free again. -/

namespace EnergyStorage
namespace Scheduler

open Lib

/-- `ticker` is the reading of the tick that has not got the lock yet; `owed` are the calls of
the callback that are still to be made, `fired` those made. -/
structure Polling where
  sched : DeviceScheduler
  clock : Nat
  ticker : Option Nat := none
  owed : List String := []
  fired : List String := []

inductive PollingStep where
  | wait (ms : Nat)
  | onDeviceData (d : DeviceData)
  | readClock
  | pollTick
  | callback (k : Nat)

namespace Polling

def step (s : Polling) : PollingStep → Polling
  | .wait ms => { s with clock := s.clock + ms }
  | .onDeviceData d =>
    let r := s.sched.onDeviceData s.clock d.deviceName
    { s with sched := r.1, owed := if r.2 then s.owed ++ [d.deviceName] else s.owed }
  | .readClock => { s with ticker := some (s.ticker.getD s.clock) }
  | .pollTick =>
    match s.ticker with
    | none => s
    | some now =>
      let r := s.sched.pollTick now
      { s with sched := r.1, ticker := none, owed := s.owed ++ r.2.2 }
  | .callback k =>
    match s.owed[k]? with
    | none => s
    | some n => { s with owed := s.owed.eraseIdx k, fired := s.fired ++ [n] }

end Polling

/-- The scheduler with its tasks, from a time of the clock on. -/
def polling (parser : Bool) (cfg : List PollTask) (startMs : Nat) :
    Machine Polling PollingStep Empty where
  start := { sched := DeviceScheduler.start parser cfg, clock := startMs }
  step s e := (s.step e, [])

namespace Polling

def healthOf (s : Polling) (n : String) : SchedulerHealth := s.sched.healthOf n

/-- What one step does to the health of a device. -/
theorem healthOf_step (s : Polling) (e : PollingStep) (n : String) :
    (s.step e).healthOf n = s.healthOf n ∨
      (∃ d, e = .onDeviceData d ∧ d.deviceName = n ∧
        (s.step e).healthOf n = (s.healthOf n).heard s.clock) ∨
      ∃ now, e = .pollTick ∧ s.ticker = some now ∧ s.sched.parser = true ∧
        (s.step e).healthOf n = (s.healthOf n).aged now := by
  cases e with
  | wait ms => exact Or.inl rfl
  | readClock => exact Or.inl rfl
  | onDeviceData d =>
    have h := s.sched.healthOf_onDeviceData s.clock d.deviceName n
    by_cases hn : n = d.deviceName
    · rw [if_pos hn] at h
      exact Or.inr (Or.inl ⟨d, rfl, hn.symm, h⟩)
    · rw [if_neg hn] at h
      exact Or.inl h
  | pollTick =>
    cases hticker : s.ticker with
    | none =>
      left
      rw [step, hticker]
    | some now =>
      have h := s.sched.healthOf_pollTick now n
      have hstep : (s.step .pollTick).healthOf n = (s.sched.pollTick now).1.healthOf n := by
        rw [step, hticker]
        rfl
      by_cases hparser : s.sched.parser = true
      · rw [if_pos hparser] at h
        exact Or.inr (Or.inr ⟨now, rfl, rfl, hparser, hstep.trans h⟩)
      · rw [if_neg hparser] at h
        exact Or.inl (hstep.trans h)
  | callback k =>
    left
    rw [step]
    split <;> rfl

/-! ### Edges -/

/-- The new state of the device, where a step changes it. -/
def edge (n : String) (s : Polling) (e : PollingStep) : List Bool :=
  let after := ((s.step e).healthOf n).online
  if after = (s.healthOf n).online then [] else [after]

theorem edge_of_eq {n : String} {s : Polling} {e : PollingStep}
    (h : ((s.step e).healthOf n).online = (s.healthOf n).online) : edge n s e = [] :=
  if_pos h

theorem edge_of_ne {n : String} {s : Polling} {e : PollingStep}
    (h : ((s.step e).healthOf n).online ≠ (s.healthOf n).online) :
    edge n s e = [((s.step e).healthOf n).online] :=
  if_neg h

/-- The device goes offline. -/
theorem false_mem_edge {n : String} {s : Polling} {e : PollingStep} :
    false ∈ edge n s e ↔
      (s.healthOf n).online = true ∧ ((s.step e).healthOf n).online = false := by
  unfold edge
  cases (s.healthOf n).online <;> cases ((s.step e).healthOf n).online <;> decide

theorem count_false_edge (n : String) (s : Polling) (e : PollingStep) :
    (edge n s e).count false =
      if (s.healthOf n).online && !((s.step e).healthOf n).online then 1 else 0 := by
  unfold edge
  cases (s.healthOf n).online <;> cases ((s.step e).healthOf n).online <;> rfl

theorem disconnectCount_step (s : Polling) (e : PollingStep) (n : String) :
    ((s.step e).healthOf n).disconnectCount =
      (s.healthOf n).disconnectCount + BitVec.ofNat 32 ((edge n s e).count false) := by
  rw [count_false_edge]
  obtain hsame | ⟨d, -, -, hheard⟩ | ⟨now, -, -, -, haged⟩ := healthOf_step s e n
  · rw [hsame, Bool.and_not_self]
    exact (BitVec.add_zero _).symm
  · rw [hheard]
    have honline : ((s.healthOf n).heard s.clock).online = true := rfl
    rw [honline, Bool.not_true, Bool.and_false]
    exact (BitVec.add_zero _).symm
  · rw [haged, SchedulerHealth.disconnectCount_aged]
    split
    · rfl
    · exact (BitVec.add_zero _).symm

/-! ### Calls of the callback -/

theorem owed_onDeviceData (s : Polling) (d : DeviceData) (n : String) :
    (s.step (.onDeviceData d)).owed.count n =
      s.owed.count n + (edge n s (.onDeviceData d)).length := by
  have hhealth := s.sched.healthOf_onDeviceData s.clock d.deviceName n
  have howed : (s.step (.onDeviceData d)).owed =
      if (s.healthOf d.deviceName).online then s.owed else s.owed ++ [d.deviceName] := by
    show (if !(s.healthOf d.deviceName).online then _ else _) = _
    cases (s.healthOf d.deviceName).online <;> rfl
  rw [howed]
  by_cases hn : n = d.deviceName
  · rw [if_pos hn] at hhealth
    have hafter : ((s.step (.onDeviceData d)).healthOf n).online = true :=
      congrArg SchedulerHealth.online hhealth
    rw [← hn]
    cases hbefore : (s.healthOf n).online with
    | true =>
      rw [edge_of_eq (hafter.trans hbefore.symm)]
      rfl
    | false =>
      rw [edge_of_ne (by rw [hafter, hbefore]; decide), hafter]
      show (s.owed ++ [n]).count n = _
      rw [List.count_append, List.count_singleton_self]
      rfl
  · rw [if_neg hn] at hhealth
    have hsame : ((s.step (.onDeviceData d)).healthOf n).online = (s.healthOf n).online :=
      congrArg SchedulerHealth.online hhealth
    rw [edge_of_eq hsame]
    split
    · rfl
    · rw [List.count_append, List.count_eq_zero.mpr fun h => hn (List.mem_singleton.mp h)]
      rfl

theorem owed_pollTick (s : Polling) (n : String) :
    (s.step .pollTick).owed.count n = s.owed.count n + (edge n s .pollTick).length := by
  cases hticker : s.ticker with
  | none =>
    have hstep : s.step .pollTick = s := by rw [step, hticker]
    rw [edge_of_eq (by rw [hstep]), hstep]
    rfl
  | some now =>
    have howed : (s.step .pollTick).owed = s.owed ++ (s.sched.pollTick now).2.2 := by
      rw [step, hticker]
    have hhealth : (s.step .pollTick).healthOf n = (s.sched.pollTick now).1.healthOf n := by
      rw [step, hticker]
      rfl
    have hbefore : s.sched.healthOf n = s.healthOf n := rfl
    rw [howed, List.count_append, s.sched.count_changed, edge, hhealth, hbefore]
    congr 1
    split <;> rfl

theorem calls_callback (s : Polling) (k : Nat) (n : String) :
    (s.step (.callback k)).fired.count n + (s.step (.callback k)).owed.count n =
      s.fired.count n + s.owed.count n := by
  rw [step]
  split
  · rfl
  · rename_i x hx
    obtain ⟨hk, hget⟩ := List.getElem?_eq_some_iff.mp hx
    have hperm := List.getElem_cons_eraseIdx_perm hk
    have hcount := hperm.count_eq n
    rw [hget, List.count_cons] at hcount
    show (s.fired ++ [x]).count n + (s.owed.eraseIdx k).count n = _
    rw [List.count_append, List.count_singleton]
    omega

/-- Each edge adds one call of the callback. -/
theorem calls_step (s : Polling) (e : PollingStep) (n : String) :
    (s.step e).fired.count n + (s.step e).owed.count n =
      s.fired.count n + s.owed.count n + (edge n s e).length := by
  cases e with
  | wait ms => rw [edge_of_eq rfl]; rfl
  | readClock => rw [edge_of_eq rfl]; rfl
  | onDeviceData d =>
    rw [owed_onDeviceData, Nat.add_assoc]
    rfl
  | pollTick =>
    have hfired : (s.step .pollTick).fired = s.fired := by
      rw [step]
      split <;> rfl
    rw [owed_pollTick, hfired, Nat.add_assoc]
  | callback k =>
    have hsame : (s.step (.callback k)).healthOf n = s.healthOf n := by
      rw [step]
      split <;> rfl
    rw [edge_of_eq (by rw [hsame]), calls_callback]
    rfl

/-! ### Polls -/

/-- The time of the poll of the `i`-th task that a step makes. -/
def pollOf (i : Nat) (s : Polling) (e : PollingStep) : List Nat :=
  match e, s.ticker with
  | .pollTick, some now =>
    if s.sched.parser && (s.sched.tasks[i]?).any (DeviceScheduler.isDue now) then [now] else []
  | _, _ => []

/-- What one step does to a task. -/
theorem task_step {s : Polling} {e : PollingStep} {i : Nat} {t' : PollTask}
    (h : (s.step e).sched.tasks[i]? = some t') :
    ∃ t, s.sched.tasks[i]? = some t ∧ t'.periodMs = t.periodMs ∧
      ((pollOf i s e = [] ∧
          (t'.nextDueMs = t.nextDueMs ∨ t'.nextDueMs = s.clock + t.periodMs)) ∨
        ∃ now, s.ticker = some now ∧ pollOf i s e = [now] ∧ t.nextDueMs ≤ now ∧
          t'.nextDueMs = now + t.periodMs) := by
  cases e with
  | wait ms => exact ⟨t', h, rfl, Or.inl ⟨rfl, Or.inl rfl⟩⟩
  | readClock => exact ⟨t', h, rfl, Or.inl ⟨rfl, Or.inl rfl⟩⟩
  | onDeviceData d =>
    obtain ⟨t, ht, hsame | hdue⟩ := DeviceScheduler.getElem?_reschedule h
    · rw [hsame]
      exact ⟨t, ht, rfl, Or.inl ⟨rfl, Or.inl rfl⟩⟩
    · rw [hdue]
      exact ⟨t, ht, rfl, Or.inl ⟨rfl, Or.inr rfl⟩⟩
  | pollTick =>
    cases hticker : s.ticker with
    | none =>
      rw [step, hticker] at h
      exact ⟨t', h, rfl, Or.inl ⟨by simp only [pollOf, hticker], Or.inl rfl⟩⟩
    | some now =>
      have htasks : (s.step .pollTick).sched.tasks =
          if s.sched.parser then s.sched.tasks.map (DeviceScheduler.collect now)
          else s.sched.tasks := by
        rw [step, hticker]
        exact s.sched.tasks_pollTick now
      have hpoll : pollOf i s .pollTick =
          if s.sched.parser && (s.sched.tasks[i]?).any (DeviceScheduler.isDue now) then [now]
          else [] := by
        simp only [pollOf, hticker]
      rw [htasks] at h
      rw [hpoll]
      cases hparser : s.sched.parser with
      | false =>
        rw [hparser, if_neg Bool.false_ne_true] at h
        exact ⟨t', h, rfl, Or.inl ⟨rfl, Or.inl rfl⟩⟩
      | true =>
        rw [hparser, if_pos rfl, List.getElem?_map] at h
        obtain ⟨t, ht, hcollect⟩ := Option.map_eq_some_iff.mp h
        refine ⟨t, ht, ?_⟩
        rw [ht, Option.any_some, Bool.true_and, ← hcollect]
        cases hdue : DeviceScheduler.isDue now t with
        | true =>
          rw [DeviceScheduler.collect_of_due hdue]
          exact ⟨rfl, Or.inr ⟨now, rfl, rfl, DeviceScheduler.nextDueMs_le_of_isDue hdue, rfl⟩⟩
        | false =>
          rw [DeviceScheduler.collect_of_not_due hdue]
          exact ⟨rfl, Or.inl ⟨rfl, Or.inl rfl⟩⟩
  | callback k =>
    have hsched : (s.step (.callback k)).sched = s.sched := by
      rw [step]
      split <;> rfl
    rw [hsched] at h
    exact ⟨t', h, rfl, Or.inl ⟨rfl, Or.inl rfl⟩⟩

/-! ### Times -/

def dataTime (n : String) (s : Polling) : PollingStep → Option Nat
  | .onDeviceData d => if d.deviceName = n then some s.clock else none
  | _ => none

theorem lastOkMs_step (s : Polling) (e : PollingStep) (n : String) :
    ((s.step e).healthOf n).lastOkMs = (dataTime n s e).getD (s.healthOf n).lastOkMs := by
  obtain hsame | ⟨d, rfl, hname, hheard⟩ | ⟨now, rfl, -, -, haged⟩ := healthOf_step s e n
  · cases e with
    | onDeviceData d =>
      have h := s.sched.healthOf_onDeviceData s.clock d.deviceName n
      show ((s.sched.onDeviceData s.clock d.deviceName).1.healthOf n).lastOkMs = _
      rw [h, dataTime]
      by_cases hn : n = d.deviceName
      · rw [if_pos hn, if_pos hn.symm]
        rfl
      · rw [if_neg hn, if_neg (Ne.symm hn)]
        rfl
    | wait ms => rfl
    | readClock => rfl
    | pollTick => exact congrArg SchedulerHealth.lastOkMs hsame
    | callback k => exact congrArg SchedulerHealth.lastOkMs hsame
  · rw [hheard, dataTime, if_pos hname]
    rfl
  · rw [haged, SchedulerHealth.lastOkMs_aged]
    rfl

/-- The reading of a tick is not ahead of the clock. -/
def Clocked (s : Polling) : Prop := ∀ now ∈ s.ticker, now ≤ s.clock

theorem clock_le_step (s : Polling) (e : PollingStep) : s.clock ≤ (s.step e).clock := by
  cases e with
  | wait ms => exact Nat.le_add_right _ _
  | onDeviceData d => exact Nat.le_refl _
  | readClock => exact Nat.le_refl _
  | pollTick =>
    rw [step]
    split <;> exact Nat.le_refl _
  | callback k =>
    rw [step]
    split <;> exact Nat.le_refl _

theorem ticker_step {s : Polling} {e : PollingStep} {now : Nat}
    (h : now ∈ (s.step e).ticker) : now ∈ s.ticker ∨ now = s.clock := by
  cases e with
  | wait ms => exact Or.inl h
  | onDeviceData d => exact Or.inl h
  | readClock =>
    have hnow : s.ticker.getD s.clock = now := Option.some_inj.mp h
    cases hticker : s.ticker with
    | none =>
      rw [hticker] at hnow
      exact Or.inr hnow.symm
    | some r =>
      rw [hticker] at hnow
      exact Or.inl (congrArg some hnow)
  | pollTick =>
    cases hticker : s.ticker with
    | none =>
      rw [step, hticker] at h
      rw [hticker] at h
      cases h
    | some r =>
      rw [step, hticker] at h
      cases h
  | callback k =>
    rw [step] at h
    split at h <;> exact Or.inl h

theorem Clocked.step {s : Polling} (h : s.Clocked) (e : PollingStep) : (s.step e).Clocked := by
  intro now hnow
  have hclock := clock_le_step s e
  obtain hold | hnew := ticker_step hnow
  · exact (h now hold).trans hclock
  · exact hnew.trans_le hclock

theorem clocked_run (parser : Bool) (cfg : List PollTask) (startMs : Nat)
    (es : List PollingStep) : ((polling parser cfg startMs).run es).Clocked := by
  refine (polling parser cfg startMs).run_induction (R := fun _ s => s.Clocked) nofun ?_ es
  intro pre e ih
  exact ih.step e

end Polling

/-! ### Runs -/

section

variable (parser : Bool) (cfg : List PollTask) (startMs : Nat)

/-- The states that a device changes to, in order. -/
def edges (es : List PollingStep) (n : String) : List Bool :=
  (polling parser cfg startMs).trace (Polling.edge n) es

/-- The times of the polls of the `i`-th task, as the ticks read them. -/
def polls (es : List PollingStep) (i : Nat) : List Nat :=
  (polling parser cfg startMs).trace (Polling.pollOf i) es

/-- The time of the device's latest data. -/
def latestData (es : List PollingStep) (n : String) : Option Nat :=
  (polling parser cfg startMs).latest (Polling.dataTime n) es

/-- From its first data on, the device's data come within its window. -/
def Steady (es : List PollingStep) (n : String) : Prop :=
  ∀ pre ∈ es.inits, ∀ t ∈ latestData parser cfg startMs pre n,
    ((polling parser cfg startMs).run pre).clock ≤
      t + (((polling parser cfg startMs).run pre).healthOf n).disconnectWindowMs

instance (es : List PollingStep) (n : String) : Decidable (Steady parser cfg startMs es n) :=
  inferInstanceAs (Decidable (∀ pre ∈ es.inits, ∀ t ∈ latestData parser cfg startMs pre n, _))

variable {parser cfg startMs}

theorem disconnectCount_run (es : List PollingStep) (n : String) :
    (((polling parser cfg startMs).run es).healthOf n).disconnectCount =
      BitVec.ofNat 32 ((edges parser cfg startMs es n).count false) := by
  refine (polling parser cfg startMs).run_induction
    (R := fun es s => (s.healthOf n).disconnectCount =
      BitVec.ofNat 32 ((edges parser cfg startMs es n).count false)) ?_ ?_ es
  · obtain ⟨window, h⟩ := DeviceScheduler.healthOf_start parser cfg n
    show ((DeviceScheduler.start parser cfg).healthOf n).disconnectCount = _
    rw [h]
    rfl
  · intro pre e ih
    rw [edges, Machine.trace_snoc, List.count_append, BitVec.ofNat_add]
    exact (Polling.disconnectCount_step _ e n).trans (congrArg (· + _) ih)

theorem calls_run (es : List PollingStep) (n : String) :
    ((polling parser cfg startMs).run es).fired.count n +
        ((polling parser cfg startMs).run es).owed.count n =
      (edges parser cfg startMs es n).length := by
  refine (polling parser cfg startMs).run_induction
    (R := fun es s => s.fired.count n + s.owed.count n =
      (edges parser cfg startMs es n).length) rfl ?_ es
  intro pre e ih
  rw [edges, Machine.trace_snoc, List.length_append]
  exact (Polling.calls_step _ e n).trans (congrArg (· + _) ih)

/-- The polls of a task so far, and when the next one is due. -/
structure PollsApart (t : PollTask) (clock : Nat) (times : List Nat) : Prop where
  apart : times.Pairwise fun a b => a + t.periodMs ≤ b
  due : ∀ a ∈ times, a + t.periodMs ≤ t.nextDueMs
  past : ∀ a ∈ times, a ≤ clock

theorem pollsApart_run (es : List PollingStep) {i : Nat} {t : PollTask}
    (ht : ((polling parser cfg startMs).run es).sched.tasks[i]? = some t) :
    PollsApart t ((polling parser cfg startMs).run es).clock
      (polls parser cfg startMs es i) := by
  induction es using List.reverseRecOn generalizing t with
  | nil => exact ⟨List.Pairwise.nil, nofun, nofun⟩
  | append_singleton es e ih =>
    have hclocked := Polling.clocked_run parser cfg startMs es
    rw [Machine.run_snoc] at ht ⊢
    rw [polls, Machine.trace_snoc]
    obtain ⟨t₀, ht₀, hperiod, hcase⟩ := Polling.task_step ht
    have hbefore := ih ht₀
    have hclock := Polling.clock_le_step ((polling parser cfg startMs).run es) e
    obtain ⟨hnone, hdue⟩ | ⟨now, hticker, hpoll, hwas, hdue⟩ := hcase
    · rw [hnone, List.append_nil]
      refine ⟨?_, ?_, ?_⟩
      · rw [hperiod]
        exact hbefore.apart
      · intro a ha
        have h₀ := hbefore.due a ha
        have hpast := hbefore.past a ha
        rw [hperiod]
        obtain hdue | hdue := hdue <;> omega
      · intro a ha
        exact (hbefore.past a ha).trans hclock
    · rw [hpoll]
      refine ⟨?_, ?_, ?_⟩
      · rw [hperiod, List.pairwise_append]
        refine ⟨hbefore.apart, List.pairwise_singleton _ _, ?_⟩
        intro a ha b hb
        rw [List.mem_singleton.mp hb]
        exact (hbefore.due a ha).trans hwas
      · intro a ha
        rw [hperiod, hdue]
        obtain ha | ha := List.mem_append.mp ha
        · have h₀ := hbefore.due a ha
          omega
        · rw [List.mem_singleton.mp ha]
      · intro a ha
        obtain ha | ha := List.mem_append.mp ha
        · exact (hbefore.past a ha).trans hclock
        · rw [List.mem_singleton.mp ha]
          exact (hclocked now hticker).trans hclock

theorem lastOkMs_run (es : List PollingStep) (n : String) :
    (((polling parser cfg startMs).run es).healthOf n).lastOkMs =
      (latestData parser cfg startMs es n).getD 0 := by
  have hreg : (((polling parser cfg startMs).run es).healthOf n).lastOkMs =
      (latestData parser cfg startMs es n).getD
        ((polling parser cfg startMs).start.healthOf n).lastOkMs :=
    (polling parser cfg startMs).register_eq_latest (fun s => (s.healthOf n).lastOkMs)
      (fun pre e => Polling.lastOkMs_step _ e n) es
  obtain ⟨window, h⟩ := DeviceScheduler.healthOf_start parser cfg n
  have hzero : ((polling parser cfg startMs).start.healthOf n).lastOkMs = 0 := by
    show ((DeviceScheduler.start parser cfg).healthOf n).lastOkMs = 0
    rw [h]
  rw [hzero] at hreg
  exact hreg

/-- The reading of a tick is not older than the device's latest data, and these did not come
when the clock was at 0. -/
def InTime (n : String) (s : Polling) (e : PollingStep) : Prop :=
  e = .pollTick → s.sched.parser = true → ∀ now ∈ s.ticker,
    (s.healthOf n).lastOkMs ≤ now ∧ ((s.healthOf n).lastOkMs = 0 → (s.healthOf n).online = false)

/-- A device that was heard of within its window and is online goes offline exactly at a tick
that is overtaken by its data. -/
theorem not_false_mem_edge_iff {s : Polling} (hs : s.Clocked) {n : String}
    (honline : (s.healthOf n).lastOkMs ≠ 0 → (s.healthOf n).online = true)
    (hsteady : (s.healthOf n).lastOkMs ≠ 0 →
      s.clock ≤ (s.healthOf n).lastOkMs + (s.healthOf n).disconnectWindowMs)
    (e : PollingStep) : false ∉ Polling.edge n s e ↔ InTime n s e := by
  rw [Polling.false_mem_edge]
  constructor
  · rintro hstay rfl hparser now hnow
    have hage : (s.step .pollTick).healthOf n = (s.healthOf n).aged now := by
      have h := s.sched.healthOf_pollTick now n
      rw [if_pos hparser] at h
      rw [← Polling.healthOf] at h
      rw [Polling.step, hnow]
      exact h
    rw [hage, SchedulerHealth.online_aged, decide_eq_false_iff_not] at hstay
    constructor
    · by_contra hlt
      exact hstay ⟨honline (by omega), fun halive => hlt halive.2.1⟩
    · intro hzero
      rw [← Bool.not_eq_true]
      exact fun hon => hstay ⟨hon, fun halive => halive.1 hzero⟩
  · rintro hin ⟨hbefore, hafter⟩
    obtain hsame | ⟨d, -, -, hheard⟩ | ⟨now, rfl, hticker, hparser, haged⟩ :=
      Polling.healthOf_step s e n
    · rw [hsame, hbefore] at hafter
      cases hafter
    · rw [hheard] at hafter
      cases hafter
    · rw [haged, SchedulerHealth.online_aged, decide_eq_false_iff_not] at hafter
      obtain ⟨hle, hzero⟩ := hin rfl hparser now hticker
      have hpos : (s.healthOf n).lastOkMs ≠ 0 := by
        intro h
        rw [hzero h] at hbefore
        cases hbefore
      have hnow := hs now hticker
      have hclock := hsteady hpos
      exact hafter ⟨hpos, hle, by omega⟩

theorem Steady.of_prefix {es pre : List PollingStep} {n : String}
    (h : Steady parser cfg startMs es n) (hpre : pre <+: es) :
    Steady parser cfg startMs pre n := by
  intro pre' hpre'
  rw [List.mem_inits] at hpre'
  exact h pre' ((List.mem_inits _ _).mpr (hpre'.trans hpre))

/-- The clock of a steady device. -/
theorem Steady.clock_le {es : List PollingStep} {n : String}
    (h : Steady parser cfg startMs es n)
    (hpos : (((polling parser cfg startMs).run es).healthOf n).lastOkMs ≠ 0) :
    ((polling parser cfg startMs).run es).clock ≤
      (((polling parser cfg startMs).run es).healthOf n).lastOkMs +
        (((polling parser cfg startMs).run es).healthOf n).disconnectWindowMs := by
  have hlast : (((polling parser cfg startMs).run es).healthOf n).lastOkMs =
      (latestData parser cfg startMs es n).getD 0 := lastOkMs_run es n
  cases hdata : latestData parser cfg startMs es n with
  | none =>
    rw [hdata] at hlast
    exact absurd hlast hpos
  | some t =>
    rw [hdata] at hlast
    rw [hlast]
    exact h es ((List.mem_inits _ _).mpr (List.prefix_refl es)) t hdata

/-- A steady device is never taken offline exactly when no tick is overtaken. -/
theorem steady_iff {es : List PollingStep} {n : String}
    (h : Steady parser cfg startMs es n) :
    false ∉ edges parser cfg startMs es n ↔
      (polling parser cfg startMs).EveryStep (InTime n) es := by
  have hboth : (false ∉ edges parser cfg startMs es n ↔
      (polling parser cfg startMs).EveryStep (InTime n) es) ∧
        (false ∉ edges parser cfg startMs es n →
          (((polling parser cfg startMs).run es).healthOf n).lastOkMs ≠ 0 →
            (((polling parser cfg startMs).run es).healthOf n).online = true) := by
    induction es using List.reverseRecOn with
    | nil =>
      refine ⟨iff_of_true (by simp [edges]) (Machine.everyStep_nil _ _), ?_⟩
      intro _ hpos
      have hlast : (((polling parser cfg startMs).run []).healthOf n).lastOkMs = 0 :=
        lastOkMs_run [] n
      exact absurd hlast hpos
    | append_singleton es e ih =>
      have hbefore := h.of_prefix (List.prefix_append es [e])
      obtain ⟨hiff, honline⟩ := ih hbefore
      have hclocked := Polling.clocked_run parser cfg startMs es
      have hmem : false ∉ edges parser cfg startMs (es ++ [e]) n ↔
          false ∉ edges parser cfg startMs es n ∧
            false ∉ Polling.edge n ((polling parser cfg startMs).run es) e := by
        rw [edges, Machine.trace_snoc, List.mem_append, not_or]
        rfl
      constructor
      · rw [hmem, Machine.everyStep_snoc, ← hiff]
        apply and_congr_right
        intro hquiet
        exact not_false_mem_edge_iff hclocked (honline hquiet) hbefore.clock_le e
      · rw [hmem, Machine.run_snoc]
        rintro ⟨hquiet, hstay⟩ hpos
        have hlast : ((((polling parser cfg startMs).run es).step e).healthOf n).lastOkMs ≠ 0 :=
          hpos
        show ((((polling parser cfg startMs).run es).step e).healthOf n).online = true
        obtain hsame | ⟨d, -, -, hheard⟩ | ⟨now, -, -, -, haged⟩ :=
          Polling.healthOf_step ((polling parser cfg startMs).run es) e n
        · rw [hsame] at hlast ⊢
          exact honline hquiet hlast
        · rw [hheard]
          rfl
        · rw [haged, SchedulerHealth.lastOkMs_aged] at hlast
          by_contra hoff
          rw [Polling.false_mem_edge] at hstay
          exact hstay ⟨honline hquiet hlast, Bool.eq_false_iff.mpr hoff⟩
  exact hboth.1

variable (parser cfg startMs) in
/-- What the scheduler owes its callers: no device whose data keep coming goes offline, the
callback is called once for each edge, the counter counts the falling ones, and the polls of a
task keep its period. -/
structure Contract (es : List PollingStep) : Prop where
  keepsOnline : ∀ n, Steady parser cfg startMs es n → false ∉ edges parser cfg startMs es n
  callbacks : ∀ n, ((polling parser cfg startMs).run es).fired.count n +
    ((polling parser cfg startMs).run es).owed.count n = (edges parser cfg startMs es n).length
  disconnects : ∀ n, (((polling parser cfg startMs).run es).healthOf n).disconnectCount =
    BitVec.ofNat 32 ((edges parser cfg startMs es n).count false)
  period : ∀ i t, ((polling parser cfg startMs).run es).sched.tasks[i]? = some t →
    (polls parser cfg startMs es i).Pairwise fun a b => a + t.periodMs ≤ b

/-- In any order of data and ticks the scheduler keeps its contract exactly when no tick is
overtaken by the data of a device that keeps sending. -/
theorem contract_iff (parser : Bool) (cfg : List PollTask) (startMs : Nat)
    (es : List PollingStep) : Contract parser cfg startMs es ↔
      ∀ n, Steady parser cfg startMs es n →
        (polling parser cfg startMs).EveryStep (InTime n) es := by
  constructor
  · intro h n hsteady
    exact (steady_iff hsteady).mp (h.keepsOnline n hsteady)
  · intro h
    refine ⟨?_, calls_run es, disconnectCount_run es, ?_⟩
    · intro n hsteady
      exact (steady_iff hsteady).mpr (h n hsteady)
    · intro i t ht
      exact (pollsApart_run es ht).apart

end

/-- The tick reads the clock, data come in a millisecond later, and the tick gets the lock. -/
def overtakenTick : List PollingStep :=
  [.onDeviceData { deviceName := "UPS" }, .readClock, .wait 1,
    .onDeviceData { deviceName := "UPS" }, .pollTick]

/-- A device that sent its data this very millisecond is taken offline. -/
theorem overtaken_device_offline :
    let s := (polling true fallbackTasks 100).run overtakenTick
    Steady true fallbackTasks 100 overtakenTick "UPS" ∧
      edges true fallbackTasks 100 overtakenTick "UPS" = [true, false] ∧
      (s.healthOf "UPS").lastOkMs = s.clock ∧ (s.healthOf "UPS").disconnectCount = 1 ∧
      ¬ Contract true fallbackTasks 100 overtakenTick := by
  have hsteady : Steady true fallbackTasks 100 overtakenTick "UPS" := by decide
  have hedges : edges true fallbackTasks 100 overtakenTick "UPS" = [true, false] := by
    decide
  refine ⟨hsteady, hedges, by decide, by decide +kernel, ?_⟩
  intro h
  have hmem := h.keepsOnline "UPS" hsteady
  rw [hedges] at hmem
  exact hmem (by decide)

end Scheduler
end EnergyStorage
