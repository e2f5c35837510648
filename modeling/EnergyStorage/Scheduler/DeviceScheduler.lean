import Mathlib.Data.List.Induction
import Mathlib.Data.List.Sort
import Mathlib.Data.String.Basic
import EnergyStorage.Lib.Dict
import EnergyStorage.Driver.Manager
import EnergyStorage.Protocol.DeviceData

/-! # The scheduler of the polled devices

Both entry points work under one lock; each is the part under the lock, for the time that it
works with. -/

namespace EnergyStorage
namespace Scheduler

open Lib (Dict)

inductive PollState where
  | online
  | offline
  deriving DecidableEq, Repr

structure DevicePollCtx where
  state : PollState := .offline
  lastOkMs : Nat := 0
  lastSendMs : Nat := 0
  disconnectWindowMs : Nat := 2000
  lastOfflineMs : Nat := 0
  disconnectCount : BitVec 32 := 0
  online : Bool := false
  deriving DecidableEq, Repr

structure PollTask where
  type : LinkType
  index : Int
  deviceName : String
  periodMs : Nat := 1000
  nextDueMs : Nat := 0
  disconnectWindowMs : Nat := 1000
  enable : Bool := true

/-- The tasks when the configuration cannot be loaded. -/
def fallbackTasks : List PollTask :=
  [{ type := .rs485, index := 3, deviceName := "GasDetector", periodMs := 200,
      disconnectWindowMs := 1500 },
    { type := .rs485, index := 2, deviceName := "SmokeSensor", periodMs := 200,
      disconnectWindowMs := 1500 },
    { type := .rs485, index := 1, deviceName := "AirConditioner", periodMs := 200,
      disconnectWindowMs := 1500 },
    { type := .rs232, index := 0, deviceName := "UPS", periodMs := 200,
      disconnectWindowMs := 2000 }]

/-- A `std::map`: the keys in order, and the entry of each. -/
structure PollCtxMap where
  names : List String
  ctx : Dict String DevicePollCtx
  nodup : names.Nodup
  mem_names : ∀ n, n ∈ names ↔ (ctx.get n).isSome

namespace PollCtxMap

def empty : PollCtxMap := ⟨[], Dict.empty, List.nodup_nil, by simp⟩

/-- `m[n]`, where a missing entry is a new one. -/
def entry (m : PollCtxMap) (n : String) : DevicePollCtx := (m.ctx.get n).getD {}

def set (m : PollCtxMap) (n : String) (c : DevicePollCtx) : PollCtxMap where
  names := if n ∈ m.names then m.names else m.names.orderedInsert (· ≤ ·) n
  ctx := m.ctx.insert n c
  nodup := by
    split
    · exact m.nodup
    · rename_i hn
      exact ((List.perm_orderedInsert _ n m.names).nodup_iff).mpr
        (List.nodup_cons.mpr ⟨hn, m.nodup⟩)
  mem_names := by
    intro k
    rw [Dict.get_insert]
    by_cases hk : k = n
    · rw [if_pos hk, hk]
      split <;> simp_all
    · rw [if_neg hk, ← m.mem_names]
      split <;> simp [hk]

/-- Changes every entry. -/
def map (m : PollCtxMap) (f : DevicePollCtx → DevicePollCtx) : PollCtxMap where
  names := m.names
  ctx := fun n => (m.ctx.get n).map f
  nodup := m.nodup
  mem_names := by
    intro k
    rw [m.mem_names]
    show _ ↔ ((m.ctx.get k).map f).isSome = true
    rw [Option.isSome_map]

theorem entry_set_self (m : PollCtxMap) (n : String) (c : DevicePollCtx) :
    (m.set n c).entry n = c := by
  show ((m.ctx.insert n c).get n).getD {} = c
  rw [Dict.get_insert_self]
  rfl

theorem entry_set_of_ne (m : PollCtxMap) {n k : String} (h : k ≠ n) (c : DevicePollCtx) :
    (m.set n c).entry k = m.entry k := by
  show ((m.ctx.insert n c).get k).getD {} = _
  rw [Dict.get_insert_of_ne _ h]
  rfl

theorem mem_names_set (m : PollCtxMap) (n k : String) (c : DevicePollCtx) :
    k ∈ (m.set n c).names ↔ k = n ∨ k ∈ m.names := by
  rw [mem_names, mem_names]
  show ((m.ctx.insert n c).get k).isSome = true ↔ _
  rw [Dict.get_insert]
  by_cases hk : k = n
  · rw [if_pos hk]
    exact iff_of_true rfl (Or.inl hk)
  · rw [if_neg hk]
    exact (or_iff_right hk).symm

theorem entry_map (m : PollCtxMap) {f : DevicePollCtx → DevicePollCtx} (hf : f {} = {})
    (n : String) : (m.map f).entry n = f (m.entry n) := by
  show ((m.ctx.get n).map f).getD {} = f ((m.ctx.get n).getD {})
  cases m.ctx.get n with
  | none => exact hf.symm
  | some c => rfl

theorem entry_of_notMem {m : PollCtxMap} {n : String} (h : n ∉ m.names) : m.entry n = {} := by
  rw [m.mem_names, Bool.not_eq_true, Option.isSome_eq_false_iff, Option.isNone_iff_eq_none] at h
  rw [entry, h]
  rfl

end PollCtxMap

/-- `parser` tells whether the parser that sends the polls is set. -/
structure DeviceScheduler where
  parser : Bool
  tasks : List PollTask := []
  pollCtx : PollCtxMap := .empty

namespace DeviceScheduler

/-- The lambda `addTask` of `start`. -/
def addTask (s : DeviceScheduler) (t : PollTask) : DeviceScheduler :=
  { s with
    tasks := s.tasks ++ [{ t with nextDueMs := 0 }]
    pollCtx := s.pollCtx.set t.deviceName { disconnectWindowMs := t.disconnectWindowMs } }

def start (parser : Bool) (cfg : List PollTask) : DeviceScheduler :=
  cfg.foldl addTask { parser := parser }

/-- The first task of the device is due a period after `now`. -/
def reschedule (name : String) (now : Nat) : List PollTask → List PollTask
  | [] => []
  | t :: ts =>
    if t.deviceName = name then { t with nextDueMs := now + t.periodMs } :: ts
    else t :: reschedule name now ts

/-- `onDeviceData` under the lock; whether the health has changed. -/
def onDeviceData (s : DeviceScheduler) (now : Nat) (name : String) : DeviceScheduler × Bool :=
  let c := s.pollCtx.entry name
  ({ s with
      pollCtx := s.pollCtx.set name { c with lastOkMs := now, state := .online, online := true }
      tasks := reschedule name now s.tasks },
    !c.online)

def getPollCtx (s : DeviceScheduler) (name : String) : Option DevicePollCtx :=
  s.pollCtx.ctx.get name

/-- One device in the loop that ages them. -/
def age (now : Nat) (c : DevicePollCtx) : DevicePollCtx :=
  let newOnline :=
    decide (c.lastOkMs ≠ 0 ∧ c.lastOkMs ≤ now ∧ now - c.lastOkMs ≤ c.disconnectWindowMs)
  let aged := { c with online := newOnline, state := if newOnline then .online else .offline }
  if c.online && !newOnline then
    { aged with lastOfflineMs := now, disconnectCount := c.disconnectCount + 1 }
  else aged

/-- A task that was never due is due now. -/
def arm (now : Nat) (t : PollTask) : PollTask :=
  if t.nextDueMs = 0 then { t with nextDueMs := now } else t

/-- Whether a task is collected by the loop over the tasks. -/
def isDue (now : Nat) (t : PollTask) : Bool := t.enable && decide ((arm now t).nextDueMs ≤ now)

/-- A task after the loop. -/
def collect (now : Nat) (t : PollTask) : PollTask :=
  if t.enable then
    if isDue now t then { t with nextDueMs := now + t.periodMs } else arm now t
  else t

def markSent (now : Nat) (m : PollCtxMap) (t : PollTask) : PollCtxMap :=
  m.set t.deviceName { m.entry t.deviceName with lastSendMs := now }

/-- The part of `pollTick` under the lock for the time `now`: the tasks to be sent and the
devices whose health has changed. -/
def pollTick (s : DeviceScheduler) (now : Nat) :
    DeviceScheduler × List PollTask × List String :=
  if s.parser then
    let due := s.tasks.filter (isDue now)
    ({ s with
        pollCtx := due.foldl (markSent now) (s.pollCtx.map (age now))
        tasks := s.tasks.map (collect now) },
      due.map (arm now),
      s.pollCtx.names.filter fun n =>
        (s.pollCtx.entry n).online != (age now (s.pollCtx.entry n)).online)
  else (s, [], [])

end DeviceScheduler

/-! ### The health of a device -/

/-- What others are told of a device. -/
structure SchedulerHealth where
  online : Bool := false
  lastOkMs : Nat := 0
  disconnectWindowMs : Nat := 2000
  lastOfflineMs : Nat := 0
  disconnectCount : BitVec 32 := 0
  deriving DecidableEq, Repr

def DevicePollCtx.health (c : DevicePollCtx) : SchedulerHealth :=
  ⟨c.online, c.lastOkMs, c.disconnectWindowMs, c.lastOfflineMs, c.disconnectCount⟩

namespace SchedulerHealth

/-- The device's data came within its window, as far as a clock at `now` can tell. -/
def Alive (h : SchedulerHealth) (now : Nat) : Prop :=
  h.lastOkMs ≠ 0 ∧ h.lastOkMs ≤ now ∧ now - h.lastOkMs ≤ h.disconnectWindowMs

instance (h : SchedulerHealth) (now : Nat) : Decidable (h.Alive now) :=
  inferInstanceAs (Decidable (_ ∧ _ ∧ _))

def heard (h : SchedulerHealth) (now : Nat) : SchedulerHealth :=
  { h with online := true, lastOkMs := now }

def aged (h : SchedulerHealth) (now : Nat) : SchedulerHealth :=
  if h.Alive now then { h with online := true }
  else if h.online then
    { h with
      online := false, lastOfflineMs := now, disconnectCount := h.disconnectCount + 1 }
  else { h with online := false }

theorem online_aged (h : SchedulerHealth) (now : Nat) :
    (h.aged now).online = decide (h.Alive now) := by
  unfold aged
  split
  · rename_i halive
    exact (decide_eq_true halive).symm
  · rename_i halive
    rw [decide_eq_false halive]
    split <;> rfl

theorem lastOkMs_aged (h : SchedulerHealth) (now : Nat) : (h.aged now).lastOkMs = h.lastOkMs := by
  unfold aged
  split
  · rfl
  · split <;> rfl

/-- The counter counts the times a device goes offline. -/
theorem disconnectCount_aged (h : SchedulerHealth) (now : Nat) :
    (h.aged now).disconnectCount =
      if h.online && !(h.aged now).online then h.disconnectCount + 1
      else h.disconnectCount := by
  rw [online_aged]
  unfold aged
  by_cases halive : h.Alive now
  · rw [if_pos halive, decide_eq_true halive]
    cases h.online <;> rfl
  · rw [if_neg halive, decide_eq_false halive]
    cases h.online <;> rfl

/-- Ageing changes nothing else of a device that stays online or offline. -/
theorem aged_eq_self {h : SchedulerHealth} {now : Nat} (hsame : (h.aged now).online = h.online) :
    h.aged now = h := by
  rw [online_aged] at hsame
  unfold aged
  by_cases halive : h.Alive now
  · rw [decide_eq_true halive] at hsame
    rw [if_pos halive, hsame]
  · rw [decide_eq_false halive] at hsame
    rw [if_neg halive, ← hsame, if_neg Bool.false_ne_true, hsame]

end SchedulerHealth

theorem health_age (now : Nat) (c : DevicePollCtx) :
    (DeviceScheduler.age now c).health = c.health.aged now := by
  unfold DeviceScheduler.age SchedulerHealth.aged
  by_cases halive : c.health.Alive now
  · have hcond : c.lastOkMs ≠ 0 ∧ c.lastOkMs ≤ now ∧
        now - c.lastOkMs ≤ c.disconnectWindowMs := halive
    rw [if_pos halive, decide_eq_true hcond]
    dsimp only
    rw [Bool.not_true, Bool.and_false, if_neg Bool.false_ne_true]
    rfl
  · have hcond : ¬ (c.lastOkMs ≠ 0 ∧ c.lastOkMs ≤ now ∧
        now - c.lastOkMs ≤ c.disconnectWindowMs) := halive
    rw [if_neg halive, decide_eq_false hcond]
    dsimp only
    rw [Bool.not_false, Bool.and_true]
    have honline : c.health.online = c.online := rfl
    rw [honline]
    cases c.online <;> rfl

theorem age_default (now : Nat) : DeviceScheduler.age now {} = {} := by
  unfold DeviceScheduler.age
  simp

namespace DeviceScheduler

def healthOf (s : DeviceScheduler) (n : String) : SchedulerHealth := (s.pollCtx.entry n).health

theorem healthOf_onDeviceData (s : DeviceScheduler) (now : Nat) (name n : String) :
    (s.onDeviceData now name).1.healthOf n =
      if n = name then (s.healthOf n).heard now else s.healthOf n := by
  show ((s.pollCtx.set name _).entry n).health = _
  by_cases hn : n = name
  · rw [if_pos hn, hn, PollCtxMap.entry_set_self]
    rfl
  · rw [if_neg hn, PollCtxMap.entry_set_of_ne _ hn]
    rfl

/-- A device starts with nothing but its window. -/
theorem healthOf_start (parser : Bool) (cfg : List PollTask) (n : String) :
    ∃ window, (start parser cfg).healthOf n = { disconnectWindowMs := window } := by
  induction cfg using List.reverseRecOn with
  | nil => exact ⟨2000, rfl⟩
  | append_singleton cfg t ih =>
    rw [start, List.foldl_append]
    show ∃ window, (((start parser cfg).pollCtx.set t.deviceName _).entry n).health = _
    by_cases hn : n = t.deviceName
    · rw [hn, PollCtxMap.entry_set_self]
      exact ⟨t.disconnectWindowMs, rfl⟩
    · rw [PollCtxMap.entry_set_of_ne _ hn]
      exact ih

theorem health_markSent (now : Nat) (m : PollCtxMap) (t : PollTask) (n : String) :
    ((markSent now m t).entry n).health = (m.entry n).health := by
  rw [markSent]
  by_cases hn : n = t.deviceName
  · rw [hn, PollCtxMap.entry_set_self]
    rfl
  · rw [PollCtxMap.entry_set_of_ne _ hn]

theorem health_foldl_markSent (now : Nat) (ts : List PollTask) (m : PollCtxMap) (n : String) :
    ((ts.foldl (markSent now) m).entry n).health = (m.entry n).health := by
  induction ts generalizing m with
  | nil => rfl
  | cons t ts ih => exact (ih _).trans (health_markSent now m t n)

theorem healthOf_pollTick (s : DeviceScheduler) (now : Nat) (n : String) :
    (s.pollTick now).1.healthOf n =
      if s.parser then (s.healthOf n).aged now else s.healthOf n := by
  rw [pollTick]
  split
  · show (((s.tasks.filter (isDue now)).foldl (markSent now) (s.pollCtx.map (age now))).entry
      n).health = _
    rw [health_foldl_markSent, PollCtxMap.entry_map _ (age_default now), health_age]
    rfl
  · rfl

/-- A tick lists each device whose health it changes, once. -/
theorem count_changed (s : DeviceScheduler) (now : Nat) (n : String) :
    (s.pollTick now).2.2.count n =
      if ((s.pollTick now).1.healthOf n).online = (s.healthOf n).online then 0 else 1 := by
  rw [healthOf_pollTick]
  cases hparser : s.parser with
  | false =>
    rw [pollTick, hparser, if_neg Bool.false_ne_true, if_neg Bool.false_ne_true, if_pos rfl]
    rfl
  | true =>
    have haged : (age now (s.pollCtx.entry n)).online = ((s.healthOf n).aged now).online :=
      congrArg SchedulerHealth.online (health_age now (s.pollCtx.entry n))
    rw [pollTick, hparser, if_pos rfl, if_pos rfl, ← haged]
    show (s.pollCtx.names.filter fun n =>
      (s.pollCtx.entry n).online != (age now (s.pollCtx.entry n)).online).count n =
        if (age now (s.pollCtx.entry n)).online = (s.pollCtx.entry n).online then 0 else 1
    by_cases hsame : (age now (s.pollCtx.entry n)).online = (s.pollCtx.entry n).online
    · rw [if_pos hsame, List.count_eq_zero]
      intro hmem
      have hne := (List.mem_filter.mp hmem).2
      rw [hsame] at hne
      simp at hne
    · have hmem : n ∈ s.pollCtx.names := by
        by_contra hn
        apply hsame
        rw [PollCtxMap.entry_of_notMem hn, age_default]
      have hcount := List.count_filter (l := s.pollCtx.names) (a := n)
        (p := fun n => (s.pollCtx.entry n).online != (age now (s.pollCtx.entry n)).online)
        (bne_iff_ne.mpr (Ne.symm hsame))
      rw [if_neg hsame, hcount]
      exact List.count_eq_one_of_mem s.pollCtx.nodup hmem

/-! ### The known devices -/

theorem mem_names_onDeviceData (s : DeviceScheduler) (now : Nat) (name k : String) :
    k ∈ (s.onDeviceData now name).1.pollCtx.names ↔ k = name ∨ k ∈ s.pollCtx.names :=
  s.pollCtx.mem_names_set name k _

theorem mem_names_foldl_markSent (now : Nat) {ts : List PollTask} {m : PollCtxMap} {k : String}
    (h : k ∈ m.names) : k ∈ (ts.foldl (markSent now) m).names := by
  induction ts generalizing m with
  | nil => exact h
  | cons t ts ih => exact ih ((m.mem_names_set _ _ _).mpr (Or.inr h))

theorem mem_names_pollTick {s : DeviceScheduler} {now : Nat} {k : String}
    (h : k ∈ s.pollCtx.names) : k ∈ (s.pollTick now).1.pollCtx.names := by
  rw [pollTick]
  split
  · exact mem_names_foldl_markSent now h
  · exact h

theorem mem_names_of_changed {s : DeviceScheduler} {now : Nat} {k : String}
    (h : k ∈ (s.pollTick now).2.2) : k ∈ s.pollCtx.names := by
  rw [pollTick] at h
  split at h
  · exact (List.mem_filter.mp h).1
  · cases h

/-- A tick changes the health of the devices that it lists and of no other. -/
theorem healthOf_pollTick_of_notMem {s : DeviceScheduler} {now : Nat} {n : String}
    (h : n ∉ (s.pollTick now).2.2) : (s.pollTick now).1.healthOf n = s.healthOf n := by
  have hsame : ((s.pollTick now).1.healthOf n).online = (s.healthOf n).online := by
    by_contra hne
    have hcount := s.count_changed now n
    rw [List.count_eq_zero.mpr h, if_neg hne] at hcount
    cases hcount
  rw [healthOf_pollTick] at hsame ⊢
  split
  · rw [if_pos ‹_›] at hsame
    exact SchedulerHealth.aged_eq_self hsame
  · rfl

theorem getPollCtx_of_mem {s : DeviceScheduler} {n : String} (h : n ∈ s.pollCtx.names) :
    (s.getPollCtx n).map DevicePollCtx.health = some (s.healthOf n) := by
  obtain ⟨c, hc⟩ := Option.isSome_iff_exists.mp ((s.pollCtx.mem_names n).mp h)
  rw [getPollCtx, healthOf, PollCtxMap.entry, hc]
  rfl

/-! ### Tasks -/

theorem getElem?_reschedule {name : String} {now : Nat} {ts : List PollTask} {i : Nat}
    {t' : PollTask} (h : (reschedule name now ts)[i]? = some t') :
    ∃ t, ts[i]? = some t ∧ (t' = t ∨ t' = { t with nextDueMs := now + t.periodMs }) := by
  induction ts generalizing i with
  | nil => cases h
  | cons t ts ih =>
    rw [reschedule] at h
    split at h
    · cases i with
      | zero => exact ⟨t, rfl, Or.inr (Option.some_inj.mp h).symm⟩
      | succ i => exact ⟨t', h, Or.inl rfl⟩
    · cases i with
      | zero => exact ⟨t, rfl, Or.inl (Option.some_inj.mp h).symm⟩
      | succ i => exact ih h

theorem nextDueMs_le_of_isDue {now : Nat} {t : PollTask} (h : isDue now t = true) :
    t.nextDueMs ≤ now := by
  have hdue := of_decide_eq_true (Bool.and_eq_true_iff.mp h).2
  unfold arm at hdue
  split at hdue
  · omega
  · exact hdue

theorem collect_of_due {now : Nat} {t : PollTask} (h : isDue now t = true) :
    collect now t = { t with nextDueMs := now + t.periodMs } := by
  rw [collect, if_pos (Bool.and_eq_true_iff.mp h).1, if_pos h]

/-- A task that is not due stays: one that was never due is due at once. -/
theorem collect_of_not_due {now : Nat} {t : PollTask} (h : isDue now t = false) :
    collect now t = t := by
  unfold collect
  split
  · rename_i henable
    rw [isDue, henable, Bool.true_and, decide_eq_false_iff_not] at h
    rw [isDue, henable, Bool.true_and, if_neg (by simpa using h)]
    unfold arm at h ⊢
    split
    · rename_i hzero
      rw [if_pos hzero] at h
      exact absurd (Nat.le_refl now) h
    · rfl
  · rfl

theorem tasks_pollTick (s : DeviceScheduler) (now : Nat) :
    (s.pollTick now).1.tasks = if s.parser then s.tasks.map (collect now) else s.tasks := by
  unfold pollTick
  split <;> rfl

end DeviceScheduler
end Scheduler
end EnergyStorage
