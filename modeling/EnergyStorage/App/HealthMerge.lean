import EnergyStorage.Lib.Machine
import EnergyStorage.Lib.Mirror
import EnergyStorage.Aggregator.ItemHealth
import EnergyStorage.Scheduler.DeviceScheduler

/-! # From the scheduler's health to the aggregator's

The parser thread and the timer thread both copy the health of a device from the scheduler to
the aggregator.  Each of the two has a lock of its own, so between the reading and the writing
the other thread may come in. -/

namespace EnergyStorage
namespace App

open Lib
open Aggregator Scheduler

/-! ### A message of the parser -/

inductive ParsedType where
  | deviceData
  | parseError
  | timeout
  | hmiHeartbeat
  deriving DecidableEq, Repr

structure ParserMessage where
  type : ParsedType
  linkType : LinkType
  linkIndex : Int
  deviceData : DeviceData

def pcuRuntimeNameFromInstance (inst : Int) : String :=
  if inst = 1 then "PCU_0" else if inst = 2 then "PCU_1" else ""

def pcuInstanceFromDeviceData (d : DeviceData) : Int :=
  ((instanceUnder d "__pcu.instance").or (instanceUnder d "pcu_instance")).getD 0

/-- Data of a PCU get the name of their instance. -/
def normalizePcuDeviceData (msg : ParserMessage) : DeviceData :=
  let d := msg.deviceData
  if msg.linkType ≠ .can then d
  else if d.deviceName ≠ "PCU" ∧ d.deviceName ≠ "PCU_CTRL" then d
  else
    let inst := pcuInstanceFromDeviceData d
    let baseName := pcuRuntimeNameFromInstance inst
    if baseName = "" then d.setValue "__can_index" msg.linkIndex
    else
      let newName := if d.deviceName = "PCU_CTRL" then baseName ++ "_CTRL" else baseName
      let d := { d with deviceName := newName }
      let d := d.setValue "__can_index" msg.linkIndex
      let d := d.setValue "__pcu.instance" inst
      let d := d.setValue "__pcu.runtime_index" (inst - 1)
      let d := d.setStr "__inst_name" newName
      let d := d.setStr "__pcu.instance_name" baseName
      d.setStr "__pcu.display_name" ("PCU" ++ toString inst)

/-- The data that `onParsed` hands on. -/
def ParserMessage.handedOn (msg : ParserMessage) : Option DeviceData :=
  if msg.type = .deviceData ∧ msg.deviceData.deviceName ≠ "BMS" then
    some (normalizePcuDeviceData msg)
  else none

theorem instance_range {d : DeviceData} {inst : Int}
    (h : (instanceUnder d "__pcu.instance").or (instanceUnder d "pcu_instance") = some inst) :
    1 ≤ inst ∧ inst ≤ 2 := by
  obtain h | ⟨-, h⟩ := Option.or_eq_some_iff.mp h
  · exact of_decide_eq_true (Option.filter_eq_some_iff.mp h).2
  · exact of_decide_eq_true (Option.filter_eq_some_iff.mp h).2

theorem instanceUnder_none {d : DeviceData} (h : pcuInstanceFromDeviceData d = 0) :
    (instanceUnder d "__pcu.instance").or (instanceUnder d "pcu_instance") = none := by
  cases hinst : (instanceUnder d "__pcu.instance").or (instanceUnder d "pcu_instance") with
  | none => rfl
  | some inst =>
    rw [pcuInstanceFromDeviceData, hinst, Option.getD_some] at h
    have hrange := instance_range hinst
    omega

theorem pcuInstance_cases {d : DeviceData} (h : pcuInstanceFromDeviceData d ≠ 0) :
    pcuInstanceFromDeviceData d = 1 ∨ pcuInstanceFromDeviceData d = 2 := by
  rw [pcuInstanceFromDeviceData] at h ⊢
  cases hinst : (instanceUnder d "__pcu.instance").or (instanceUnder d "pcu_instance") with
  | none =>
    rw [hinst] at h
    exact absurd rfl h
  | some inst =>
    have hrange := instance_range hinst
    show inst = 1 ∨ inst = 2
    omega

theorem pcuRuntimeName_cases (inst : Int) :
    pcuRuntimeNameFromInstance inst = "" ∨ pcuRuntimeNameFromInstance inst = "PCU_0" ∨
      pcuRuntimeNameFromInstance inst = "PCU_1" := by
  unfold pcuRuntimeNameFromInstance
  split
  · exact Or.inr (Or.inl rfl)
  · split
    · exact Or.inr (Or.inr rfl)
    · exact Or.inl rfl

theorem pcuRuntimeName_ne {d : DeviceData} (h : pcuInstanceFromDeviceData d ≠ 0) :
    pcuRuntimeNameFromInstance (pcuInstanceFromDeviceData d) ≠ "" := by
  obtain hone | htwo := pcuInstance_cases h
  · rw [hone]
    decide
  · rw [htwo]
    decide

/-- A message that is not a PCU's state is not handed on as one. -/
theorem normalize_not_pcu {msg : ParserMessage}
    (h : isPcuStateDeviceName msg.deviceData.deviceName = false) :
    isPcuStateDeviceName (normalizePcuDeviceData msg).deviceName = false := by
  unfold normalizePcuDeviceData
  dsimp only
  split
  · exact h
  · split
    · exact h
    · rename_i hpcu
      split
      · exact h
      · rename_i hbase
        have hctrl : msg.deviceData.deviceName = "PCU_CTRL" := by
          by_contra hne
          apply hpcu
          refine ⟨?_, hne⟩
          intro hname
          rw [hname] at h
          cases h
        rw [if_pos hctrl]
        show isPcuStateDeviceName (pcuRuntimeNameFromInstance _ ++ "_CTRL") = false
        obtain hname | hname | hname := pcuRuntimeName_cases
          (pcuInstanceFromDeviceData msg.deviceData)
        · exact absurd hname hbase
        · rw [hname]
          decide
        · rw [hname]
          decide

/-- The name and the instance under which the state of a PCU is handed on. -/
theorem normalize_of_instance {msg : ParserMessage} (hcan : msg.linkType = .can)
    (hname : msg.deviceData.deviceName = "PCU")
    (hinst : pcuInstanceFromDeviceData msg.deviceData ≠ 0) :
    (normalizePcuDeviceData msg).deviceName =
        pcuRuntimeNameFromInstance (pcuInstanceFromDeviceData msg.deviceData) ∧
      Aggregator.pcuInstanceFromDeviceData (normalizePcuDeviceData msg) =
        pcuInstanceFromDeviceData msg.deviceData := by
  have hbase := pcuRuntimeName_ne hinst
  rw [normalizePcuDeviceData]
  dsimp only
  rw [if_neg (not_not.mpr hcan), if_neg (fun h => h.1 hname), if_neg hbase,
    if_neg (by rw [hname]; decide)]
  refine ⟨rfl, ?_⟩
  rw [Aggregator.pcuInstanceFromDeviceData, instanceUnder]
  simp only [DeviceData.setStr_value, DeviceData.setValue_value]
  rw [Dict.get_insert_of_ne _ (by decide), Dict.get_insert_self]
  obtain hone | htwo := pcuInstance_cases hinst
  · rw [hone]
    rfl
  · rw [htwo]
    rfl

/-- The state of a PCU without an instance number keeps its name. -/
theorem normalize_of_no_instance {msg : ParserMessage} (hcan : msg.linkType = .can)
    (hname : msg.deviceData.deviceName = "PCU")
    (hinst : pcuInstanceFromDeviceData msg.deviceData = 0) :
    normalizePcuDeviceData msg = msg.deviceData.setValue "__can_index" msg.linkIndex := by
  rw [normalizePcuDeviceData]
  dsimp only
  rw [if_neg (not_not.mpr hcan), if_neg (fun h => h.1 hname), hinst]
  exact if_pos rfl

/-- Such a state marks no item, unless it has an index. -/
theorem markedItem_of_no_instance {msg : ParserMessage} (hcan : msg.linkType = .can)
    (hname : msg.deviceData.deviceName = "PCU")
    (hinst : pcuInstanceFromDeviceData msg.deviceData = 0)
    (hindex : msg.deviceData.value.get "__pcu.runtime_index" = none) :
    markedItem (normalizePcuDeviceData msg) = none := by
  rw [normalize_of_no_instance hcan hname hinst]
  have hindex' : (msg.deviceData.setValue "__can_index" msg.linkIndex).value.get
      "__pcu.runtime_index" = none := by
    rw [DeviceData.setValue_value, Dict.get_insert_of_ne _ (by decide)]
    exact hindex
  have hunder : (instanceUnder (msg.deviceData.setValue "__can_index" msg.linkIndex)
      "__pcu.instance").or (instanceUnder (msg.deviceData.setValue "__can_index" msg.linkIndex)
        "pcu_instance") = none := instanceUnder_none hinst
  rw [markedItem, pcuBaseNameFromDeviceData, Aggregator.pcuInstanceFromDeviceData, hunder,
    hindex', DeviceData.setValue_deviceName, hname]
  rfl

/-- What the parsers hand over marks no item but its device's own: the states of the PCUs come
over CAN under one name, and no other part than the instance number gives them an index. -/
theorem marksOwn_normalize {msg : ParserMessage}
    (hpcu : isPcuStateDeviceName msg.deviceData.deviceName = true →
      msg.linkType = .can ∧ msg.deviceData.deviceName = "PCU" ∧
        (pcuInstanceFromDeviceData msg.deviceData = 0 →
          msg.deviceData.value.get "__pcu.runtime_index" = none)) :
    MarksOwn (normalizePcuDeviceData msg) := by
  cases hstate : isPcuStateDeviceName msg.deviceData.deviceName with
  | false => exact marksOwn_of_not_pcu (normalize_not_pcu hstate)
  | true =>
    obtain ⟨hcan, hname, hindex⟩ := hpcu hstate
    by_cases hinst : pcuInstanceFromDeviceData msg.deviceData = 0
    · intro n hn
      rw [markedItem_of_no_instance hcan hname hinst (hindex hinst)] at hn
      cases hn
    · obtain ⟨hnew, hsame⟩ := normalize_of_instance hcan hname hinst
      apply marksOwn_of_instance
      · rw [hsame, hnew]
        rfl
      · rw [hnew]
        exact pcuRuntimeName_ne hinst

/-! ### The two threads -/

inductive Caller where
  | parserThread
  | timerThread
  deriving DecidableEq, Repr

/-- `arrived` are data that the scheduler has taken and the aggregator has not; `ticker` is the
clock reading of a tick that has not got the scheduler's lock yet. -/
structure HealthMerge where
  sched : DeviceScheduler
  agg : DataAggregator := {}
  clock : Nat
  arrived : Option DeviceData := none
  ticker : Option Nat := none
  threads : Caller → Copier String SchedulerHealth := fun _ => {}

inductive MergeStep where
  | wait (ms : Nat)
  | onParsed (msg : ParserMessage)
  | onDeviceData
  | readClock
  | pollTick
  | getPollCtx (c : Caller)
  | updateHealth (c : Caller)

namespace HealthMerge

/-- The parser thread takes a message: the part of `onDeviceData` under the scheduler's lock.
A device that comes online is merged once more, by the callback. -/
def onParsed (s : HealthMerge) (msg : ParserMessage) : HealthMerge :=
  match msg.handedOn with
  | none => s
  | some d =>
    let r := s.sched.onDeviceData s.clock d.deviceName
    let merges := if r.2 then [d.deviceName, d.deviceName] else [d.deviceName]
    { s with
      sched := r.1
      arrived := some d
      threads := Function.update s.threads .parserThread
        ((s.threads .parserThread).assign merges) }

/-- The tick gets the lock; it calls back for each device that it changed. -/
def pollTick (s : HealthMerge) (now : Nat) : HealthMerge :=
  let r := s.sched.pollTick now
  { s with
    sched := r.1
    ticker := none
    threads := Function.update s.threads .timerThread
      ((s.threads .timerThread).assign r.2.2) }

/-- The first half of `mergeSchedulerHealthToAggregator`. -/
def getPollCtx (s : HealthMerge) (c : Caller) : HealthMerge :=
  match (s.threads c).todo with
  | [] => s
  | n :: ns =>
    { s with
      threads := Function.update s.threads c
        ⟨ns, (s.sched.getPollCtx n).map fun ctx => (n, ctx.health)⟩ }

/-- The second half. -/
def updateHealth (s : HealthMerge) (c : Caller) : HealthMerge :=
  match (s.threads c).held with
  | none => s
  | some (n, h) =>
    { s with
      agg := s.agg.updateHealthFromScheduler n h.online h.lastOkMs h.disconnectWindowMs
        h.lastOfflineMs h.disconnectCount
      threads := Function.update s.threads c (s.threads c).drop }

/-- A thread begins a call only after the one before has returned, and within a call it goes on
in the order of the code. -/
def step (s : HealthMerge) : MergeStep → HealthMerge
  | .wait ms => { s with clock := s.clock + ms }
  | .onParsed msg => if s.arrived.isNone ∧ (s.threads .parserThread).Idle then s.onParsed msg else s
  | .onDeviceData =>
    match s.arrived with
    | none => s
    | some d => { s with agg := s.agg.onDeviceData s.clock d, arrived := none }
  | .readClock =>
    if s.ticker.isNone ∧ (s.threads .timerThread).Idle then { s with ticker := some s.clock } else s
  | .pollTick =>
    match s.ticker with
    | none => s
    | some now => s.pollTick now
  | .getPollCtx c =>
    if (s.threads c).held.isNone ∧ (c = .parserThread → s.arrived.isNone) then s.getPollCtx c
    else s
  | .updateHealth c => s.updateHealth c

/-- Every call that was begun has returned. -/
structure Idle (s : HealthMerge) : Prop where
  arrived : s.arrived = none
  ticker : s.ticker = none
  threads : ∀ c, (s.threads c).Idle

instance (s : HealthMerge) : Decidable s.Idle :=
  decidable_of_iff (s.arrived.isNone = true ∧ s.ticker.isNone = true ∧
      (s.threads .parserThread).Idle ∧ (s.threads .timerThread).Idle)
    ⟨fun ⟨ha, ht, hp, hm⟩ => ⟨Option.isNone_iff_eq_none.mp ha, Option.isNone_iff_eq_none.mp ht,
        fun | .parserThread => hp | .timerThread => hm⟩,
      fun h => ⟨Option.isNone_iff_eq_none.mpr h.arrived, Option.isNone_iff_eq_none.mpr h.ticker,
        h.threads _, h.threads _⟩⟩

end HealthMerge

/-- The two threads with a scheduler that has just been started. -/
def healthMerge (parser : Bool) (cfg : List PollTask) (startMs : Nat) :
    Machine HealthMerge MergeStep Empty where
  start := { sched := DeviceScheduler.start parser cfg, clock := startMs }
  step s e := (s.step e, [])

/-! ### What both report of a device -/

structure ReportedHealth where
  online : Bool
  lastOkMs : Nat
  disconnectCount : BitVec 32
  deriving DecidableEq, Repr

def ofScheduler (h : SchedulerHealth) : ReportedHealth := ⟨h.online, h.lastOkMs, h.disconnectCount⟩

def ofItem (x : SnapshotItem) : ReportedHealth := ⟨x.online, x.lastOkMs, x.disconnectCount⟩

namespace HealthMerge

def Tracks (s : HealthMerge) : Prop :=
  Tracked ofScheduler s.sched.healthOf (fun n => ofItem (s.agg.item n)) s.threads

/-- The devices still to be read are known to the scheduler, those that the aggregator is about
to mark are among them, and each device is up to date or still to be written. -/
structure Kept (s : HealthMerge) : Prop where
  known : ∀ c, ∀ n ∈ (s.threads c).todo, n ∈ s.sched.pollCtx.names
  marked : ∀ d ∈ s.arrived, MarksOwn d ∧ d.deviceName ∈ (s.threads .parserThread).todo
  tracks : s.Tracks

/-- The data mark no item but the device's own, and a reading that is written shows what the
scheduler knows, or the device is still going to be written again. -/
def KeepsUp (s : HealthMerge) : MergeStep → Prop
  | .onParsed msg => ∀ d ∈ msg.handedOn, MarksOwn d
  | .updateHealth c =>
    ∀ r ∈ (s.threads c).held, Tracked.Fresh ofScheduler s.sched.healthOf s.threads c r.1 r.2
  | _ => True

/-- The devices that the parser thread merges after a message. -/
theorem mem_merges {b : Bool} {name n : String} :
    n ∈ (if b then [name, name] else [name]) ↔ n = name := by
  cases b <;> simp

theorem Kept.onParsed {s : HealthMerge} (h : s.Kept) {msg : ParserMessage}
    (hown : ∀ d ∈ msg.handedOn, MarksOwn d) : (s.onParsed msg).Kept := by
  rw [HealthMerge.onParsed]
  split
  · exact h
  · rename_i d hd
    refine ⟨?_, ?_, ?_⟩
    · intro c n hn
      rw [DeviceScheduler.mem_names_onDeviceData]
      obtain hold | ⟨-, hnew⟩ := Copier.mem_todo_assign.mp hn
      · exact Or.inr (h.known c n hold)
      · exact Or.inl (mem_merges.mp hnew)
    · rintro d' hd'
      obtain rfl : d = d' := Option.some_inj.mp hd'
      exact ⟨hown d hd, Copier.mem_todo_assign.mpr (Or.inr ⟨rfl, mem_merges.mpr rfl⟩)⟩
    · apply Tracked.assign h.tracks
      intro n hn
      rw [s.sched.healthOf_onDeviceData, if_neg fun hname => hn (mem_merges.mpr hname)]

theorem Kept.onDeviceData {s : HealthMerge} (h : s.Kept) {d : DeviceData}
    (hd : s.arrived = some d) :
    Kept { s with agg := s.agg.onDeviceData s.clock d, arrived := none } := by
  obtain ⟨hown, htodo⟩ := h.marked d hd
  refine ⟨h.known, nofun, ?_⟩
  apply Tracked.touch h.tracks
  intro n hn
  have hname : markedItem d ≠ some n := by
    intro hmarked
    rw [hown n hmarked] at hn
    exact hn .parserThread htodo
  exact congrArg ofItem (item_onDeviceData s.agg s.clock d hname)

theorem Kept.pollTick {s : HealthMerge} (h : s.Kept) (now : Nat) : (s.pollTick now).Kept := by
  refine ⟨?_, ?_, ?_⟩
  · intro c n hn
    apply DeviceScheduler.mem_names_pollTick
    obtain hold | ⟨-, hnew⟩ := Copier.mem_todo_assign.mp hn
    · exact h.known c n hold
    · exact DeviceScheduler.mem_names_of_changed hnew
  · intro d hd
    obtain ⟨hown, htodo⟩ := h.marked d hd
    exact ⟨hown, Copier.mem_todo_assign.mpr (Or.inl htodo)⟩
  · apply Tracked.assign h.tracks
    intro n hn
    exact congrArg ofScheduler (DeviceScheduler.healthOf_pollTick_of_notMem hn)

theorem Kept.getPollCtx {s : HealthMerge} (h : s.Kept) {c : Caller}
    (hheld : (s.threads c).held = none) (harrived : c = .parserThread → s.arrived = none) :
    (s.getPollCtx c).Kept := by
  rw [HealthMerge.getPollCtx]
  split
  · exact h
  · rename_i n ns htodo
    have hknown : n ∈ s.sched.pollCtx.names := h.known c n (by rw [htodo]; exact List.mem_cons_self)
    have hread : (s.sched.getPollCtx n).map (fun ctx => (n, ctx.health)) =
        some (n, s.sched.healthOf n) := by
      have hget := DeviceScheduler.getPollCtx_of_mem hknown
      obtain ⟨ctx, hctx, hhealth⟩ := Option.map_eq_some_iff.mp hget
      rw [hctx, ← hhealth]
      rfl
    rw [hread]
    refine ⟨?_, ?_, Tracked.read h.tracks htodo hheld⟩
    · intro c' k hk
      exact h.known c' k (Copier.mem_todo_of_read htodo hk)
    · intro d hd
      have hc : Caller.parserThread ≠ c := by
        rintro rfl
        rw [harrived rfl] at hd
        cases hd
      obtain ⟨hown, hmem⟩ := h.marked d hd
      refine ⟨hown, ?_⟩
      show _ ∈ (Function.update s.threads c _ .parserThread).todo
      rw [Function.update_of_ne hc]
      exact hmem

theorem Kept.updateHealth {s : HealthMerge} (h : s.Kept) {c : Caller}
    (hfresh : ∀ r ∈ (s.threads c).held,
      Tracked.Fresh ofScheduler s.sched.healthOf s.threads c r.1 r.2) :
    (s.updateHealth c).Kept := by
  rw [HealthMerge.updateHealth]
  split
  · exact h
  · rename_i n x hheld
    refine ⟨?_, ?_, ?_⟩
    · intro c' k hk
      rw [Copier.todo_drop] at hk
      exact h.known c' k hk
    · intro d hd
      rw [Copier.todo_drop]
      exact h.marked d hd
    · apply Tracked.write h.tracks hheld (hfresh _ hheld)
      · rw [DataAggregator.updateHealthFromScheduler, DataAggregator.item_setItem_self]
        rfl
      · intro k hk
        rw [DataAggregator.updateHealthFromScheduler, DataAggregator.item_setItem_of_ne _ hk]

theorem Kept.step {s : HealthMerge} (h : s.Kept) {e : MergeStep} (he : s.KeepsUp e) :
    (s.step e).Kept := by
  cases e with
  | wait ms => exact ⟨h.known, h.marked, h.tracks⟩
  | onParsed msg =>
    rw [HealthMerge.step]
    split
    · exact h.onParsed he
    · exact h
  | onDeviceData =>
    cases harrived : s.arrived with
    | none =>
      rw [HealthMerge.step, harrived]
      exact h
    | some d =>
      rw [HealthMerge.step, harrived]
      exact h.onDeviceData harrived
  | readClock =>
    rw [HealthMerge.step]
    split
    · exact ⟨h.known, h.marked, h.tracks⟩
    · exact h
  | pollTick =>
    cases hticker : s.ticker with
    | none =>
      rw [HealthMerge.step, hticker]
      exact h
    | some now =>
      rw [HealthMerge.step, hticker]
      exact h.pollTick now
  | getPollCtx c =>
    rw [HealthMerge.step]
    split
    · rename_i hfree
      exact h.getPollCtx (Option.isNone_iff_eq_none.mp hfree.1)
        fun hc => Option.isNone_iff_eq_none.mp (hfree.2 hc)
    · exact h
  | updateHealth c => exact h.updateHealth he

end HealthMerge

/-! ### Runs -/

/-- An item that was never written and a scheduler that has just been started agree. -/
theorem kept_start (parser : Bool) (cfg : List PollTask) (startMs : Nat) :
    (healthMerge parser cfg startMs).start.Kept := by
  refine ⟨nofun, nofun, ?_⟩
  intro n
  obtain ⟨window, h⟩ := DeviceScheduler.healthOf_start parser cfg n
  left
  show ofItem {} = ofScheduler ((DeviceScheduler.start parser cfg).healthOf n)
  rw [h]
  rfl

/-- In a run whose steps keep up, the two agree whenever every call has returned. -/
theorem settled_health (parser : Bool) (cfg : List PollTask) (startMs : Nat)
    {es : List MergeStep}
    (h : (healthMerge parser cfg startMs).EveryStep HealthMerge.KeepsUp es)
    {pre : List MergeStep} (hpre : pre <+: es)
    (hidle : ((healthMerge parser cfg startMs).run pre).Idle) (n : String) :
    ofItem (((healthMerge parser cfg startMs).run pre).agg.item n) =
      ofScheduler (((healthMerge parser cfg startMs).run pre).sched.healthOf n) := by
  have hbefore : (healthMerge parser cfg startMs).EveryStep HealthMerge.KeepsUp pre :=
    fun pre' e hpre' => h pre' e (hpre'.trans hpre)
  have hkept : ((healthMerge parser cfg startMs).run pre).Kept :=
    hbefore.invariant (kept_start parser cfg startMs) fun _ _ hs he => hs.step he
  exact Tracked.settled hkept.tracks hidle.threads n

/-- A message of the UPS and both of its merges. -/
def upsMessage : List MergeStep :=
  [.onParsed ⟨.deviceData, .rs232, 0, { deviceName := "UPS" }⟩, .onDeviceData,
    .getPollCtx .parserThread, .updateHealth .parserThread,
    .getPollCtx .parserThread, .updateHealth .parserThread]

/-- Without a tick in between both readings are fresh. -/
theorem settled_health_upsMessage :
    ofItem (((healthMerge true fallbackTasks 100).run upsMessage).agg.item "UPS") =
      ofScheduler (((healthMerge true fallbackTasks 100).run upsMessage).sched.healthOf
        "UPS") := by
  apply settled_health true fallbackTasks 100 _ (List.prefix_refl _) (by decide)
  have hfresh : ∀ pre ∈ [upsMessage.take 3, upsMessage.take 5],
      ∀ r ∈ (((healthMerge true fallbackTasks 100).run pre).threads .parserThread).held,
        ofScheduler r.2 = ofScheduler (((healthMerge true fallbackTasks 100).run
          pre).sched.healthOf r.1) := by
    decide
  have hsteps : upsMessage = ((((([] ++ [upsMessage[0]]) ++ [upsMessage[1]]) ++
      [upsMessage[2]]) ++ [upsMessage[3]]) ++ [upsMessage[4]]) ++ [upsMessage[5]] := rfl
  rw [hsteps]
  simp only [Machine.everyStep_snoc]
  refine ⟨⟨⟨⟨⟨⟨Machine.everyStep_nil _ _, ?_⟩, trivial⟩, trivial⟩, ?_⟩, trivial⟩, ?_⟩
  · intro d hd
    cases hd
    exact marksOwn_normalize nofun
  · exact fun r hr => Or.inl (hfresh (upsMessage.take 3) List.mem_cons_self r hr)
  · exact fun r hr => Or.inl (hfresh (upsMessage.take 5)
      (List.mem_cons_of_mem _ List.mem_cons_self) r hr)

/-- The UPS falls silent and a tick takes it offline. -/
def upsSilent : List MergeStep :=
  [.wait 2001, .readClock, .pollTick, .getPollCtx .timerThread]

/-- The UPS answers again between the two halves of the timer thread's merge: its old reading is
written over the new one. -/
theorem answered_device_offline :
    let s := (healthMerge true fallbackTasks 100).run
      (upsMessage ++ upsSilent ++ upsMessage ++ [.updateHealth .timerThread])
    s.Idle ∧ ofItem (s.agg.item "UPS") = ⟨false, 100, 1⟩ ∧
      ofScheduler (s.sched.healthOf "UPS") = ⟨true, 2101, 1⟩ := by
  decide

end App
end EnergyStorage
