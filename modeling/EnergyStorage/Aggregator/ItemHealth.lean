import EnergyStorage.Protocol.DeviceData

/-! # The health of the items of the snapshot

Data of a device mark its item as online; what the scheduler knows is written over that. -/

namespace EnergyStorage
namespace Aggregator

open Lib (Dict)

inductive DeviceHealth where
  | online
  | degraded
  | offline
  deriving DecidableEq, Repr

/-- The health of a `SnapshotItem`. -/
structure SnapshotItem where
  health : DeviceHealth := .offline
  online : Bool := false
  lastOkMs : Nat := 0
  disconnectWindowMs : Nat := 0
  lastOfflineMs : Nat := 0
  disconnectCount : BitVec 32 := 0
  deriving DecidableEq, Repr

/-! ### The item of a message -/

def isPcuStateDeviceName (name : String) : Bool :=
  name = "PCU" ∨ name = "PCU_0" ∨ name = "PCU_1"

def isPcuCtrlDeviceName (name : String) : Bool :=
  name = "PCU_CTRL" ∨ name = "PCU_0_CTRL" ∨ name = "PCU_1_CTRL" ∨
    name = "PCU_TX" ∨ name = "PCU_0_TX" ∨ name = "PCU_1_TX"

def pcuBaseNameFromInstance (inst : Int) : String :=
  if inst = 1 then "PCU_0" else if inst = 2 then "PCU_1" else ""

def pcuBaseNameFromDeviceName (name : String) : String :=
  if name = "PCU_0" ∨ name = "PCU_0_CTRL" ∨ name = "PCU_0_TX" then "PCU_0"
  else if name = "PCU_1" ∨ name = "PCU_1_CTRL" ∨ name = "PCU_1_TX" then "PCU_1"
  else ""

/-- An instance number of the configuration, if the message has one under the key. -/
def instanceUnder (d : DeviceData) (key : String) : Option Int :=
  (d.value.get key).filter fun inst => 1 ≤ inst ∧ inst ≤ 2

def pcuInstanceFromDeviceData (d : DeviceData) : Int :=
  let byRuntimeIndex := (d.value.get "__pcu.runtime_index").bind fun i =>
    if i = 0 then some 1 else if i = 1 then some 2 else none
  (((instanceUnder d "__pcu.instance").or (instanceUnder d "pcu_instance")).or
    byRuntimeIndex).getD 0

def pcuBaseNameFromDeviceData (d : DeviceData) : String :=
  let byInst := pcuBaseNameFromInstance (pcuInstanceFromDeviceData d)
  if byInst ≠ "" then byInst else pcuBaseNameFromDeviceName d.deviceName

/-! ### The aggregator -/

structure DataAggregator where
  items : Dict String SnapshotItem := Dict.empty

namespace DataAggregator

/-- `items[name]`, where a missing item is a new one. -/
def item (a : DataAggregator) (name : String) : SnapshotItem := (a.items.get name).getD {}

def setItem (a : DataAggregator) (name : String) (x : SnapshotItem) : DataAggregator :=
  { a with items := a.items.insert name x }

def markOnline (a : DataAggregator) (ts : Nat) (name : String) : DataAggregator :=
  a.setItem name { a.item name with health := .online, online := true, lastOkMs := ts }

/-- `onDeviceData` for a message that is not of the BMS: these come over a queue of their own. -/
def onDeviceData (a : DataAggregator) (ts : Nat) (d : DeviceData) : DataAggregator :=
  if isPcuStateDeviceName d.deviceName then
    let itemName := pcuBaseNameFromDeviceData d
    if itemName = "" then a else a.markOnline ts itemName
  else if isPcuCtrlDeviceName d.deviceName then
    let itemName := pcuBaseNameFromDeviceData d
    -- what was sent to a PCU says nothing about its health
    if itemName = "" then a else a.setItem itemName (a.item itemName)
  else a.markOnline ts d.deviceName

def updateHealthFromScheduler (a : DataAggregator) (deviceName : String) (online : Bool)
    (lastOkMs disconnectWindowMs lastOfflineMs : Nat) (disconnectCount : BitVec 32) :
    DataAggregator :=
  a.setItem deviceName
    { health := if online then .online else .offline, online, lastOkMs, disconnectWindowMs,
      lastOfflineMs, disconnectCount }

theorem item_setItem_self (a : DataAggregator) (name : String) (x : SnapshotItem) :
    (a.setItem name x).item name = x := by
  rw [item, setItem, Dict.get_insert_self]
  rfl

theorem item_setItem_of_ne (a : DataAggregator) {name n : String} (h : n ≠ name)
    (x : SnapshotItem) : (a.setItem name x).item n = a.item n := by
  rw [item, setItem, Dict.get_insert_of_ne _ h]
  rfl

end DataAggregator

/-! ### The item that a message marks as online -/

def markedItem (d : DeviceData) : Option String :=
  if isPcuStateDeviceName d.deviceName then
    if pcuBaseNameFromDeviceData d = "" then none else some (pcuBaseNameFromDeviceData d)
  else if isPcuCtrlDeviceName d.deviceName then none
  else some d.deviceName

theorem item_onDeviceData (a : DataAggregator) (ts : Nat) (d : DeviceData) {n : String}
    (h : markedItem d ≠ some n) : (a.onDeviceData ts d).item n = a.item n := by
  rw [markedItem] at h
  unfold DataAggregator.onDeviceData
  dsimp only
  split at h
  · rw [if_pos ‹_›]
    split at h
    · rw [if_pos ‹_›]
    · rw [if_neg ‹_›]
      exact a.item_setItem_of_ne (fun hn => h (congrArg some hn.symm)) _
  · rw [if_neg ‹_›]
    split at h
    · rw [if_pos ‹_›]
      split
      · rfl
      · by_cases hn : n = pcuBaseNameFromDeviceData d
        · rw [hn]
          exact a.item_setItem_self _ _
        · exact a.item_setItem_of_ne hn _
    · rw [if_neg ‹_›]
      exact a.item_setItem_of_ne (fun hn => h (congrArg some hn.symm)) _

/-- The message marks no item but the device's own. -/
def MarksOwn (d : DeviceData) : Prop := ∀ n ∈ markedItem d, n = d.deviceName

/-- A message of a device that is no PCU. -/
theorem marksOwn_of_not_pcu {d : DeviceData} (h : isPcuStateDeviceName d.deviceName = false) :
    MarksOwn d := by
  intro n hn
  rw [markedItem, if_neg (by rw [h]; exact Bool.false_ne_true)] at hn
  split at hn
  · cases hn
  · exact (Option.some_inj.mp hn).symm

/-- A message of a PCU under the name of its instance. -/
theorem marksOwn_of_instance {d : DeviceData}
    (h : pcuBaseNameFromInstance (pcuInstanceFromDeviceData d) = d.deviceName)
    (hne : d.deviceName ≠ "") : MarksOwn d := by
  have hbase : pcuBaseNameFromDeviceData d = d.deviceName := by
    rw [pcuBaseNameFromDeviceData, h, if_pos hne]
  intro n hn
  rw [markedItem, hbase, if_neg hne] at hn
  split at hn
  · exact (Option.some_inj.mp hn).symm
  · split at hn
    · cases hn
    · exact (Option.some_inj.mp hn).symm

end Aggregator
end EnergyStorage
