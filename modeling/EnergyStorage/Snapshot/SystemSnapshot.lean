import EnergyStorage.Lib.Json
import EnergyStorage.Aggregator.ItemHealth

/-! # Snapshots of the system

What the aggregator hands to the sinks: for each device what it reported, and its health.
The sinks compare texts of this content with the texts they have kept. -/

namespace EnergyStorage
namespace Snapshot

open Lib (Json)

/-- The fields of a message; the keys of each list are those of a map. -/
structure DataFields where
  num : List (String × ℚ) := []
  value : List (String × Int) := []
  status : List (String × Nat) := []
  str : List (String × String) := []

structure GasChannelState where
  valid : Bool := false
  value : ℚ := 0
  raw : Nat := 0
  status : Nat := 0
  decimalCode : Nat := 0
  unitCode : Nat := 0
  typeCode : Nat := 0
  faultAny : Bool := false
  lowAlarm : Bool := false
  highAlarm : Bool := false
  alarmAny : Bool := false
  tsMs : Nat := 0

structure UpsGroupData where
  num : List (String × ℚ) := []
  value : List (String × Int) := []
  status : List (String × Nat) := []
  tsMs : Nat := 0

structure AirconGroup where
  tsMs : Nat := 0
  fields : List (String × ℚ) := []

structure AirconSnapshot where
  version : AirconGroup := {}
  runState : AirconGroup := {}
  sensorState : AirconGroup := {}
  warnState : AirconGroup := {}
  sysPara : AirconGroup := {}
  remotePara : AirconGroup := {}

structure PcuGroupData extends DataFields where
  tsMs : Nat := 0

/-- The reports of a PCU, and the frames sent to it. -/
structure PcuSnapshot where
  state : PcuGroupData := {}
  ctrl : PcuGroupData := {}

/-- The health is that of the aggregator's item. -/
structure SnapshotItem extends Aggregator.SnapshotItem where
  tsMs : Nat := 0
  data : DataFields := {}
  /-- The channels, under the code of their gas. -/
  gasChannels : List (Nat × GasChannelState) := []
  upsGroups : List (String × UpsGroupData) := []
  aircon : Option AirconSnapshot := none
  pcu : Option PcuSnapshot := none

/-- The values of the system, beside the items. -/
structure SystemValues where
  smokePercent : ℚ := 0
  smokeTemperature : Int := 0
  acIndoorTemp : ℚ := 0
  acHumidity : ℚ := 0
  acPower : Int := 0
  acRunState : Int := 0
  acAlarm : Bool := false
  systemTemperature : Int := 0
  gasAlarm : Bool := false
  smokeAlarm : Bool := false

/-- The items are those of a map: no name comes twice. -/
structure SystemSnapshot where
  timestampMs : Nat := 0
  system : SystemValues := {}
  items : List (String × SnapshotItem) := []
  nodup : (items.map Prod.fst).Nodup := by decide

/-! ### The texts of an item -/

def numJson (m : List (String × ℚ)) : Json := .object (m.map fun f => (f.1, .float f.2))

def valueJson (m : List (String × Int)) : Json := .object (m.map fun f => (f.1, .integer f.2))

def statusJson (m : List (String × Nat)) : Json := .object (m.map fun f => (f.1, .unsigned f.2))

def strJson (m : List (String × String)) : Json := .object (m.map fun f => (f.1, .string f.2))

/-- The number of a health state. -/
def healthCode : Aggregator.DeviceHealth → Int
  | .online => 0
  | .degraded => 1
  | .offline => 2

def healthKeyJson (item : SnapshotItem) : Json :=
  .object [
    ("state", .integer (healthCode item.health)),
    ("online", .boolean item.online),
    ("last_ok_ms", .unsigned item.lastOkMs),
    ("disconnect_window_ms", .unsigned item.disconnectWindowMs),
    ("last_offline_ms", .unsigned item.lastOfflineMs),
    ("disconnect_count", .unsigned item.disconnectCount.toNat)]

/-- The groups of a UPS, under the commands that they answer. -/
def upsJson (groups : List (String × UpsGroupData)) : Json :=
  .object (groups.map fun g => (g.1, .object [
    ("num", numJson g.2.num),
    ("value", valueJson g.2.value),
    ("status", statusJson g.2.status),
    ("ts_ms", .unsigned g.2.tsMs)]))

def isPcuName (name : String) : Bool := name == "PCU" || "PCU_".isPrefixOf name

end Snapshot
end EnergyStorage
