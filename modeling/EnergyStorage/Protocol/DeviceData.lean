import EnergyStorage.Lib.Dict
import Mathlib.Data.Rat.Init

namespace EnergyStorage

open Lib (Dict)

/-- The reading of a gas frame, as far as the control side uses it. -/
structure GasReading where
  valid : Bool := false
  status : Nat := 0
  value : ℚ := 0

/-- What a protocol parser hands to the aggregation and logic layers: physical
quantities, enumerations, status words and texts, each under string keys. -/
structure DeviceData where
  deviceName : String := ""
  timestamp : Nat := 0
  num : Dict String ℚ := Dict.empty
  value : Dict String Int := Dict.empty
  status : Dict String Nat := Dict.empty
  str : Dict String String := Dict.empty
  gas : GasReading := {}

namespace DeviceData

def setNum (d : DeviceData) (k : String) (v : ℚ) : DeviceData :=
  { d with num := d.num.insert k v }

def setNumNew (d : DeviceData) (k : String) (v : ℚ) : DeviceData :=
  { d with num := d.num.insertNew k v }

def setValue (d : DeviceData) (k : String) (v : Int) : DeviceData :=
  { d with value := d.value.insert k v }

def setStatus (d : DeviceData) (k : String) (v : Nat) : DeviceData :=
  { d with status := d.status.insert k v }

def setStr (d : DeviceData) (k v : String) : DeviceData :=
  { d with str := d.str.insert k v }

variable (d : DeviceData) (k v : String) (q : ℚ) (n : Int)

@[simp] theorem setNum_num : (d.setNum k q).num = d.num.insert k q := rfl
@[simp] theorem setNum_value : (d.setNum k q).value = d.value := rfl
@[simp] theorem setNum_status : (d.setNum k q).status = d.status := rfl
@[simp] theorem setNum_str : (d.setNum k q).str = d.str := rfl
@[simp] theorem setNum_deviceName : (d.setNum k q).deviceName = d.deviceName := rfl
@[simp] theorem setNumNew_num : (d.setNumNew k q).num = d.num.insertNew k q := rfl
@[simp] theorem setNumNew_value : (d.setNumNew k q).value = d.value := rfl
@[simp] theorem setNumNew_status : (d.setNumNew k q).status = d.status := rfl
@[simp] theorem setNumNew_str : (d.setNumNew k q).str = d.str := rfl
@[simp] theorem setNumNew_deviceName : (d.setNumNew k q).deviceName = d.deviceName := rfl
@[simp] theorem setValue_num : (d.setValue k n).num = d.num := rfl
@[simp] theorem setValue_value : (d.setValue k n).value = d.value.insert k n := rfl
@[simp] theorem setValue_status : (d.setValue k n).status = d.status := rfl
@[simp] theorem setValue_str : (d.setValue k n).str = d.str := rfl
@[simp] theorem setValue_deviceName : (d.setValue k n).deviceName = d.deviceName := rfl
@[simp] theorem setStr_num : (d.setStr k v).num = d.num := rfl
@[simp] theorem setStr_value : (d.setStr k v).value = d.value := rfl
@[simp] theorem setStr_status : (d.setStr k v).status = d.status := rfl
@[simp] theorem setStr_str : (d.setStr k v).str = d.str.insert k v := rfl
@[simp] theorem setStr_deviceName : (d.setStr k v).deviceName = d.deviceName := rfl

end DeviceData
end EnergyStorage
