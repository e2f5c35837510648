import EnergyStorage.Lib.Dict
import EnergyStorage.Modbus.Crc

/-! # The address table that the HMI reads and writes -/

namespace EnergyStorage

open Lib

def hmiBoolRwStart : Word := 0x1000
def hmiBoolRwEnd : Word := 0x1FFF

def hmiIntRwStart : Word := 0x2000
def hmiIntRwEnd : Word := 0x2FFF

def hmiBoolRdStart : Word := 0x3000
def hmiBoolRdEnd : Word := 0x3FFF

def hmiIntRdStart : Word := 0x4000
def hmiIntRdEnd : Word := 0x4FFF

/-- An address that was never set reads as zero. -/
structure HmiAddressTable where
  boolRw : Dict Word Bool
  intRw : Dict Word Word
  boolRd : Dict Word Bool
  intRd : Dict Word Word

namespace HmiAddressTable

def empty : HmiAddressTable := ⟨Dict.empty, Dict.empty, Dict.empty, Dict.empty⟩

def inRange (addr s e : Word) : Bool := s ≤ addr && addr ≤ e

/-- Addresses are not mapped, only checked. -/
def mapCoilAddr (a : Word) : Option Word :=
  if inRange a hmiBoolRwStart hmiBoolRwEnd then some a else none

def mapHoldingAddr (a : Word) : Option Word :=
  if inRange a hmiIntRwStart hmiIntRwEnd then some a else none

def mapDiscreteAddr (a : Word) : Option Word :=
  if inRange a hmiBoolRdStart hmiBoolRdEnd then some a else none

def mapInputRegAddr (a : Word) : Option Word :=
  if inRange a hmiIntRdStart hmiIntRdEnd then some a else none

def readBoolRw (t : HmiAddressTable) (addr : Word) : Bool := (t.boolRw.get addr).getD false

def readIntRw (t : HmiAddressTable) (addr : Word) : Word := (t.intRw.get addr).getD 0

def readBoolRead (t : HmiAddressTable) (addr : Word) : Bool := (t.boolRd.get addr).getD false

def readIntRead (t : HmiAddressTable) (addr : Word) : Word := (t.intRd.get addr).getD 0

def writeBoolRw (t : HmiAddressTable) (addr : Word) (v : Bool) : HmiAddressTable :=
  if inRange addr hmiBoolRwStart hmiBoolRwEnd then { t with boolRw := t.boolRw.insert addr v }
  else t

def writeIntRw (t : HmiAddressTable) (addr v : Word) : HmiAddressTable :=
  if inRange addr hmiIntRwStart hmiIntRwEnd then { t with intRw := t.intRw.insert addr v }
  else t

def setBoolRead (t : HmiAddressTable) (addr : Word) (v : Bool) : HmiAddressTable :=
  if inRange addr hmiBoolRdStart hmiBoolRdEnd then { t with boolRd := t.boolRd.insert addr v }
  else t

def setIntRead (t : HmiAddressTable) (addr v : Word) : HmiAddressTable :=
  if inRange addr hmiIntRdStart hmiIntRdEnd then { t with intRd := t.intRd.insert addr v }
  else t

/-- A coil address. -/
def IsCoil (a : Word) : Prop := inRange a hmiBoolRwStart hmiBoolRwEnd = true

/-- A holding register address. -/
def IsHolding (a : Word) : Prop := inRange a hmiIntRwStart hmiIntRwEnd = true

instance (a : Word) : Decidable (IsCoil a) := inferInstanceAs (Decidable (_ = true))

instance (a : Word) : Decidable (IsHolding a) := inferInstanceAs (Decidable (_ = true))

theorem isCoil_iff (a : Word) : IsCoil a ↔ 0x1000 ≤ a.toNat ∧ a.toNat ≤ 0x1FFF := by
  rw [IsCoil, inRange, Bool.and_eq_true, decide_eq_true_eq, decide_eq_true_eq, BitVec.le_def,
    BitVec.le_def]
  rfl

theorem isHolding_iff (a : Word) : IsHolding a ↔ 0x2000 ≤ a.toNat ∧ a.toNat ≤ 0x2FFF := by
  rw [IsHolding, inRange, Bool.and_eq_true, decide_eq_true_eq, decide_eq_true_eq, BitVec.le_def,
    BitVec.le_def]
  rfl

theorem mapCoilAddr_eq (a : Word) : mapCoilAddr a = if IsCoil a then some a else none := rfl

theorem mapHoldingAddr_eq (a : Word) :
    mapHoldingAddr a = if IsHolding a then some a else none := rfl

theorem writeBoolRw_eq (t : HmiAddressTable) (addr : Word) (v : Bool) :
    t.writeBoolRw addr v = if IsCoil addr then { t with boolRw := t.boolRw.insert addr v } else t :=
  rfl

theorem writeIntRw_eq (t : HmiAddressTable) (addr v : Word) :
    t.writeIntRw addr v = if IsHolding addr then { t with intRw := t.intRw.insert addr v } else t :=
  rfl

theorem readBoolRw_writeBoolRw (t : HmiAddressTable) (addr a : Word) (v : Bool) :
    (t.writeBoolRw addr v).readBoolRw a =
      if IsCoil addr ∧ a = addr then v else t.readBoolRw a := by
  rw [writeBoolRw_eq]
  by_cases h : IsCoil addr
  · rw [if_pos h]
    by_cases ha : a = addr
    · rw [if_pos ⟨h, ha⟩, readBoolRw, ha, Dict.get_insert_self, Option.getD_some]
    · rw [if_neg (fun hc => ha hc.2), readBoolRw, Dict.get_insert_of_ne _ ha]
      rfl
  · rw [if_neg h, if_neg (fun hc => h hc.1)]

theorem readIntRw_writeIntRw (t : HmiAddressTable) (addr a v : Word) :
    (t.writeIntRw addr v).readIntRw a =
      if IsHolding addr ∧ a = addr then v else t.readIntRw a := by
  rw [writeIntRw_eq]
  by_cases h : IsHolding addr
  · rw [if_pos h]
    by_cases ha : a = addr
    · rw [if_pos ⟨h, ha⟩, readIntRw, ha, Dict.get_insert_self, Option.getD_some]
    · rw [if_neg (fun hc => ha hc.2), readIntRw, Dict.get_insert_of_ne _ ha]
      rfl
  · rw [if_neg h, if_neg (fun hc => h hc.1)]

@[simp] theorem readIntRw_writeBoolRw (t : HmiAddressTable) (addr a : Word) (v : Bool) :
    (t.writeBoolRw addr v).readIntRw a = t.readIntRw a := by
  rw [writeBoolRw]
  split <;> rfl

@[simp] theorem readBoolRw_writeIntRw (t : HmiAddressTable) (addr a v : Word) :
    (t.writeIntRw addr v).readBoolRw a = t.readBoolRw a := by
  rw [writeIntRw]
  split <;> rfl

end HmiAddressTable
end EnergyStorage
