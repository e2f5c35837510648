import EnergyStorage.Hmi.Map

/-! # The tables that the panel can only read

The controller sets the discrete inputs and the input registers.  Whatever bytes come as a
request, they stay as they are, and a read gives what was set. -/

namespace EnergyStorage

namespace HmiAddressTable

/-- An address of a discrete input. -/
def IsDiscrete (a : Word) : Prop := inRange a hmiBoolRdStart hmiBoolRdEnd = true

/-- An address of an input register. -/
def IsInput (a : Word) : Prop := inRange a hmiIntRdStart hmiIntRdEnd = true

instance (a : Word) : Decidable (IsDiscrete a) := inferInstanceAs (Decidable (_ = true))

instance (a : Word) : Decidable (IsInput a) := inferInstanceAs (Decidable (_ = true))

variable (t : HmiAddressTable) (addr a : Word)

theorem setBoolRead_eq (v : Bool) :
    t.setBoolRead addr v =
      if IsDiscrete addr then { t with boolRd := t.boolRd.insert addr v } else t := rfl

theorem setIntRead_eq (v : Word) :
    t.setIntRead addr v =
      if IsInput addr then { t with intRd := t.intRd.insert addr v } else t := rfl

theorem readBoolRead_setBoolRead (v : Bool) :
    (t.setBoolRead addr v).readBoolRead a =
      if IsDiscrete addr ∧ a = addr then v else t.readBoolRead a := by
  rw [setBoolRead_eq]
  by_cases h : IsDiscrete addr
  · rw [if_pos h]
    by_cases ha : a = addr
    · rw [if_pos ⟨h, ha⟩, readBoolRead, ha, Lib.Dict.get_insert_self, Option.getD_some]
    · rw [if_neg (fun hc => ha hc.2), readBoolRead, Lib.Dict.get_insert_of_ne _ ha]
      rfl
  · rw [if_neg h, if_neg (fun hc => h hc.1)]

theorem readIntRead_setIntRead (v : Word) :
    (t.setIntRead addr v).readIntRead a =
      if IsInput addr ∧ a = addr then v else t.readIntRead a := by
  rw [setIntRead_eq]
  by_cases h : IsInput addr
  · rw [if_pos h]
    by_cases ha : a = addr
    · rw [if_pos ⟨h, ha⟩, readIntRead, ha, Lib.Dict.get_insert_self, Option.getD_some]
    · rw [if_neg (fun hc => ha hc.2), readIntRead, Lib.Dict.get_insert_of_ne _ ha]
      rfl
  · rw [if_neg h, if_neg (fun hc => h hc.1)]

@[simp] theorem boolRd_setIntRead (v : Word) : (t.setIntRead addr v).boolRd = t.boolRd := by
  rw [setIntRead_eq]
  split <;> rfl

@[simp] theorem intRd_setBoolRead (v : Bool) : (t.setBoolRead addr v).intRd = t.intRd := by
  rw [setBoolRead_eq]
  split <;> rfl

end HmiAddressTable

/-- The two tables that are only read. -/
def HmiAddressTable.readTables (t : HmiAddressTable) : Lib.Dict Word Bool × Lib.Dict Word Word :=
  (t.boolRd, t.intRd)

theorem HmiWrite.readTables_put (t : HmiAddressTable) (w : HmiWrite) :
    (put t w).readTables = t.readTables := by
  cases w with
  | coil a v =>
    show (t.writeBoolRw a v).readTables = _
    rw [HmiAddressTable.writeBoolRw_eq]
    split <;> rfl
  | holding a v =>
    show (t.writeIntRw a v).readTables = _
    rw [HmiAddressTable.writeIntRw_eq]
    split <;> rfl

namespace HMIProto

variable (p : HMIProto)

theorem readTables_writeAll (ws : List HmiWrite) :
    (p.writeAll ws).table.readTables = p.table.readTables := by
  induction ws generalizing p with
  | nil => rfl
  | cons w ws ih =>
    exact (ih ⟨p.addr, HmiWrite.put p.table w, p.onWrite⟩).trans (HmiWrite.readTables_put p.table w)

/-- No request changes them, well-formed or not. -/
theorem readTables_handleRequest (req : List Byte) :
    (p.handleRequest req).proto.table.readTables = p.table.readTables := by
  by_cases h : p.Accepted req
  · by_cases hm : IsMultiWrite (requestFunc req)
    · rw [handleRequest_multi h hm]
      split
      · exact p.readTables_writeAll (writesDone req)
      · rfl
    · have hm' := not_or.mp hm
      rw [handleRequest_of_accepted h, if_neg hm'.1, if_neg hm'.2]
      split_ifs
      · rfl
      · rfl
      · rfl
      · rfl
      · rw [(p.handleWriteSingleCoil_writes req _ _).1]
        exact p.readTables_writeAll _
      · rw [(p.handleWriteSingleReg_writes req _ _).1]
        exact p.readTables_writeAll _
      · rfl
  · rw [(handleRequest_of_not h).2.1]

/-! ### What a read gives -/

/-- Every accepted read of the discrete input gives this bit. -/
def ReadsBit (a : Word) (b : Bool) : Prop :=
  ∀ req i, p.Accepted req → requestFunc req = 0x02 → i < (requestQty req).toNat →
    requestStart req + BitVec.ofNat 16 i = a → replyBit (p.handleRequest req).resp i = b

/-- Every accepted read of the input register gives this word. -/
def ReadsWord (a w : Word) : Prop :=
  ∀ req i, p.Accepted req → requestFunc req = 0x04 → i < (requestQty req).toNat →
    requestStart req + BitVec.ofNat 16 i = a → replyReg (p.handleRequest req).resp i = w

variable {p}

theorem qty_ne_zero {req : List Byte} {i : Nat} (hi : i < (requestQty req).toNat) :
    requestQty req ≠ 0 := by
  intro h
  rw [h] at hi
  exact Nat.not_lt_zero i hi

theorem readsBit_table {a : Word} (ha : HmiAddressTable.IsDiscrete a) :
    p.ReadsBit a (p.table.readBoolRead a) := by
  intro req i hacc hf hi hstart
  have hbit : IsBitRead (requestFunc req) := Or.inr hf
  have hmap : HmiAddressTable.mapDiscreteAddr a = some a := if_pos ha
  rw [handleRequest_of_accepted hacc, if_pos hbit, if_neg (qty_ne_zero hi), hf]
  show replyBit (p.handleReadBits 0x02 _ _) i = _
  rw [replyBit_handleReadBits p 0x02 _ _ hi, hstart, bitAt, if_neg (by decide), hmap]

theorem readsWord_table {a : Word} (ha : HmiAddressTable.IsInput a) :
    p.ReadsWord a (p.table.readIntRead a) := by
  intro req i hacc hf hi hstart
  have hreg : IsRegRead (requestFunc req) := Or.inr hf
  have hmap : HmiAddressTable.mapInputRegAddr a = some a := if_pos ha
  rw [handleRequest_of_accepted hacc, if_neg (by rw [hf]; decide), if_pos hreg,
    if_neg (qty_ne_zero hi), hf]
  show replyReg (p.handleReadRegs 0x04 _ _) i = _
  rw [replyReg_handleReadRegs p 0x04 _ _ hi, hstart, regAt, if_neg (by decide), hmap]

end HMIProto
end EnergyStorage
