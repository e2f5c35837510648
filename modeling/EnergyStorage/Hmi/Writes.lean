import Mathlib.Data.List.Range
import Mathlib.Logic.Function.Basic
import EnergyStorage.Hmi.Response
import EnergyStorage.Lib.Machine

/-! # What the HMI writes -/

namespace EnergyStorage

open Lib

/-- A value for an address that the HMI can write. -/
inductive HmiWrite
  | coil (addr : Word) (v : Bool)
  | holding (addr : Word) (v : Word)
  deriving DecidableEq

namespace HmiWrite

open HmiAddressTable

def addr : HmiWrite → Word
  | coil a _ => a
  | holding a _ => a

def InRange : HmiWrite → Prop
  | coil a _ => IsCoil a
  | holding a _ => IsHolding a

instance : DecidablePred InRange
  | coil a _ => inferInstanceAs (Decidable (IsCoil a))
  | holding a _ => inferInstanceAs (Decidable (IsHolding a))

/-- What the listener is told. -/
def event (isMulti : Bool) : HmiWrite → HmiWriteEvent
  | coil a v => ⟨a, true, if v then 1 else 0, isMulti⟩
  | holding a v => ⟨a, false, v, isMulti⟩

def put (t : HmiAddressTable) : HmiWrite → HmiAddressTable
  | coil a v => t.writeBoolRw a v
  | holding a v => t.writeIntRw a v

/-- The table has the value. -/
def In (t : HmiAddressTable) : HmiWrite → Prop
  | coil a v => t.readBoolRw a = v
  | holding a v => t.readIntRw a = v

end HmiWrite

/-! ### The writes that a request asks for -/

def requestByteCount (req : List Byte) : Nat := (req.getD 6 0).toNat

def IsMultiWrite (func : Byte) : Prop := func = 0x0F ∨ func = 0x10

instance (func : Byte) : Decidable (IsMultiWrite func) := inferInstanceAs (Decidable (_ ∨ _))

/-- Value `i` of a request for several, with its address. -/
def dataWrite (req : List Byte) (i : Nat) : HmiWrite :=
  if requestFunc req = 0x0F then
    .coil (requestStart req + BitVec.ofNat 16 i) ((req.getD (7 + i / 8) 0).getLsbD (i % 8))
  else
    .holding (requestStart req + BitVec.ofNat 16 i)
      (be16 (req.getD (7 + i * 2) 0) (req.getD (7 + i * 2 + 1) 0))

/-- How many values the data of a request for several is enough for. -/
def valuesCarried (req : List Byte) : Nat :=
  if requestFunc req = 0x0F then 8 * requestByteCount req else requestByteCount req / 2

/-- A request for several is long enough to be answered. -/
def LongEnough (req : List Byte) : Prop :=
  9 ≤ req.length ∧ 7 + requestByteCount req + 2 ≤ req.length

instance (req : List Byte) : Decidable (LongEnough req) := inferInstanceAs (Decidable (_ ∧ _))

namespace HMIProto

def writeAll (p : HMIProto) (ws : List HmiWrite) : HMIProto :=
  { p with table := ws.foldl HmiWrite.put p.table }

def reports (p : HMIProto) (isMulti : Bool) (ws : List HmiWrite) : List HmiWriteEvent :=
  if p.onWrite then ws.map (HmiWrite.event isMulti) else []

@[simp] theorem reports_nil (p : HMIProto) (isMulti : Bool) : p.reports isMulti [] = [] := by
  rw [reports]
  split <;> rfl

theorem writeAll_append (p : HMIProto) (ws ws' : List HmiWrite) :
    p.writeAll (ws ++ ws') = (p.writeAll ws).writeAll ws' := by
  simp only [writeAll, List.foldl_append]

theorem reports_append (p : HMIProto) (isMulti : Bool) (ws ws' : List HmiWrite) :
    p.reports isMulti (ws ++ ws') = p.reports isMulti ws ++ p.reports isMulti ws' := by
  rw [reports, reports, reports]
  split
  · exact List.map_append
  · rfl

/-- A loop of which each pass makes the write that is in range makes all such writes. -/
theorem foldl_pass {pass : HMIProto × List HmiWriteEvent → Nat → HMIProto × List HmiWriteEvent}
    {w : Nat → HmiWrite}
    (hpass : ∀ s i, pass s i =
      if (w i).InRange then (s.1.writeAll [w i], s.2 ++ s.1.reports true [w i]) else s)
    (p : HMIProto) (evs : List HmiWriteEvent) (is : List Nat) :
    is.foldl pass (p, evs) =
      (p.writeAll ((is.map w).filter fun x => x.InRange),
        evs ++ p.reports true ((is.map w).filter fun x => x.InRange)) := by
  induction is generalizing p evs with
  | nil => rw [List.foldl_nil, List.map_nil, List.filter_nil, reports_nil, List.append_nil]; rfl
  | cons i is ih =>
    rw [List.foldl_cons, hpass, List.map_cons, List.filter_cons]
    by_cases h : (w i).InRange
    · rw [if_pos h, ih, if_pos (decide_eq_true h), List.append_assoc]
      show _ = (p.writeAll ([w i] ++ _), evs ++ p.reports true ([w i] ++ _))
      rw [writeAll_append, reports_append]
      rfl
    · rw [if_neg h, ih, if_neg (by rw [decide_eq_false h]; exact Bool.noConfusion)]

variable {req : List Byte}

theorem coilPass_eq (hf : requestFunc req = 0x0F) (s : HMIProto × List HmiWriteEvent) (i : Nat) :
    coilPass req (requestStart req) s i =
      if (dataWrite req i).InRange then
        (s.1.writeAll [dataWrite req i], s.2 ++ s.1.reports true [dataWrite req i])
      else s := by
  have hw : dataWrite req i = .coil (requestStart req + BitVec.ofNat 16 i)
      ((req.getD (7 + i / 8) 0).getLsbD (i % 8)) := by
    rw [dataWrite, if_pos hf]
  rw [hw, coilPass]
  simp only [HmiAddressTable.mapCoilAddr_eq]
  by_cases h : HmiAddressTable.IsCoil (requestStart req + BitVec.ofNat 16 i)
  · rw [if_pos h, if_pos (show HmiWrite.InRange (.coil _ _) from h)]
    rfl
  · rw [if_neg h, if_neg (show ¬ HmiWrite.InRange (.coil _ _) from h)]

theorem regPass_eq (hf : requestFunc req = 0x10) (s : HMIProto × List HmiWriteEvent) (i : Nat) :
    regPass req (requestStart req) s i =
      if (dataWrite req i).InRange then
        (s.1.writeAll [dataWrite req i], s.2 ++ s.1.reports true [dataWrite req i])
      else s := by
  have hw : dataWrite req i = .holding (requestStart req + BitVec.ofNat 16 i)
      (be16 (req.getD (7 + i * 2) 0) (req.getD (7 + i * 2 + 1) 0)) := by
    rw [dataWrite, if_neg (by rw [hf]; decide)]
  rw [hw, regPass]
  simp only [HmiAddressTable.mapHoldingAddr_eq]
  by_cases h : HmiAddressTable.IsHolding (requestStart req + BitVec.ofNat 16 i)
  · rw [if_pos h, if_pos (show HmiWrite.InRange (.holding _ _) from h)]
    rfl
  · rw [if_neg h, if_neg (show ¬ HmiWrite.InRange (.holding _ _) from h)]

/-- The loop over the coils stops where the data ends. -/
theorem takeWhile_range (q bc : Nat) :
    ((List.range q).takeWhile fun i => i / 8 < bc) = List.range (min q (8 * bc)) := by
  induction q with
  | zero => rw [Nat.zero_min]; rfl
  | succ q ih =>
    rw [List.range_succ, List.takeWhile_append, ih, List.length_range]
    by_cases h : q / 8 < bc
    · rw [if_pos (by rw [List.length_range]; omega), List.takeWhile_cons,
        if_pos (decide_eq_true h), List.takeWhile_nil, ← List.range_succ]
      exact congrArg List.range (by omega)
    · by_cases hq : min q (8 * bc) = q
      · rw [if_pos (by rw [List.length_range]; exact hq), List.takeWhile_cons,
          if_neg (by rw [decide_eq_false h]; exact Bool.noConfusion), List.append_nil]
        exact congrArg List.range (by omega)
      · rw [if_neg (by rw [List.length_range]; exact hq)]
        exact congrArg List.range (by omega)

end HMIProto

/-- The writes that a request for several leads to. -/
def writesDone (req : List Byte) : List HmiWrite :=
  ((List.range (min (requestQty req).toNat (valuesCarried req))).map (dataWrite req)).filter
    fun w => w.InRange

/-- The whole of a request for several, by its quantity. -/
def writesAsked (req : List Byte) : List HmiWrite :=
  (List.range (requestQty req).toNat).map (dataWrite req)

namespace HMIProto

variable {p : HMIProto} {req : List Byte}

theorem handleWriteMultiCoils_eq (p : HMIProto) (hf : requestFunc req = 0x0F) :
    p.handleWriteMultiCoils req (requestStart req) (requestQty req) =
      if LongEnough req then
        ⟨true, p.ack (requestFunc req) (requestStart req) (requestQty req),
          p.writeAll (writesDone req), p.reports true (writesDone req)⟩
      else ⟨true, [], p, []⟩ := by
  rw [handleWriteMultiCoils]
  by_cases h9 : req.length < 9
  · rw [if_pos h9, if_neg (fun h : LongEnough req => by have hlen := h.1; omega)]
  · rw [if_neg h9]
    simp only
    by_cases hneed : req.length < 7 + (req.getD 6 0).toNat + 2
    · rw [if_pos hneed, if_neg (fun h : LongEnough req => absurd h.2 (Nat.not_le_of_lt hneed))]
    · have hlong : LongEnough req := ⟨Nat.le_of_not_lt h9, Nat.le_of_not_lt hneed⟩
      rw [if_neg hneed, if_pos hlong, takeWhile_range, foldl_pass (coilPass_eq hf), writesDone,
        valuesCarried, if_pos hf, hf]
      rfl

theorem handleWriteMultiRegs_eq (p : HMIProto) (hf : requestFunc req = 0x10) :
    p.handleWriteMultiRegs req (requestStart req) (requestQty req) =
      if LongEnough req then
        ⟨true, p.ack (requestFunc req) (requestStart req) (requestQty req),
          p.writeAll (writesDone req), p.reports true (writesDone req)⟩
      else ⟨true, [], p, []⟩ := by
  rw [handleWriteMultiRegs]
  by_cases h9 : req.length < 9
  · rw [if_pos h9, if_neg (fun h : LongEnough req => by have hlen := h.1; omega)]
  · rw [if_neg h9]
    simp only
    by_cases hneed : req.length < 7 + (req.getD 6 0).toNat + 2
    · rw [if_pos hneed, if_neg (fun h : LongEnough req => absurd h.2 (Nat.not_le_of_lt hneed))]
    · have hcarried : valuesCarried req = (req.getD 6 0).toNat / 2 := by
        rw [valuesCarried, if_neg (by rw [hf]; decide)]
        rfl
      have hmin : (if (requestQty req).toNat < (req.getD 6 0).toNat / 2 then
          (requestQty req).toNat else (req.getD 6 0).toNat / 2) =
          min (requestQty req).toNat ((req.getD 6 0).toNat / 2) := by
        split <;> omega
      have hlong : LongEnough req := ⟨Nat.le_of_not_lt h9, Nat.le_of_not_lt hneed⟩
      rw [if_neg hneed, hmin, if_pos hlong, foldl_pass (regPass_eq hf), writesDone, hcarried, hf]
      rfl

/-- A request for several makes the writes in range for which it has data, and answers as
if it had made all. -/
theorem handleRequest_multi (h : p.Accepted req) (hm : IsMultiWrite (requestFunc req)) :
    p.handleRequest req =
      if LongEnough req then
        ⟨true, p.ack (requestFunc req) (requestStart req) (requestQty req),
          p.writeAll (writesDone req), p.reports true (writesDone req)⟩
      else ⟨true, [], p, []⟩ := by
  rw [handleRequest_of_accepted h]
  obtain hf | hf := hm
  · rw [if_neg (by rw [hf]; decide), if_neg (by rw [hf]; decide), if_neg (by rw [hf]; decide),
      if_neg (by rw [hf]; decide), if_pos hf]
    exact handleWriteMultiCoils_eq p hf
  · rw [if_neg (by rw [hf]; decide), if_neg (by rw [hf]; decide), if_neg (by rw [hf]; decide),
      if_neg (by rw [hf]; decide), if_neg (by rw [hf]; decide), if_pos hf]
    exact handleWriteMultiRegs_eq p hf

end HMIProto

/-! ### What a series of writes leaves -/

theorem addr_dataWrite (req : List Byte) (i : Nat) :
    (dataWrite req i).addr = requestStart req + BitVec.ofNat 16 i := by
  rw [dataWrite]
  split <;> rfl

theorem toNat_addr_dataWrite (req : List Byte) (i : Nat) :
    (dataWrite req i).addr.toNat = ((requestStart req).toNat + i) % 2 ^ 16 := by
  rw [addr_dataWrite, BitVec.toNat_add, BitVec.toNat_ofNat, Nat.add_mod_mod]

theorem valuesCarried_le (req : List Byte) : valuesCarried req ≤ 2040 := by
  have hcount : requestByteCount req < 256 := (req.getD 6 0).isLt
  rw [valuesCarried]
  split <;> omega

namespace HmiWrite

theorem addr_of_inRange {w : HmiWrite} (h : w.InRange) :
    0x1000 ≤ w.addr.toNat ∧ w.addr.toNat ≤ 0x2FFF := by
  cases w with
  | coil a v =>
    have hrange := (HmiAddressTable.isCoil_iff a).mp h
    show 0x1000 ≤ a.toNat ∧ a.toNat ≤ 0x2FFF
    omega
  | holding a v =>
    have hrange := (HmiAddressTable.isHolding_iff a).mp h
    show 0x1000 ≤ a.toNat ∧ a.toNat ≤ 0x2FFF
    omega

theorem in_put_self {w : HmiWrite} (h : w.InRange) (t : HmiAddressTable) : w.In (put t w) := by
  cases w with
  | coil a v =>
    show (t.writeBoolRw a v).readBoolRw a = v
    rw [HmiAddressTable.readBoolRw_writeBoolRw, if_pos ⟨h, rfl⟩]
  | holding a v =>
    show (t.writeIntRw a v).readIntRw a = v
    rw [HmiAddressTable.readIntRw_writeIntRw, if_pos ⟨h, rfl⟩]

theorem in_put_of_ne {w w' : HmiWrite} {t : HmiAddressTable} (h : w.In t)
    (hne : w.addr ≠ w'.addr) : w.In (put t w') := by
  cases w with
  | coil a v =>
    cases w' with
    | coil b u =>
      show (t.writeBoolRw b u).readBoolRw a = v
      rw [HmiAddressTable.readBoolRw_writeBoolRw, if_neg (fun hc => hne hc.2)]
      exact h
    | holding b u => exact (HmiAddressTable.readBoolRw_writeIntRw t b a u).trans h
  | holding a v =>
    cases w' with
    | coil b u => exact (HmiAddressTable.readIntRw_writeBoolRw t b a u).trans h
    | holding b u =>
      show (t.writeIntRw b u).readIntRw a = v
      rw [HmiAddressTable.readIntRw_writeIntRw, if_neg (fun hc => hne hc.2)]
      exact h

theorem in_foldl_put {w : HmiWrite} {t : HmiAddressTable} {ws : List HmiWrite} (h : w.In t)
    (hne : ∀ w' ∈ ws, w.addr ≠ w'.addr) : w.In (ws.foldl put t) := by
  induction ws generalizing t with
  | nil => exact h
  | cons w' ws ih =>
    rw [List.foldl_cons]
    apply ih
    · exact in_put_of_ne h (hne w' List.mem_cons_self)
    · exact fun x hx => hne x (List.mem_cons_of_mem w' hx)

/-- Writes to different addresses are all in the table afterwards. -/
theorem in_of_mem {ws : List HmiWrite} (hrange : ∀ w ∈ ws, w.InRange)
    (hne : ws.Pairwise fun w w' => w.addr ≠ w'.addr) (t : HmiAddressTable) :
    ∀ w ∈ ws, w.In (ws.foldl put t) := by
  induction ws generalizing t with
  | nil => exact fun w hw => absurd hw List.not_mem_nil
  | cons w' ws ih =>
    obtain ⟨hhead, htail⟩ := List.pairwise_cons.mp hne
    intro w hw
    rw [List.foldl_cons]
    obtain rfl | hw := List.mem_cons.mp hw
    · exact in_foldl_put (in_put_self (hrange w List.mem_cons_self) t) hhead
    · exact ih (fun x hx => hrange x (List.mem_cons_of_mem w' hx)) htail _ w hw

end HmiWrite

/-- The addresses of a request for several are different. -/
theorem pairwise_dataWrite (req : List Byte) {n : Nat} (h : n ≤ 2040) :
    ((List.range n).map (dataWrite req)).Pairwise fun w w' => w.addr ≠ w'.addr := by
  rw [List.pairwise_map]
  apply List.Pairwise.imp_of_mem _ (List.pairwise_lt_range (n := n))
  intro i j hi hj hlt heq
  have hj' := List.mem_range.mp hj
  have hnat := congrArg BitVec.toNat heq
  rw [toNat_addr_dataWrite, toNat_addr_dataWrite] at hnat
  omega

namespace HMIProto

variable {p : HMIProto} {req : List Byte}

/-- All values of the request are carried, in range and in the table. -/
def AllWritten (req : List Byte) (t : HmiAddressTable) : Prop :=
  (requestQty req).toNat ≤ valuesCarried req ∧
    ∀ i, i < (requestQty req).toNat → (dataWrite req i).InRange ∧ (dataWrite req i).In t

theorem ack_ne_nil (p : HMIProto) (func : Byte) (start qty : Word) :
    p.ack func start qty ≠ [] := appendCrc_ne_nil _

/-- An acknowledgement stands for the whole request, and its absence for nothing done,
exactly when the request is too short to be answered or carries all its values, with every
address in range. -/
theorem ack_all_or_nothing_iff (h : p.Accepted req) (hm : IsMultiWrite (requestFunc req)) :
    ((p.handleRequest req).resp = p.ack (requestFunc req) (requestStart req) (requestQty req) →
          AllWritten req (p.handleRequest req).proto.table) ∧
        ((p.handleRequest req).resp ≠
            p.ack (requestFunc req) (requestStart req) (requestQty req) →
          (p.handleRequest req).proto = p ∧ (p.handleRequest req).events = []) ↔
      ¬ LongEnough req ∨
        (requestQty req).toNat ≤ valuesCarried req ∧
          ∀ i, i < (requestQty req).toNat → (dataWrite req i).InRange := by
  rw [handleRequest_multi h hm]
  by_cases hlong : LongEnough req
  · rw [if_pos hlong, or_iff_right (not_not.mpr hlong)]
    constructor
    · intro hall
      obtain ⟨hcarried, hwritten⟩ := hall.1 rfl
      exact ⟨hcarried, fun i hi => (hwritten i hi).1⟩
    · intro hcond
      obtain ⟨hcarried, hrange⟩ := hcond
      refine ⟨?_, fun hne => absurd rfl hne⟩
      intro _
      -- nothing is left out, so the writes done are all of them
      have hrange' : ∀ w ∈ writesAsked req, w.InRange := by
        intro w hw
        obtain ⟨i, hi, rfl⟩ := List.mem_map.mp hw
        exact hrange i (List.mem_range.mp hi)
      have hdone : writesDone req = writesAsked req := by
        rw [writesDone, Nat.min_eq_left hcarried]
        exact List.filter_eq_self.mpr fun w hw => decide_eq_true (hrange' w hw)
      have hne := pairwise_dataWrite req (Nat.le_trans hcarried (valuesCarried_le req))
      refine ⟨hcarried, ?_⟩
      intro i hi
      refine ⟨hrange i hi, ?_⟩
      rw [hdone]
      exact HmiWrite.in_of_mem hrange' hne p.table _
        (List.mem_map_of_mem (List.mem_range.mpr hi))
  · rw [if_neg hlong]
    refine iff_of_true ⟨?_, fun _ => ⟨rfl, rfl⟩⟩ (Or.inl hlong)
    intro hack
    exact absurd hack.symm (ack_ne_nil _ _ _ _)

/-- Three registers in range: they are acknowledged, and the table has their values. -/
theorem ack_all_or_nothing_three :
    let p := start 0x03 true
    let req : List Byte := [0x03, 0x10, 0x20, 0x00, 0x00, 0x03, 0x06, 0x00, 0x07, 0x00, 0x08,
      0x00, 0x09, 0xBE, 0x06]
    requestQty req = 3 ∧ AllWritten req (p.handleRequest req).proto.table ∧
      ((p.handleRequest req).resp ≠
          p.ack (requestFunc req) (requestStart req) (requestQty req) →
        (p.handleRequest req).proto = p ∧ (p.handleRequest req).events = []) := by
  intro p req
  have hacc : p.Accepted req := by decide +kernel
  have hmulti : IsMultiWrite (requestFunc req) := by decide
  have hall : (requestQty req).toNat ≤ valuesCarried req ∧
      ∀ i, i < (requestQty req).toNat → (dataWrite req i).InRange := by decide
  have hack : (p.handleRequest req).resp =
      p.ack (requestFunc req) (requestStart req) (requestQty req) := by decide +kernel
  obtain ⟨hwritten, hnothing⟩ := (ack_all_or_nothing_iff hacc hmulti).mpr (Or.inr hall)
  exact ⟨by decide, hwritten hack, hnothing⟩

/-- Two registers of which the second is out of range: both are acknowledged, one is
written. -/
theorem ack_of_half :
    let p := start 0x03 true
    let req : List Byte :=
      [0x03, 0x10, 0x2F, 0xFF, 0x00, 0x02, 0x04, 0x00, 0x01, 0x00, 0x02, 0xBF, 0x23]
    p.Accepted req ∧ requestQty req = 2 ∧
      (p.handleRequest req).resp = p.ack (requestFunc req) (requestStart req) (requestQty req) ∧
      ¬ AllWritten req (p.handleRequest req).proto.table ∧
      (p.handleRequest req).events = [⟨0x2FFF, false, 1, true⟩] := by
  intro p req
  refine ⟨by decide +kernel, by decide, by decide +kernel, ?_, by decide +kernel⟩
  intro hall
  have hrange := (hall.2 1 (by decide)).1
  exact absurd hrange (by decide)

end HMIProto
end EnergyStorage
