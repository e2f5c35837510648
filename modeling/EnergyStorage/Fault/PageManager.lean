import EnergyStorage.Fault.CurrentPages
import EnergyStorage.Fault.HistoryCache
import EnergyStorage.Fault.PageLayout
import EnergyStorage.Hmi.AddressTable

/-! # Writing the fault pages

The manager writes the rows of the two pages to the registers that it computes from the layout,
one call for each register. -/

namespace EnergyStorage
namespace Fault

open Lib
open EnergyStorage.Normal (HmiMapItem HmiMapModel)

/-! ### What the pages show -/

/-- A value is written with 32 bits or the low 16 of them. -/
structure PageView where
  totalPages : Word := 0
  pageIndex : Word := 0
  rows : List (RowField → BitVec 32) := []

def FaultCenterCurrentRow.value (r : FaultCenterCurrentRow) : RowField → BitVec 32
  | .seq => r.seqNo.setWidth 32
  | .code => r.code.setWidth 32
  | .onTime => r.onTime
  | .offTime | .state => 0

def HistoryFaultViewRow.value (r : HistoryFaultViewRow) : RowField → BitVec 32
  | .seq => r.seqNo.setWidth 32
  | .code => r.code.setWidth 32
  | .onTime => BitVec.ofNat 32 (r.firstOnMs / 1000)
  | .offTime => BitVec.ofNat 32 (r.clearMs / 1000)
  | .state => r.state.setWidth 32

/-- Without a center the page is cleared. -/
def currentView : Option FaultCenterPages → PageView
  | none => {}
  | some p =>
    { totalPages := BitVec.ofNat 16 p.currentTotalPages
      pageIndex := if p.currentTotalPages = 0 then 0 else BitVec.ofNat 16 (p.currentPage + 1)
      rows := p.buildCurrentRows.map FaultCenterCurrentRow.value }

def historyView (historyPageNo : Nat) : Option FaultHistoryCache → PageView
  | none => {}
  | some cache =>
    { totalPages := BitVec.ofNat 16 cache.totalPages
      pageIndex := if cache.totalPages = 0 then 0 else BitVec.ofNat 16 historyPageNo
      rows := (cache.pageRows historyPageNo).map HistoryFaultViewRow.value }

/-! ### The calls -/

/-- Of more than two registers the others are cleared. -/
def writeU32 (base : Word) (words : Nat) (value : BitVec 32) : List (Word × Word) :=
  if words ≤ 1 then [(base, value.extractLsb' 0 16)]
  else
    (base, value.extractLsb' 16 16) :: (base + 1, value.extractLsb' 0 16) ::
      (List.range' 2 (words - 2)).map fun i => (base + BitVec.ofNat 16 i, 0)

def writeU32ToBlockRow (blk : FaultHmiBlock) (row : Nat) (value : BitVec 32) :
    List (Word × Word) :=
  if !blk.valid || decide (blk.count ≤ row) then []
  else writeU32 (BitVec.ofNat 16 (blk.base + row * blk.words)) blk.words value

/-- What a value is written for; rows count from 0. -/
inductive Place
  | single (f : PageField)
  | row (f : RowField) (i : Nat)
  deriving DecidableEq, Repr

/-- A value and the calls of `setIntRead` for it. -/
structure Cell where
  page : FaultPage
  place : Place
  value : BitVec 32
  calls : List (Word × Word)

variable (layout : FaultHmiLayout)

def singleCell (pg : FaultPage) (f : PageField) (value : Word) : Cell :=
  ⟨pg, .single f, value.setWidth 32, [(BitVec.ofNat 16 (layout.single pg f).base, value)]⟩

def rowCell (pg : FaultPage) (i : Nat) (f : RowField) (value : BitVec 32) : Cell :=
  let blk := layout.column (pg, f)
  { page := pg, place := .row f i, value
    calls :=
      if f.isTime then writeU32ToBlockRow blk i value
      else [(BitVec.ofNat 16 (blk.base + i), value.extractLsb' 0 16)] }

/-- A row that the page does not have is cleared. -/
def flushPage (pg : FaultPage) (view : PageView) : List Cell :=
  if !layout.pageValid pg then []
  else
    [singleCell layout pg .totalPages view.totalPages,
      singleCell layout pg .pageIndex view.pageIndex] ++
      (List.range (layout.rows pg)).flatMap fun i =>
        pg.fields.map fun f =>
          rowCell layout pg i f ((view.rows[i]?.map fun r => r f).getD 0)

def flushCurrentToHmi (center : Option FaultCenterPages) : List Cell :=
  flushPage layout .current (currentView center)

def flushHistoryToHmi (cache : Option FaultHistoryCache) (historyPageNo : Nat) : List Cell :=
  flushPage layout .history (historyView historyPageNo cache)

/-- `layout` is there once it was built. -/
def flushToHmi (layout : Option FaultHmiLayout) (center : Option FaultCenterPages)
    (cache : Option FaultHistoryCache) (historyPageNo : Nat) : List Cell :=
  match layout with
  | none => []
  | some layout => flushCurrentToHmi layout center ++ flushHistoryToHmi layout cache historyPageNo

/-- The registers that the slave keeps; other calls it drops. -/
def IsInputReg (a : Word) : Prop :=
  HmiAddressTable.inRange a hmiIntRdStart hmiIntRdEnd = true

/-! ### The registers of a value -/

theorem isInputReg_iff (a : Word) : IsInputReg a ↔ 0x4000 ≤ a.toNat ∧ a.toNat < 0x5000 := by
  unfold IsInputReg HmiAddressTable.inRange hmiIntRdStart hmiIntRdEnd
  rw [Bool.and_eq_true, decide_eq_true_eq, decide_eq_true_eq, BitVec.le_def, BitVec.le_def]
  show 0x4000 ≤ _ ∧ _ ≤ 0x4FFF ↔ _
  omega

theorem map_fst_writeU32 (base : Word) {words : Nat} (hwords : 0 < words) (value : BitVec 32) :
    (writeU32 base words value).map Prod.fst =
      (List.range words).map fun k => base + BitVec.ofNat 16 k := by
  unfold writeU32
  by_cases hone : words ≤ 1
  · obtain rfl : words = 1 := by omega
    rw [if_pos hone]
    simp
  · obtain ⟨n, rfl⟩ : ∃ n, words = n + 2 := ⟨words - 2, by omega⟩
    rw [if_neg hone, Nat.add_sub_cancel, List.range_eq_range', List.range'_succ, List.range'_succ,
      List.map_cons, List.map_cons, List.map_map, List.map_cons, List.map_cons, BitVec.add_zero]
    rfl

/-- A value stands in the table where its registers are. -/
theorem mem_fst_writeU32 {addr words : Nat} (hwords : 0 < words) (hend : addr + words ≤ 2 ^ 16)
    (value : BitVec 32) (r : Nat) :
    (∃ c ∈ writeU32 (BitVec.ofNat 16 addr) words value, c.1.toNat = r) ↔
      addr ≤ r ∧ r < addr + words := by
  have hmem : (∃ c ∈ writeU32 (BitVec.ofNat 16 addr) words value, c.1.toNat = r) ↔
      ∃ a ∈ (writeU32 (BitVec.ofNat 16 addr) words value).map Prod.fst, a.toNat = r := by
    constructor
    · intro ⟨c, hc, hr⟩
      exact ⟨c.1, List.mem_map_of_mem hc, hr⟩
    · intro ⟨a, ha, hr⟩
      obtain ⟨c, hc, rfl⟩ := List.mem_map.mp ha
      exact ⟨c, hc, hr⟩
  have hvalue : ∀ k < words,
      (BitVec.ofNat 16 addr + BitVec.ofNat 16 k : Word).toNat = addr + k := by
    intro k hk
    rw [BitVec.toNat_add, BitVec.toNat_ofNat, BitVec.toNat_ofNat]
    omega
  rw [hmem, map_fst_writeU32 _ hwords]
  constructor
  · intro ⟨a, ha, hr⟩
    obtain ⟨k, hk, rfl⟩ := List.mem_map.mp ha
    rw [hvalue k (List.mem_range.mp hk)] at hr
    have hlt := List.mem_range.mp hk
    omega
  · intro ⟨hle, hlt⟩
    refine ⟨_, List.mem_map.mpr ⟨r - addr, List.mem_range.mpr (by omega), rfl⟩, ?_⟩
    rw [hvalue (r - addr) (by omega)]
    omega

/-- The slave keeps all of a value exactly if its registers are among those it has. -/
theorem isInputReg_writeU32_iff {addr words : Nat} (haddr : addr < 2 ^ 16) (hwords : 0 < words)
    (value : BitVec 32) :
    (∀ c ∈ writeU32 (BitVec.ofNat 16 addr) words value, IsInputReg c.1) ↔
      0x4000 ≤ addr ∧ addr + words ≤ 0x5000 := by
  have hall : (∀ c ∈ writeU32 (BitVec.ofNat 16 addr) words value, IsInputReg c.1) ↔
      ∀ k < words, IsInputReg (BitVec.ofNat 16 addr + BitVec.ofNat 16 k) := by
    rw [← List.forall_mem_map (f := Prod.fst), map_fst_writeU32 _ hwords, List.forall_mem_map]
    simp only [List.mem_range]
  rw [hall]
  simp only [isInputReg_iff, BitVec.toNat_add, BitVec.toNat_ofNat]
  constructor
  · intro h
    have hfirst := h 0 hwords
    -- the first register behind the last one that is kept
    by_contra hout
    have hlast := h (0x5000 - addr) (by omega)
    omega
  · intro h k hk
    omega

/-- A value that goes to one place as to another goes there with the same width. -/
theorem writeU32_inj {a b : Word} {s t : Nat} (hs : 0 < s) (ht : 0 < t) {v w : BitVec 32}
    (h : writeU32 a s v = writeU32 b t w) : s = t ∧ a = b := by
  have hregs := congrArg (List.map Prod.fst) h
  rw [map_fst_writeU32 a hs, map_fst_writeU32 b ht] at hregs
  have hlength := congrArg List.length hregs
  rw [List.length_map, List.length_map, List.length_range, List.length_range] at hlength
  have hhead := congrArg List.head? hregs
  obtain ⟨s, rfl⟩ : ∃ k, s = k + 1 := ⟨s - 1, by omega⟩
  obtain ⟨t, rfl⟩ : ∃ k, t = k + 1 := ⟨t - 1, by omega⟩
  rw [List.range_succ_eq_map, List.range_succ_eq_map, List.map_cons, List.map_cons,
    List.head?_cons, List.head?_cons, BitVec.add_zero, BitVec.add_zero] at hhead
  exact ⟨hlength, Option.some.inj hhead⟩

end Fault
end EnergyStorage
