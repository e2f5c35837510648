import EnergyStorage.Fault.Catalog
import EnergyStorage.Lib.Paging

/-! # The pages of the current faults

The center shows the active codes of the catalogue newest first, five rows a page. -/

namespace EnergyStorage
namespace Fault

open Lib Lib.Paging

def kFaultPageRows : Nat := 5

structure FaultCenterCurrentRow where
  seqNo : BitVec 16
  code : BitVec 16
  onTime : BitVec 32
  deriving DecidableEq, Repr

/-- The center with the catalogue it is bound to and the page that is shown, counted from 0. -/
structure FaultCenterPages where
  center : FaultCenter := {}
  cat : Option LoadedCatalog := none
  currentPage : Nat := 0

def encodeTime (tsMs : Nat) : BitVec 32 := if tsMs = 0 then 0 else BitVec.ofNat 32 (tsMs / 1000)

def FaultCenter.currentBeginTimeOf (c : FaultCenter) (code : BitVec 16) : Nat :=
  (c.activeBeginMsByCode.get code).getD 0

namespace FaultCenterPages

/-- The latest begin comes first, and of two codes that began together the lower one. -/
def shownBefore (p : FaultCenterPages) (a b : BitVec 16) : Bool :=
  let ta := p.center.currentBeginTimeOf a
  let tb := p.center.currentBeginTimeOf b
  if ta ≠ tb then decide (tb < ta) else decide (a < b)

def collectCurrentVisibleCodes (p : FaultCenterPages) : List (BitVec 16) :=
  match p.cat with
  | none => []
  | some cat =>
    (cat.currentCodes.filter (· ∈ p.center.active)).mergeSort fun a b => !p.shownBefore b a

/-- In 16 bits. -/
def currentTotalPages (p : FaultCenterPages) : Nat :=
  if p.collectCurrentVisibleCodes = [] then 0
  else (p.collectCurrentVisibleCodes.length + kFaultPageRows - 1) / kFaultPageRows % 2 ^ 16

def buildCurrentRows (p : FaultCenterPages) : List FaultCenterCurrentRow :=
  (List.range kFaultPageRows).filterMap fun i =>
    let idx := p.currentPage * kFaultPageRows + i
    p.collectCurrentVisibleCodes[idx]?.map fun code =>
      { seqNo := BitVec.ofNat 16 (idx + 1), code
        onTime := encodeTime (p.center.currentBeginTimeOf code) }

def toFirstCurrentPage (p : FaultCenterPages) : FaultCenterPages := { p with currentPage := 0 }

def nextCurrentPage (p : FaultCenterPages) : FaultCenterPages :=
  if p.currentTotalPages = 0 then { p with currentPage := 0 }
  else if p.currentPage + 1 < p.currentTotalPages then
    { p with currentPage := p.currentPage + 1 }
  else p

def prevCurrentPage (p : FaultCenterPages) : FaultCenterPages :=
  if 0 < p.currentPage then { p with currentPage := p.currentPage - 1 } else p

/-! ### The visible codes -/

variable (p : FaultCenterPages)

/-- The page is not looked at. -/
theorem collectCurrentVisibleCodes_page (k : Nat) :
    ({ p with currentPage := k } : FaultCenterPages).collectCurrentVisibleCodes =
      p.collectCurrentVisibleCodes :=
  rfl

/-- The order of the codes as one key. -/
def beginKey (code : BitVec 16) : ℕᵒᵈ ×ₗ ℕ :=
  toLex (OrderDual.toDual (p.center.currentBeginTimeOf code), code.toNat)

theorem shownBefore_iff (a b : BitVec 16) :
    p.shownBefore a b = true ↔ p.beginKey a < p.beginKey b := by
  unfold shownBefore beginKey
  rw [Prod.Lex.toLex_lt_toLex]
  dsimp only
  rw [OrderDual.toDual_lt_toDual, ← BitVec.lt_def]
  by_cases htime : p.center.currentBeginTimeOf a = p.center.currentBeginTimeOf b
  · simp [htime]
  · simp [htime]

theorem perm_visible (cat : LoadedCatalog) (hcat : p.cat = some cat) :
    p.collectCurrentVisibleCodes.Perm (cat.currentCodes.filter (· ∈ p.center.active)) := by
  rw [collectCurrentVisibleCodes, hcat]
  exact List.mergeSort_perm _ _

/-- Newest first. -/
theorem pairwise_visible : p.collectCurrentVisibleCodes.Pairwise fun a b =>
    p.beginKey a ≤ p.beginKey b := by
  have hle : ∀ a b, (!p.shownBefore b a) = true ↔ p.beginKey a ≤ p.beginKey b := by
    intro a b
    rw [Bool.not_eq_true', ← Bool.not_eq_true, shownBefore_iff, not_lt]
  unfold collectCurrentVisibleCodes
  cases p.cat with
  | none => exact List.Pairwise.nil
  | some cat =>
    refine List.Pairwise.imp (fun {a b} h => (hle a b).mp h) (List.pairwise_mergeSort ?_ ?_ _)
    · intro x y z hxy hyz
      exact (hle x z).mpr (le_trans ((hle x y).mp hxy) ((hle y z).mp hyz))
    · intro x y
      rw [Bool.or_eq_true, hle, hle]
      exact le_total _ _

section Catalog

variable {p : FaultCenterPages} {b : BestOf CatalogMeta.code}
  (hcat : p.cat = some (LoadedCatalog.index b))

include hcat

theorem mem_visible_iff (code : BitVec 16) :
    code ∈ p.collectCurrentVisibleCodes ↔
      code ∈ p.center.active ∧ (LoadedCatalog.index b).showInCurrent code = true := by
  have hagrees := LoadedCatalog.index_agrees b
  rw [(p.perm_visible _ hcat).mem_iff, List.mem_filter, decide_eq_true_iff, hagrees.current,
    List.mem_filter, hagrees.codes, and_comm]
  refine and_congr_right fun _ => and_iff_right_of_imp fun hshow => ?_
  unfold LoadedCatalog.showInCurrent at hshow
  cases hmeta : (LoadedCatalog.index b).metaOf code with
  | none =>
    rw [hmeta] at hshow
    cases hshow
  | some m => rfl

theorem nodup_visible : p.collectCurrentVisibleCodes.Nodup := by
  have hagrees := LoadedCatalog.index_agrees b
  rw [(p.perm_visible _ hcat).nodup_iff, hagrees.current]
  exact (hagrees.nodup.filter _).filter _

/-- The codes have 16 bits. -/
theorem length_visible_le : p.collectCurrentVisibleCodes.length ≤ 2 ^ 16 := by
  have hnodup : (p.collectCurrentVisibleCodes.map BitVec.toNat).Nodup :=
    (List.nodup_map_iff fun _ _ h => BitVec.eq_of_toNat_eq h).mpr (nodup_visible hcat)
  have hsubset : p.collectCurrentVisibleCodes.map BitVec.toNat ⊆ List.range (2 ^ 16) := by
    intro n hn
    obtain ⟨code, -, rfl⟩ := List.mem_map.mp hn
    exact List.mem_range.mpr code.isLt
  have hlength := (List.subperm_of_subset hnodup hsubset).length_le
  rwa [List.length_map, List.length_range] at hlength

theorem currentTotalPages_eq :
    p.currentTotalPages = pageCount kFaultPageRows p.collectCurrentVisibleCodes.length := by
  have hlength := length_visible_le hcat
  unfold currentTotalPages pageCount kFaultPageRows
  split
  · rename_i hnone
    rw [hnone]
    rfl
  · rw [Nat.mod_eq_of_lt]
    omega

end Catalog

/-- The codes of the rows are a page of the visible ones. -/
theorem codes_buildCurrentRows :
    p.buildCurrentRows.map FaultCenterCurrentRow.code =
      page kFaultPageRows (p.currentPage + 1) p.collectCurrentVisibleCodes := by
  rw [page, Nat.add_sub_cancel, ← filterMap_getElem?_range, buildCurrentRows, List.map_filterMap]
  congr 1
  funext i
  rw [Option.map_map]
  exact Option.map_id_apply

end FaultCenterPages
end Fault
end EnergyStorage
