import EnergyStorage.Fault.PageRegisters

/-! # Paging through the current faults

The center counts five rows a page; a flush shows as many of them as the map has registers
for. -/

namespace EnergyStorage
namespace Fault

open Lib Lib.Paging
open EnergyStorage.Normal (HmiMapModel)

namespace FaultCenterPages

variable (layout : FaultHmiLayout) (p : FaultCenterPages)

/-- From the first page, `k` pages on. -/
def turned : Nat → FaultCenterPages
  | 0 => p.toFirstCurrentPage
  | k + 1 => (turned k).nextCurrentPage

/-- The codes in the registers of the rows that the page has, in the order of the rows. -/
def shownCodes : List (BitVec 16) :=
  (flushCurrentToHmi layout (some p)).filterMap fun cell =>
    match cell.place with
    | .row .code i =>
      if i < p.buildCurrentRows.length then some (cell.value.extractLsb' 0 16) else none
    | _ => none

/-- What the first `k` pages show one after the other. -/
def seen (k : Nat) : List (BitVec 16) :=
  (List.range k).flatMap fun j => (p.turned j).shownCodes layout

/-- The faults that are active, known and shown on the current page. -/
def visible (b : BestOf CatalogMeta.code) : Finset (BitVec 16) :=
  p.center.active.filter fun code => (LoadedCatalog.index b).showInCurrent code = true

/-- The pages that are counted show every visible fault once, newest first, and no fewer pages
do. -/
structure ShowsAll (b : BestOf CatalogMeta.code) : Prop where
  total : ∀ k, singleCell layout .current .totalPages (BitVec.ofNat 16 p.currentTotalPages) ∈
    flushCurrentToHmi layout (some (p.turned k))
  complete : ∀ code, code ∈ p.seen layout p.currentTotalPages ↔ code ∈ p.visible b
  once : (p.seen layout p.currentTotalPages).Nodup
  ordered : (p.seen layout p.currentTotalPages).Pairwise fun x y => p.beginKey x ≤ p.beginKey y
  needed : ∀ k < p.currentTotalPages, ∃ code ∈ p.visible b, code ∉ p.seen layout k

theorem turned_eq (k : Nat) :
    p.turned k = { p with currentPage := min k (p.currentTotalPages - 1) } := by
  induction k with
  | zero => rw [turned, toFirstCurrentPage, Nat.zero_min]
  | succ k ih =>
    have htotal : (p.turned k).currentTotalPages = p.currentTotalPages := by
      rw [ih]
      rfl
    have hpage : (p.turned k).currentPage = min k (p.currentTotalPages - 1) := by
      rw [ih]
    rw [turned, nextCurrentPage, htotal, hpage, ih]
    by_cases hnone : p.currentTotalPages = 0
    · rw [if_pos hnone, hnone, Nat.zero_sub, Nat.min_zero, Nat.min_zero]
    · rw [if_neg hnone]
      split
      · congr 1
        omega
      · congr 1
        omega

theorem currentPage_turned (k : Nat) :
    (p.turned k).currentPage = min k (p.currentTotalPages - 1) := by
  rw [turned_eq]

/-- Turning the pages changes neither the faults nor their order. -/
theorem collectCurrentVisibleCodes_turned (k : Nat) :
    (p.turned k).collectCurrentVisibleCodes = p.collectCurrentVisibleCodes := by
  rw [turned_eq, collectCurrentVisibleCodes_page]

theorem currentTotalPages_turned (k : Nat) :
    (p.turned k).currentTotalPages = p.currentTotalPages := by
  rw [currentTotalPages, collectCurrentVisibleCodes_turned, currentTotalPages]

/-- A flush shows of the page the rows that the layout has. -/
theorem shownCodes_eq (hvalid : layout.pageValid .current = true) :
    p.shownCodes layout =
      (page kFaultPageRows (p.currentPage + 1) p.collectCurrentVisibleCodes).take
        (layout.rows .current) := by
  have hlow : ∀ code : BitVec 16, (code.setWidth 32).extractLsb' 0 16 = code := by
    intro code
    have hlt := code.isLt
    refine BitVec.eq_of_toNat_eq ?_
    rw [BitVec.extractLsb'_toNat, Nat.shiftRight_zero, BitVec.toNat_setWidth]
    omega
  have hrow : ∀ i, (FaultPage.current.fields.map fun f => rowCell layout .current i f
        (((currentView (some p)).rows[i]?.map fun r => r f).getD 0)).filterMap
      (fun cell => match cell.place with
        | .row .code i =>
          if i < p.buildCurrentRows.length then some (cell.value.extractLsb' 0 16) else none
        | _ => none) = (p.buildCurrentRows[i]?.map FaultCenterCurrentRow.code).toList := by
    intro i
    by_cases hi : i < p.buildCurrentRows.length
    · have hview : (currentView (some p)).rows[i]? = some p.buildCurrentRows[i].value := by
        rw [currentView, List.getElem?_map, List.getElem?_eq_getElem hi]
        rfl
      rw [hview, List.getElem?_eq_getElem hi, FaultPage.fields]
      simp [rowCell, hi, FaultCenterCurrentRow.value, hlow]
    · simp [rowCell, hi, FaultPage.fields]
  have hcodes : ∀ i, p.buildCurrentRows[i]?.map FaultCenterCurrentRow.code =
      (page kFaultPageRows (p.currentPage + 1) p.collectCurrentVisibleCodes)[0 + i]? := by
    intro i
    rw [← codes_buildCurrentRows, List.getElem?_map, Nat.zero_add]
  rw [shownCodes, flushCurrentToHmi, flushPage, hvalid, if_neg (by decide), List.filterMap_append,
    List.filterMap_flatMap]
  simp only [hrow]
  rw [← List.filterMap_eq_flatMap_toList]
  simp only [hcodes]
  rw [filterMap_getElem?_range]
  rfl

theorem shownCodes_turned (hvalid : layout.pageValid .current = true) {j : Nat}
    (hj : j < p.currentTotalPages) :
    (p.turned j).shownCodes layout =
      (page kFaultPageRows (j + 1) p.collectCurrentVisibleCodes).take (layout.rows .current) := by
  rw [shownCodes_eq layout _ hvalid, currentPage_turned, collectCurrentVisibleCodes_turned,
    Nat.min_eq_left (by omega)]

section Catalog

variable {layout p} {b : BestOf CatalogMeta.code}
  (hcat : p.cat = some (LoadedCatalog.index b)) (hvalid : layout.pageValid .current = true)

include hcat

theorem mem_collect_iff (code : BitVec 16) :
    code ∈ p.collectCurrentVisibleCodes ↔ code ∈ p.visible b := by
  rw [mem_visible_iff hcat, visible, Finset.mem_filter]

theorem length_collect : p.collectCurrentVisibleCodes.length = (p.visible b).card := by
  have hset : p.collectCurrentVisibleCodes.toFinset = p.visible b := by
    ext code
    rw [List.mem_toFinset, mem_collect_iff hcat]
  rw [← hset, List.toFinset_card_of_nodup (nodup_visible hcat)]

include hvalid

/-- With registers for every row of a page the pages are seen as the center makes them. -/
theorem seen_eq (hrows : min kFaultPageRows (p.visible b).card ≤ layout.rows .current) {k : Nat}
    (hk : k ≤ p.currentTotalPages) :
    p.seen layout k = p.collectCurrentVisibleCodes.take (k * kFaultPageRows) := by
  have hpages : ∀ j ∈ List.range k, (p.turned j).shownCodes layout =
      page kFaultPageRows (1 + j) p.collectCurrentVisibleCodes := by
    intro j hj
    have hlt := List.mem_range.mp hj
    rw [shownCodes_turned layout p hvalid (by omega), Nat.add_comm j 1]
    refine List.take_of_length_le ?_
    have hlength := length_collect hcat
    rw [page, length_slice]
    omega
  have hslice := flatMap_page Nat.one_pos kFaultPageRows k p.collectCurrentVisibleCodes
  rw [List.range'_eq_map_range, List.flatMap_map] at hslice
  rw [seen, List.flatMap_congr hpages, hslice, Nat.sub_self, Nat.zero_mul]
  rfl

theorem showsAll_of_rows (hrows : min kFaultPageRows (p.visible b).card ≤ layout.rows .current) :
    p.ShowsAll layout b := by
  have hcount := currentTotalPages_eq hcat
  have hall : p.seen layout p.currentTotalPages = p.collectCurrentVisibleCodes := by
    rw [seen_eq hcat hvalid hrows (Nat.le_refl _)]
    refine List.take_of_length_le ?_
    rw [hcount]
    unfold pageCount kFaultPageRows
    omega
  constructor
  · intro k
    rw [flushCurrentToHmi, flushPage, hvalid, if_neg (by decide), currentView,
      currentTotalPages_turned]
    exact List.mem_append_left _ List.mem_cons_self
  · intro code
    rw [hall, mem_collect_iff hcat]
  · rw [hall]
    exact nodup_visible hcat
  · rw [hall]
    exact p.pairwise_visible
  · intro k hk
    have hlt : k * kFaultPageRows < p.collectCurrentVisibleCodes.length :=
      pos_lt_of_le_pageCount (by decide) (Nat.succ_pos k) (hcount ▸ hk)
    refine ⟨p.collectCurrentVisibleCodes[k * kFaultPageRows],
      (mem_collect_iff hcat _).mp (List.getElem_mem hlt), ?_⟩
    rw [seen_eq hcat hvalid hrows (Nat.le_of_lt hk)]
    intro hseen
    refine List.disjoint_take_drop (nodup_visible hcat) (Nat.le_refl _) hseen ?_
    exact List.mem_drop_iff_getElem.mpr ⟨0, by omega, rfl⟩

/-- The first row without registers is never seen. -/
theorem rows_of_showsAll (h : p.ShowsAll layout b) :
    min kFaultPageRows (p.visible b).card ≤ layout.rows .current := by
  by_contra hless
  have hlength := length_collect hcat
  have hrows : kFaultPageRows = 5 := rfl
  have hlt : layout.rows .current < p.collectCurrentVisibleCodes.length := by omega
  have hcode := (h.complete p.collectCurrentVisibleCodes[layout.rows .current]).mpr
    ((mem_collect_iff hcat _).mp (List.getElem_mem hlt))
  obtain ⟨j, hj, hseen⟩ := List.mem_flatMap.mp hcode
  rw [shownCodes_turned layout p hvalid (List.mem_range.mp hj)] at hseen
  obtain ⟨i, hi, hat⟩ := List.mem_take_iff_getElem.mp hseen
  have hfirst : p.collectCurrentVisibleCodes[j * kFaultPageRows + i]? =
      p.collectCurrentVisibleCodes[layout.rows .current]? := by
    rw [List.getElem?_eq_getElem hlt, ← hat, ← List.getElem?_eq_getElem, page,
      getElem?_slice (by omega), Nat.add_sub_cancel]
  have hsame := (List.getElem?_inj hlt (nodup_visible hcat)).mp hfirst.symm
  rw [hrows] at hsame
  omega

end Catalog

/-- The current pages show every fault exactly if each of their columns has registers for as many
rows as a page of the center can have. -/
theorem showsAll_iff {parse : String → Except String Json} {path : String}
    {file : Option (List String)} {m : HmiMapModel} {layout : FaultHmiLayout}
    (h : Normal.loadJsonl parse path file = .ok m)
    (hlayout : buildLayoutFromHmiMap m = .ok layout) {p : FaultCenterPages}
    {b : BestOf CatalogMeta.code} (hcat : p.cat = some (LoadedCatalog.index b)) :
    p.ShowsAll layout b ↔ ∀ n < 5, n < (p.visible b).card → ShownRow m .current (n + 1) := by
  have hm := HmiMapModel.indexed_of_loadJsonl h
  have hvalid := (layout_eq hlayout).2 .current
  have hrows : kFaultPageRows = 5 := rfl
  constructor
  · intro hall n hn hcard
    have hle := rows_of_showsAll hcat hvalid hall
    exact (lt_rows_iff hm hlayout .current n).mp (by omega)
  · intro hall
    refine showsAll_of_rows hcat hvalid ?_
    by_contra hless
    have hshown := hall (layout.rows .current) (by omega) (by omega)
    exact Nat.lt_irrefl _ ((lt_rows_iff hm hlayout .current _).mpr hshown)

theorem showsAll_iff_full :
    ∃ m layout, loadMap (mapItems 5 1) = .ok m ∧ buildLayoutFromHmiMap m = .ok layout ∧
      (fullCenter.ShowsAll layout (.run better fiveFaults) ↔
        ∀ n < 5, n < (fullCenter.visible (.run better fiveFaults)).card →
          ShownRow m .current (n + 1)) := by
  obtain ⟨m, hload, hmap⟩ : ∃ m, loadMap (mapItems 5 1) = .ok m ∧ MapOf 5 1 m :=
    loadMap_mapOf (by decide) (by decide)
  obtain ⟨layout, hlayout⟩ :=
    hmap.exists_layout (HmiMapModel.indexed_of_loadJsonl hload) (by decide) (by decide)
  exact ⟨m, layout, hload, hlayout, showsAll_iff hload hlayout rfl⟩

/-- With two rows in the map the panel misses three of five faults. -/
theorem two_rows_miss_faults :
    ∃ m layout, loadMap (mapItems 2 1) = .ok m ∧ buildLayoutFromHmiMap m = .ok layout ∧
      ¬ fullCenter.ShowsAll layout (.run better fiveFaults) := by
  obtain ⟨m, hload, hmap⟩ : ∃ m, loadMap (mapItems 2 1) = .ok m ∧ MapOf 2 1 m :=
    loadMap_mapOf (by decide) (by decide)
  have hm := HmiMapModel.indexed_of_loadJsonl hload
  obtain ⟨layout, hlayout⟩ := hmap.exists_layout hm (by decide) (by decide)
  refine ⟨m, layout, hload, hlayout, fun hall => ?_⟩
  have hle := rows_of_showsAll rfl ((layout_eq hlayout).2 .current) hall
  have hcard := length_collect (p := fullCenter) (b := .run better fiveFaults) rfl
  have hvisible := length_visible_fullCenter
  have hrows : kFaultPageRows = 5 := rfl
  have hshown := (lt_rows_iff hm hlayout .current 2).mp (by omega)
  have hthree := (hmap.shownRow_iff (by decide) .current 3).mp hshown
  omega

end FaultCenterPages
end Fault
end EnergyStorage
