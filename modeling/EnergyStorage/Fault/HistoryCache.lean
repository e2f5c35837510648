import Mathlib.Algebra.Group.Nat.Defs
import EnergyStorage.Snapshot.HistoryQueries

/-! # The cache of the history page

SQLite is the source; the cache keeps the page count, the newest rows and a window of
pages. -/

namespace EnergyStorage
namespace Fault

open Lib Lib.Paging

structure HistoryFaultViewRow where
  dbId : Nat := 0
  code : BitVec 16 := 0
  firstOnMs : Nat := 0
  clearMs : Nat := 0
  seqNo : BitVec 16 := 0
  state : BitVec 16 := 0
  name : String := ""
  classification : String := ""
  priorityRank : Int := 9999
  deriving DecidableEq, Repr

/-- The sizes that are set before the cache is used.  The control loop keeps two pages of
newest rows and a window of three pages. -/
structure CacheSizes where
  pageSize : Nat := 5
  hotRowsLimit : Nat := 10
  windowPages : Nat := 3
  pageSize_pos : 0 < pageSize := by decide
  pageSize_lt : pageSize < 2 ^ 16 := by decide
  windowPages_pos : 0 < windowPages := by decide
  hotRowsLimit_lt : hotRowsLimit < 2 ^ 16 := by decide
  hotRowsLimit_le : hotRowsLimit ≤ windowPages * pageSize := by decide

/-- What the control loop sets for a layout with `rows` rows a page; a setter ignores 0. -/
def CacheSizes.ofHistoryPageRows (rows : BitVec 16) : CacheSizes :=
  if h : rows = 0 then {}
  else
    have hpos : 0 < rows.toNat := Nat.pos_of_ne_zero fun h0 => h (BitVec.eq_of_toNat_eq h0)
    { pageSize := rows.toNat
      hotRowsLimit := if rows.toNat * 2 % 2 ^ 16 = 0 then 10 else rows.toNat * 2 % 2 ^ 16
      windowPages := 3
      pageSize_pos := hpos
      pageSize_lt := rows.isLt
      hotRowsLimit_lt := by
        split
        · decide
        · exact Nat.mod_lt _ (by decide)
      hotRowsLimit_le := by
        have hlt := rows.isLt
        split <;> omega }

/-- `db` tells whether a database is bound. -/
structure FaultHistoryCache where
  sizes : CacheSizes
  db : Bool := false
  valid : Bool := false
  totalRows : Nat := 0
  totalPages : Nat := 0
  hotRows : List HistoryFaultViewRow := []
  windowRows : List HistoryFaultViewRow := []
  windowStartPage : Nat := 0
  windowEndPage : Nat := 0

namespace FaultHistoryCache

def invalidate (c : FaultHistoryCache) : FaultHistoryCache :=
  { c with
    totalRows := 0, totalPages := 0, hotRows := [], windowRows := []
    windowStartPage := 0, windowEndPage := 0, valid := c.db }

def bindDb (c : FaultHistoryCache) (db : Bool) : FaultHistoryCache × Bool :=
  ({ invalidate { c with db := db } with valid := db }, db)

/-- In 32 bits, and stored in 16. -/
def calcTotalPages (totalRows pageSize : Nat) : Nat :=
  if pageSize = 0 ∨ totalRows = 0 then 0
  else (totalRows + pageSize - 1) % 2 ^ 32 / pageSize % 2 ^ 16

/-- `clampPage_` for a given `total_pages_`. -/
def clampTo (totalPages page : Nat) : Nat :=
  if totalPages = 0 then 1
  else if page < 1 then 1
  else if totalPages < page then totalPages
  else page

def clampPage (c : FaultHistoryCache) (page : Nat) : Nat := clampTo c.totalPages page

def fromDb (r : FaultHistoryDbRecord) : HistoryFaultViewRow :=
  ⟨r.id, r.code, r.firstOnMs, r.clearMs, r.seqNo, r.state, r.name, r.classification,
    r.priorityRank⟩

def refreshMeta (c : FaultHistoryCache) (count : StatementRun) (db : SqliteFaultSink) :
    FaultHistoryCache × Bool :=
  if c.db then
    match db.countHistoryRows count with
    | none => (c, false)
    | some total =>
      ({ c with
          totalRows := total, totalPages := calcTotalPages total c.sizes.pageSize
          valid := true },
        true)
  else (c, false)

def refreshHotCache (c : FaultHistoryCache) (latest : StatementRun) (db : SqliteFaultSink) :
    FaultHistoryCache × Bool :=
  if c.db then
    match db.loadLatestHistory latest c.sizes.hotRowsLimit with
    | none => (c, false)
    | some rows => ({ c with hotRows := rows.map fromDb, valid := true }, true)
  else (c, false)

/-- The first and the last page of the window around a page. -/
def windowAround (windowPages totalPages page : Nat) : Nat × Nat :=
  if windowPages ≤ 1 then (page, page)
  else if page ≤ 1 + windowPages / 2 then (1, min totalPages windowPages)
  else if totalPages ≤ page + windowPages / 2 then
    (if windowPages - 1 < totalPages then totalPages - windowPages + 1 else 1, totalPages)
  else (page - windowPages / 2, page - windowPages / 2 + windowPages - 1)

def clearWindow (c : FaultHistoryCache) : FaultHistoryCache :=
  { c with windowRows := [], windowStartPage := 0, windowEndPage := 0 }

/-- The pages from `start` to `stop` become the window. -/
def loadWindow (c : FaultHistoryCache) (range : StatementRun) (db : SqliteFaultSink)
    (start stop : Nat) : FaultHistoryCache × Bool :=
  match db.loadHistoryRange range ((start - 1) * c.sizes.pageSize)
      ((stop - start + 1) * c.sizes.pageSize) with
  | none => (c, false)
  | some rows =>
    ({ c with
        windowRows := rows.map fromDb, windowStartPage := start, windowEndPage := stop
        valid := true },
      true)

def refreshWindow (c : FaultHistoryCache) (count range : StatementRun) (db : SqliteFaultSink)
    (center : Nat) : FaultHistoryCache × Bool :=
  if c.db then
    let counted := c.refreshMeta count db
    if counted.2 then
      let c := counted.1
      if c.totalPages = 0 then ({ c.clearWindow with valid := true }, true)
      else
        let window := windowAround c.sizes.windowPages c.totalPages (c.clampPage center)
        c.loadWindow range db window.1 window.2
    else (counted.1, false)
  else (c, false)

def hasPageInWindow (c : FaultHistoryCache) (page : Nat) : Bool :=
  if c.windowStartPage = 0 ∨ c.windowEndPage = 0 then false
  else decide (c.windowStartPage ≤ page ∧ page ≤ c.windowEndPage)

/-- `reload` is the count that stands behind `if (!valid_)`. -/
def ensurePageLoaded (c : FaultHistoryCache) (reload count range : StatementRun)
    (db : SqliteFaultSink) (page : Nat) : FaultHistoryCache × Bool :=
  if c.db then
    let loaded := if c.valid then (c, true) else c.refreshMeta reload db
    if loaded.2 then
      let c := loaded.1
      if c.totalPages = 0 then (c.clearWindow, true)
      else if c.hasPageInWindow (c.clampPage page) then (c, true)
      else c.refreshWindow count range db (c.clampPage page)
    else (loaded.1, false)
  else (c, false)

def sliceFromWindow (c : FaultHistoryCache) (page : Nat) : Option (List HistoryFaultViewRow) :=
  if c.hasPageInWindow page then
    some (slice ((page - c.windowStartPage) * c.sizes.pageSize) c.sizes.pageSize c.windowRows)
  else none

def sliceFromHot (c : FaultHistoryCache) (page : Nat) : Option (List HistoryFaultViewRow) :=
  if page = 0 ∨ c.sizes.pageSize = 0 then none
  else if c.hotRows.length ≤ (page - 1) * c.sizes.pageSize then none
  else some (slice ((page - 1) * c.sizes.pageSize) c.sizes.pageSize c.hotRows)

def pageRows (c : FaultHistoryCache) (page : Nat) : List HistoryFaultViewRow :=
  if c.valid then
    if c.totalPages = 0 then []
    else
      match c.sliceFromWindow (c.clampPage page) with
      | some rows => rows
      | none => (c.sliceFromHot (c.clampPage page)).getD []
  else []

end FaultHistoryCache

/-! ### What the page should show -/

/-- The cleared rows as the panel shows them, newest first. -/
def viewRows (db : SqliteFaultSink) : List HistoryFaultViewRow :=
  db.clearedRows.map FaultHistoryCache.fromDb

/-- The number of the page that stands for `page`. -/
def shownPage (pageSize : Nat) (db : SqliteFaultSink) (page : Nat) : Nat :=
  clamp (pageCount pageSize db.clearedRows.length) page

/-- The rows `[(p - 1) * page_size, p * page_size)` for the nearest page `p`. -/
def historyPage (pageSize : Nat) (db : SqliteFaultSink) (page : Nat) :
    List HistoryFaultViewRow :=
  Paging.page pageSize (shownPage pageSize db page) (viewRows db)

namespace FaultHistoryCache

/-! ### The window -/

theorem clampTo_pos (totalPages page : Nat) : 0 < clampTo totalPages page := by
  unfold clampTo
  split
  · omega
  · split
    · omega
    · split <;> omega

theorem clampTo_eq_clamp {totalPages : Nat} (h : totalPages ≠ 0) (page : Nat) :
    clampTo totalPages page = clamp totalPages page := by
  unfold clampTo clamp
  rw [if_neg h]
  split
  · omega
  · split <;> omega

theorem clampTo_clampTo (totalPages page : Nat) :
    clampTo totalPages (clampTo totalPages page) = clampTo totalPages page := by
  by_cases h : totalPages = 0
  · rw [clampTo, clampTo, if_pos h, if_pos h]
  · rw [clampTo_eq_clamp h, clampTo_eq_clamp h]
    exact clamp_of_le (clamp_pos _ _) (clamp_le h _)

/-- The window around a page has the page in it and lies within the pages. -/
theorem windowAround_spec {windowPages totalPages page : Nat} (hpos : 0 < page)
    (hle : page ≤ totalPages) :
    0 < (windowAround windowPages totalPages page).1 ∧
      (windowAround windowPages totalPages page).1 ≤ page ∧
      page ≤ (windowAround windowPages totalPages page).2 ∧
      (windowAround windowPages totalPages page).2 ≤ totalPages := by
  unfold windowAround
  split
  · exact ⟨hpos, Nat.le_refl _, Nat.le_refl _, hle⟩
  · split
    · refine ⟨Nat.one_pos, hpos, ?_, ?_⟩ <;> dsimp only <;> omega
    · split
      · refine ⟨?_, ?_, hle, Nat.le_refl _⟩ <;> dsimp only <;> split <;> omega
      · refine ⟨?_, ?_, ?_, ?_⟩ <;> dsimp only <;> omega

/-- A window is as long as there are pages for it. -/
theorem min_le_windowAround {windowPages totalPages page : Nat} (hpos : 0 < page)
    (hwindow : 0 < windowPages) :
    min totalPages windowPages ≤ (windowAround windowPages totalPages page).2 := by
  unfold windowAround
  split
  · dsimp only
    omega
  · split
    · exact Nat.le_refl _
    · split <;> dsimp only <;> omega

theorem hasPageInWindow_iff {c : FaultHistoryCache} (hstart : 0 < c.windowStartPage)
    (hstop : 0 < c.windowEndPage) (page : Nat) :
    c.hasPageInWindow page = true ↔ c.windowStartPage ≤ page ∧ page ≤ c.windowEndPage := by
  have hne : ¬ (c.windowStartPage = 0 ∨ c.windowEndPage = 0) := by omega
  rw [hasPageInWindow, if_neg hne, decide_eq_true_iff]

theorem hasPageInWindow_of_empty {c : FaultHistoryCache} (hstart : c.windowStartPage = 0)
    (page : Nat) : c.hasPageInWindow page = false := by
  rw [hasPageInWindow, if_pos (Or.inl hstart)]

/-- Where the rows of page `page` begin that a window from `start` on has. -/
def rowOffset (pageSize start page : Nat) : Nat :=
  sqlOffset ((start - 1) * pageSize) + (page - start) * pageSize

/-- What the range query of a window gives. -/
def windowOf (pageSize : Nat) (db : SqliteFaultSink) (start stop : Nat) :
    List HistoryFaultViewRow :=
  (limitOffset (bindInt ((stop - start + 1) * pageSize)) (bindInt ((start - 1) * pageSize))
    db.clearedRows).map fromDb

theorem map_limitOffset {α β : Type*} (f : α → β) (limit offset : Int) (rows : List α) :
    (limitOffset limit offset rows).map f = limitOffset limit offset (rows.map f) := by
  unfold limitOffset
  split
  · rw [List.map_drop]
  · rw [List.map_take, List.map_drop]

/-- The slice for a page of the window is the slice at the page's offset. -/
theorem slice_windowOf {pageSize start stop page : Nat} (hsize : pageSize < 2 ^ 16)
    (hstop : stop < 2 ^ 16) (hstart : start ≤ page) (hpage : page ≤ stop)
    (hpos : 0 < start) (db : SqliteFaultSink) :
    slice ((page - start) * pageSize) pageSize (windowOf pageSize db start stop) =
      slice (rowOffset pageSize start page) pageSize (viewRows db) := by
  have hlimit : (stop - start + 1) * pageSize < 2 ^ 32 := by
    calc (stop - start + 1) * pageSize ≤ 2 ^ 16 * pageSize :=
          Nat.mul_le_mul_right _ (by omega)
      _ < 2 ^ 16 * 2 ^ 16 := Nat.mul_lt_mul_of_pos_left hsize (by decide)
      _ = 2 ^ 32 := by decide
  have hwithin : (page - start) * pageSize + pageSize ≤ (stop - start + 1) * pageSize := by
    rw [← Nat.succ_mul]
    exact Nat.mul_le_mul_right _ (by omega)
  rw [windowOf, map_limitOffset]
  unfold limitOffset
  split
  · rw [slice, slice, List.drop_drop]
    rfl
  · rename_i hnonneg
    rw [toNat_bindInt_of_nonneg hlimit hnonneg]
    exact slice_slice hwithin _ _

/-! ### The calls when every statement runs to its end -/

/-- The page count that the cache gets. -/
def countedPages (pageSize : Nat) (db : SqliteFaultSink) : Nat :=
  calcTotalPages (db.clearedRows.length % 2 ^ 32) pageSize

def counted (c : FaultHistoryCache) (db : SqliteFaultSink) : FaultHistoryCache :=
  { c with
    totalRows := db.clearedRows.length % 2 ^ 32
    totalPages := countedPages c.sizes.pageSize db
    valid := true }

def windowed (c : FaultHistoryCache) (db : SqliteFaultSink) (start stop : Nat) :
    FaultHistoryCache :=
  { c with
    windowRows := windowOf c.sizes.pageSize db start stop
    windowStartPage := start, windowEndPage := stop, valid := true }

/-- The pages that a load around `center` takes. -/
def windowFor (sizes : CacheSizes) (db : SqliteFaultSink) (center : Nat) : Nat × Nat :=
  windowAround sizes.windowPages (countedPages sizes.pageSize db)
    (clampTo (countedPages sizes.pageSize db) center)

def centered (c : FaultHistoryCache) (db : SqliteFaultSink) (center : Nat) :
    FaultHistoryCache :=
  if countedPages c.sizes.pageSize db = 0 then (c.counted db).clearWindow
  else (c.counted db).windowed db (windowFor c.sizes db center).1 (windowFor c.sizes db center).2

theorem refreshMeta_done {c : FaultHistoryCache} (hdb : c.db = true) (db : SqliteFaultSink) :
    c.refreshMeta .done db = (c.counted db, true) := by
  rw [refreshMeta, if_pos hdb, SqliteFaultSink.countHistoryRows,
    db.countP_eq_length_clearedRows]
  rfl

theorem loadWindow_done (c : FaultHistoryCache) (db : SqliteFaultSink) (start stop : Nat) :
    c.loadWindow .done db start stop = (c.windowed db start stop, true) := by
  have hlimit : (stop - start + 1) * c.sizes.pageSize ≠ 0 :=
    Nat.mul_ne_zero (Nat.succ_ne_zero _) (Nat.ne_of_gt c.sizes.pageSize_pos)
  rw [loadWindow, SqliteFaultSink.loadHistoryRange, if_neg hlimit]
  rfl

theorem refreshWindow_done {c : FaultHistoryCache} (hdb : c.db = true) (db : SqliteFaultSink)
    (center : Nat) : c.refreshWindow .done .done db center = (c.centered db center, true) := by
  rw [refreshWindow, if_pos hdb, refreshMeta_done hdb]
  by_cases hnone : countedPages c.sizes.pageSize db = 0
  · have htotal : (c.counted db).totalPages = 0 := hnone
    rw [centered, if_pos hnone, if_pos rfl, if_pos htotal]
    rfl
  · have htotal : (c.counted db).totalPages ≠ 0 := hnone
    rw [centered, if_neg hnone, if_pos rfl, if_neg htotal]
    exact loadWindow_done _ _ _ _

/-- The reload behind `if (!valid_)` is never made: a bound cache counts as valid. -/
theorem ensurePageLoaded_done {c : FaultHistoryCache} (hdb : c.db = true)
    (hvalid : c.valid = true) (reload : StatementRun) (db : SqliteFaultSink) (page : Nat) :
    c.ensurePageLoaded reload .done .done db page =
      (if c.totalPages = 0 then c.clearWindow
        else if c.hasPageInWindow (c.clampPage page) then c
        else c.centered db (c.clampPage page), true) := by
  rw [ensurePageLoaded, if_pos hdb, if_pos hvalid, if_pos rfl]
  dsimp only
  by_cases hnone : c.totalPages = 0
  · rw [if_pos hnone, if_pos hnone]
  · rw [if_neg hnone, if_neg hnone, refreshWindow_done hdb]
    split <;> rfl

theorem countedPages_lt (pageSize : Nat) (db : SqliteFaultSink) :
    countedPages pageSize db < 2 ^ 16 := by
  unfold countedPages calcTotalPages
  split
  · decide
  · exact Nat.mod_lt _ (by decide)

theorem clearedRows_ne_nil {pageSize : Nat} {db : SqliteFaultSink}
    (h : countedPages pageSize db ≠ 0) : db.clearedRows ≠ [] := by
  intro hnil
  apply h
  exact if_pos (Or.inr (congrArg (fun rows => List.length rows % 2 ^ 32) hnil))

/-! ### The sizes and the database stay -/

theorem refreshMeta_setup (c : FaultHistoryCache) (count : StatementRun)
    (db : SqliteFaultSink) :
    (c.refreshMeta count db).1.sizes = c.sizes ∧ (c.refreshMeta count db).1.db = c.db := by
  unfold refreshMeta
  split
  · split <;> exact ⟨rfl, rfl⟩
  · exact ⟨rfl, rfl⟩

theorem refreshHotCache_setup (c : FaultHistoryCache) (latest : StatementRun)
    (db : SqliteFaultSink) :
    (c.refreshHotCache latest db).1.sizes = c.sizes ∧
      (c.refreshHotCache latest db).1.db = c.db := by
  unfold refreshHotCache
  split
  · split <;> exact ⟨rfl, rfl⟩
  · exact ⟨rfl, rfl⟩

theorem loadWindow_setup (c : FaultHistoryCache) (range : StatementRun) (db : SqliteFaultSink)
    (start stop : Nat) :
    (c.loadWindow range db start stop).1.sizes = c.sizes ∧
      (c.loadWindow range db start stop).1.db = c.db := by
  unfold loadWindow
  split <;> exact ⟨rfl, rfl⟩

theorem refreshWindow_setup (c : FaultHistoryCache) (count range : StatementRun)
    (db : SqliteFaultSink) (center : Nat) :
    (c.refreshWindow count range db center).1.sizes = c.sizes ∧
      (c.refreshWindow count range db center).1.db = c.db := by
  have hcount := refreshMeta_setup c count db
  unfold refreshWindow
  split
  · dsimp only
    split
    · split
      · exact hcount
      · have hload := loadWindow_setup (c.refreshMeta count db).1 range db
        exact ⟨(hload _ _).1.trans hcount.1, (hload _ _).2.trans hcount.2⟩
    · exact hcount
  · exact ⟨rfl, rfl⟩

theorem ensurePageLoaded_setup (c : FaultHistoryCache) (reload count range : StatementRun)
    (db : SqliteFaultSink) (page : Nat) :
    (c.ensurePageLoaded reload count range db page).1.sizes = c.sizes ∧
      (c.ensurePageLoaded reload count range db page).1.db = c.db := by
  have hloaded : (if c.valid then (c, true) else c.refreshMeta reload db).1.sizes = c.sizes ∧
      (if c.valid then (c, true) else c.refreshMeta reload db).1.db = c.db := by
    split
    · exact ⟨rfl, rfl⟩
    · exact refreshMeta_setup c reload db
  unfold ensurePageLoaded
  dsimp only
  generalize (if c.valid then (c, true) else c.refreshMeta reload db) = loaded at hloaded ⊢
  split
  · split
    · split
      · exact hloaded
      · split
        · exact hloaded
        · have hwindow := refreshWindow_setup loaded.1 count range db
          exact ⟨(hwindow _).1.trans hloaded.1, (hwindow _).2.trans hloaded.2⟩
    · exact hloaded
  · exact ⟨rfl, rfl⟩

/-! ### What the cache holds -/

/-- The window was loaded from `src`. -/
structure Covers (c : FaultHistoryCache) (src : SqliteFaultSink) : Prop where
  start_pos : 0 < c.windowStartPage
  start_le : c.windowStartPage ≤ c.windowEndPage
  stop_lt : c.windowEndPage < 2 ^ 16
  rows : c.windowRows =
    windowOf c.sizes.pageSize src c.windowStartPage c.windowEndPage

/-- A cache between two calls, its window empty or loaded from `src`. -/
structure Holds (c : FaultHistoryCache) (src : SqliteFaultSink) : Prop where
  valid : c.valid = c.db
  hotRows : c.hotRows.length ≤ c.sizes.hotRowsLimit
  window : c.windowStartPage = 0 ∨ c.Covers src

theorem Covers.hasPageInWindow_iff {c : FaultHistoryCache} {src : SqliteFaultSink}
    (h : c.Covers src) (page : Nat) :
    c.hasPageInWindow page = true ↔ c.windowStartPage ≤ page ∧ page ≤ c.windowEndPage :=
  FaultHistoryCache.hasPageInWindow_iff h.start_pos
    (Nat.lt_of_lt_of_le h.start_pos h.start_le) page

theorem pageRows_of_none {c : FaultHistoryCache} (h : c.totalPages = 0) (page : Nat) :
    c.pageRows page = [] := by
  rw [pageRows, if_pos h, ite_self]

/-- A page in the window is sliced from what the window was loaded from. -/
theorem Covers.pageRows {c : FaultHistoryCache} {src : SqliteFaultSink} (h : c.Covers src)
    (hvalid : c.valid = true) (htotal : c.totalPages ≠ 0) {page : Nat}
    (hin : c.hasPageInWindow (c.clampPage page) = true) :
    c.pageRows page =
      slice (rowOffset c.sizes.pageSize c.windowStartPage (c.clampPage page)) c.sizes.pageSize
        (viewRows src) := by
  obtain ⟨hstart, hstop⟩ := (h.hasPageInWindow_iff _).mp hin
  rw [FaultHistoryCache.pageRows, if_pos hvalid, if_neg htotal, sliceFromWindow, if_pos hin]
  show slice _ _ c.windowRows = _
  rw [h.rows]
  exact slice_windowOf c.sizes.pageSize_lt h.stop_lt hstart hstop h.start_pos src

/-- The newest rows do not reach beyond the pages of a window. -/
theorem sliceFromHot_eq_none {c : FaultHistoryCache}
    (hhot : c.hotRows.length ≤ c.sizes.hotRowsLimit) {page : Nat}
    (h : c.sizes.windowPages < page) : c.sliceFromHot page = none := by
  rw [sliceFromHot]
  split
  · rfl
  · rw [if_pos]
    calc c.hotRows.length ≤ c.sizes.windowPages * c.sizes.pageSize :=
          hhot.trans c.sizes.hotRowsLimit_le
      _ ≤ (page - 1) * c.sizes.pageSize := Nat.mul_le_mul_right _ (by omega)

theorem pageRows_of_outside {c : FaultHistoryCache}
    (hhot : c.hotRows.length ≤ c.sizes.hotRowsLimit) {page : Nat}
    (hin : c.hasPageInWindow (c.clampPage page) = false)
    (h : c.sizes.windowPages < c.clampPage page) : c.pageRows page = [] := by
  have hslice : c.sliceFromWindow (c.clampPage page) = none := by
    rw [sliceFromWindow, hin]
    rfl
  rw [FaultHistoryCache.pageRows, hslice, sliceFromHot_eq_none hhot h]
  split
  · split <;> rfl
  · rfl

theorem covers_windowed (c : FaultHistoryCache) (db : SqliteFaultSink) {start stop : Nat}
    (hpos : 0 < start) (hle : start ≤ stop) (hlt : stop < 2 ^ 16) :
    (c.windowed db start stop).Covers db :=
  ⟨hpos, hle, hlt, rfl⟩

theorem windowFor_spec {sizes : CacheSizes} {db : SqliteFaultSink}
    (h : countedPages sizes.pageSize db ≠ 0) (center : Nat) :
    0 < (windowFor sizes db center).1 ∧
      (windowFor sizes db center).1 ≤ clampTo (countedPages sizes.pageSize db) center ∧
      clampTo (countedPages sizes.pageSize db) center ≤ (windowFor sizes db center).2 ∧
      (windowFor sizes db center).2 ≤ countedPages sizes.pageSize db := by
  apply windowAround_spec (clampTo_pos _ _)
  rw [clampTo_eq_clamp h]
  exact clamp_le h _

@[simp] theorem sizes_centered (c : FaultHistoryCache) (db : SqliteFaultSink) (center : Nat) :
    (c.centered db center).sizes = c.sizes := by
  unfold centered
  split <;> rfl

@[simp] theorem db_centered (c : FaultHistoryCache) (db : SqliteFaultSink) (center : Nat) :
    (c.centered db center).db = c.db := by
  unfold centered
  split <;> rfl

@[simp] theorem valid_centered (c : FaultHistoryCache) (db : SqliteFaultSink) (center : Nat) :
    (c.centered db center).valid = true := by
  unfold centered
  split <;> rfl

@[simp] theorem hotRows_centered (c : FaultHistoryCache) (db : SqliteFaultSink)
    (center : Nat) : (c.centered db center).hotRows = c.hotRows := by
  unfold centered
  split <;> rfl

@[simp] theorem totalPages_centered (c : FaultHistoryCache) (db : SqliteFaultSink)
    (center : Nat) :
    (c.centered db center).totalPages = countedPages c.sizes.pageSize db := by
  unfold centered
  split <;> rfl

theorem windowStartPage_centered {c : FaultHistoryCache} {db : SqliteFaultSink}
    (h : countedPages c.sizes.pageSize db ≠ 0) (center : Nat) :
    (c.centered db center).windowStartPage = (windowFor c.sizes db center).1 := by
  rw [centered, if_neg h]
  rfl

theorem windowEndPage_centered {c : FaultHistoryCache} {db : SqliteFaultSink}
    (h : countedPages c.sizes.pageSize db ≠ 0) (center : Nat) :
    (c.centered db center).windowEndPage = (windowFor c.sizes db center).2 := by
  rw [centered, if_neg h]
  rfl

theorem covers_centered {c : FaultHistoryCache} {db : SqliteFaultSink}
    (h : countedPages c.sizes.pageSize db ≠ 0) (center : Nat) :
    (c.centered db center).Covers db := by
  obtain ⟨hpos, hstart, hstop, hle⟩ := windowFor_spec h center
  rw [centered, if_neg h]
  exact covers_windowed _ db hpos (hstart.trans hstop)
    (Nat.lt_of_le_of_lt hle (countedPages_lt _ _))

/-! ### The right page -/

theorem nodup_viewRows {db : SqliteFaultSink} (h : db.Numbered) : (viewRows db).Nodup := by
  apply List.Nodup.of_map HistoryFaultViewRow.dbId
  rw [viewRows, List.map_map]
  exact h.nodup_clearedRows

theorem length_viewRows (db : SqliteFaultSink) :
    (viewRows db).length = db.clearedRows.length :=
  List.length_map _

theorem viewRows_eq_nil_iff {db : SqliteFaultSink} : viewRows db = [] ↔ db.clearedRows = [] :=
  List.map_eq_nil_iff

theorem shownPage_le {pageSize : Nat} (hsize : 0 < pageSize) {db : SqliteFaultSink}
    (h : db.clearedRows ≠ []) (page : Nat) :
    shownPage pageSize db page ≤ pageCount pageSize db.clearedRows.length := by
  apply clamp_le
  rw [Ne, pageCount_eq_zero hsize, List.length_eq_zero_iff]
  exact h

theorem shownPage_first_lt {pageSize : Nat} (hsize : 0 < pageSize) {db : SqliteFaultSink}
    (h : db.clearedRows ≠ []) (page : Nat) :
    (shownPage pageSize db page - 1) * pageSize < (viewRows db).length := by
  rw [length_viewRows]
  exact pos_lt_of_le_pageCount hsize (clamp_pos _ _) (shownPage_le hsize h page)

theorem historyPage_eq_nil_iff {pageSize : Nat} (hsize : 0 < pageSize) {db : SqliteFaultSink}
    {page : Nat} : historyPage pageSize db page = [] ↔ db.clearedRows = [] := by
  constructor
  · intro h
    by_contra hne
    have hlt := shownPage_first_lt hsize hne page
    have hle := (page_eq_nil_iff hsize).mp h
    omega
  · intro h
    rw [historyPage, viewRows_eq_nil_iff.mpr h]
    exact slice_nil _ _

/-- A slice is the right page exactly when it begins where the page begins. -/
theorem slice_eq_historyPage_iff {pageSize : Nat} (hsize : 0 < pageSize) {db : SqliteFaultSink}
    (hdb : db.Numbered) (h : db.clearedRows ≠ []) (offset page : Nat) :
    slice offset pageSize (viewRows db) = historyPage pageSize db page ↔
      offset = (shownPage pageSize db page - 1) * pageSize :=
  slice_inj (nodup_viewRows hdb) hsize (shownPage_first_lt hsize h page)

/-- A window loaded around `center` has the rows of page `page`, and in their place. -/
def Reaches (sizes : CacheSizes) (db : SqliteFaultSink) (center page : Nat) : Prop :=
  let total := countedPages sizes.pageSize db
  if total = 0 then db.clearedRows = []
  else
    clampTo total page ≤ (windowFor sizes db center).2 ∧
      rowOffset sizes.pageSize (windowFor sizes db center).1 (clampTo total page) =
        (shownPage sizes.pageSize db page - 1) * sizes.pageSize

instance (sizes : CacheSizes) (db : SqliteFaultSink) (center page : Nat) :
    Decidable (Reaches sizes db center page) := by
  unfold Reaches
  infer_instance

/-- After a load around `center` the cache shows a page from there on exactly if the window
reaches it. -/
theorem centered_shows_iff {c : FaultHistoryCache}
    (hhot : c.hotRows.length ≤ c.sizes.hotRowsLimit) {db : SqliteFaultSink} (hdb : db.Numbered)
    {center page : Nat}
    (hcenter : clampTo (countedPages c.sizes.pageSize db) center ≤
      clampTo (countedPages c.sizes.pageSize db) page) :
    (c.centered db center).pageRows page = historyPage c.sizes.pageSize db page ↔
      Reaches c.sizes db center page := by
  have hsize := c.sizes.pageSize_pos
  have htotal := c.totalPages_centered db center
  have hclamp : (c.centered db center).clampPage page =
      clampTo (countedPages c.sizes.pageSize db) page :=
    congrArg (clampTo · page) htotal
  unfold Reaches
  by_cases hnone : countedPages c.sizes.pageSize db = 0
  · rw [if_pos hnone, pageRows_of_none (htotal.trans hnone), eq_comm,
      historyPage_eq_nil_iff hsize]
  · have hrows := clearedRows_ne_nil hnone
    have hcovers := covers_centered hnone center
    have hin := hcovers.hasPageInWindow_iff ((c.centered db center).clampPage page)
    rw [windowStartPage_centered hnone, windowEndPage_centered hnone, hclamp] at hin
    obtain ⟨-, hstart, -, -⟩ := windowFor_spec hnone center
    rw [if_neg hnone]
    by_cases hreach : clampTo (countedPages c.sizes.pageSize db) page ≤
        (windowFor c.sizes db center).2
    · have hwindow := hin.mpr ⟨hstart.trans hcenter, hreach⟩
      rw [← hclamp] at hwindow
      rw [hcovers.pageRows (valid_centered c db center) (htotal.trans_ne hnone) hwindow,
        and_iff_right hreach, hclamp, windowStartPage_centered hnone, sizes_centered]
      exact slice_eq_historyPage_iff hsize hdb hrows _ _
    · have hwindow : (c.centered db center).hasPageInWindow
          ((c.centered db center).clampPage page) = false := by
        rw [hclamp, ← Bool.not_eq_true, hin]
        exact fun h => hreach h.2
      have hlong : min (countedPages c.sizes.pageSize db) c.sizes.windowPages ≤
          (windowFor c.sizes db center).2 :=
        min_le_windowAround (clampTo_pos _ _) c.sizes.windowPages_pos
      have hpage : clampTo (countedPages c.sizes.pageSize db) page ≤
          countedPages c.sizes.pageSize db := by
        rw [clampTo_eq_clamp hnone]
        exact clamp_le hnone _
      have hbeyond : c.sizes.windowPages < (c.centered db center).clampPage page := by
        rw [hclamp]
        omega
      rw [← sizes_centered c db center] at hbeyond
      rw [← hotRows_centered c db center, ← sizes_centered c db center] at hhot
      rw [pageRows_of_outside hhot hwindow hbeyond, eq_comm, historyPage_eq_nil_iff hsize]
      exact iff_of_false hrows fun h => hreach h.1

/-! ### Tables whose pages fit into 16 bits -/

structure InRange (pageSize : Nat) (db : SqliteFaultSink) : Prop where
  pages_lt : pageCount pageSize db.clearedRows.length < 2 ^ 16
  rows_lt : db.clearedRows.length < 2 ^ 31

theorem InRange.countedPages_eq {pageSize : Nat} {db : SqliteFaultSink}
    (h : InRange pageSize db) (hlt : pageSize < 2 ^ 16) (hsize : 0 < pageSize) :
    countedPages pageSize db = pageCount pageSize db.clearedRows.length := by
  have hrows := h.rows_lt
  have hmod : db.clearedRows.length % 2 ^ 32 = db.clearedRows.length :=
    Nat.mod_eq_of_lt (by omega)
  have hsum : (db.clearedRows.length + pageSize - 1) % 2 ^ 32 =
      db.clearedRows.length + pageSize - 1 := Nat.mod_eq_of_lt (by omega)
  rw [countedPages, hmod, calcTotalPages]
  split
  · rename_i hzero
    have hnil : db.clearedRows.length = 0 := by omega
    exact ((pageCount_eq_zero hsize).mpr hnil).symm
  · rw [hsum]
    exact Nat.mod_eq_of_lt h.pages_lt

theorem rowOffset_eq {pageSize start page : Nat} (hpos : 0 < start) (hle : start ≤ page)
    (h : (start - 1) * pageSize < 2 ^ 31) :
    rowOffset pageSize start page = (page - 1) * pageSize := by
  rw [rowOffset, sqlOffset_of_lt h, ← Nat.add_mul]
  congr 1
  omega

theorem InRange.clampTo_eq {sizes : CacheSizes} {db : SqliteFaultSink}
    (h : InRange sizes.pageSize db) (hne : countedPages sizes.pageSize db ≠ 0) (page : Nat) :
    clampTo (countedPages sizes.pageSize db) page = shownPage sizes.pageSize db page := by
  rw [clampTo_eq_clamp hne, h.countedPages_eq sizes.pageSize_lt sizes.pageSize_pos]
  rfl

/-- In range the rows of the right page are in their place in any window that has them. -/
theorem InRange.rowOffset_eq {pageSize : Nat} {db : SqliteFaultSink} (h : InRange pageSize db)
    (hsize : 0 < pageSize) (hrows : db.clearedRows ≠ []) {start page : Nat} (hpos : 0 < start)
    (hle : start ≤ shownPage pageSize db page) :
    rowOffset pageSize start (shownPage pageSize db page) =
      (shownPage pageSize db page - 1) * pageSize := by
  apply FaultHistoryCache.rowOffset_eq hpos hle
  have hfirst := pos_lt_of_le_pageCount hsize hpos (hle.trans (shownPage_le hsize hrows page))
  have hlt := h.rows_lt
  omega

/-- In range a window reaches the page that it was loaded around. -/
theorem InRange.reaches {sizes : CacheSizes} {db : SqliteFaultSink}
    (h : InRange sizes.pageSize db) {center page : Nat}
    (hcenter : clampTo (countedPages sizes.pageSize db) center =
      clampTo (countedPages sizes.pageSize db) page) : Reaches sizes db center page := by
  have hsize := sizes.pageSize_pos
  unfold Reaches
  dsimp only
  split
  · rename_i hnone
    rw [h.countedPages_eq sizes.pageSize_lt hsize, pageCount_eq_zero hsize] at hnone
    exact List.length_eq_zero_iff.mp hnone
  · rename_i hne
    obtain ⟨hpos, hstart, hstop, -⟩ := windowFor_spec hne center
    rw [hcenter] at hstart hstop
    refine ⟨hstop, ?_⟩
    rw [h.clampTo_eq hne] at hstart ⊢
    exact h.rowOffset_eq hsize (clearedRows_ne_nil hne) hpos hstart

end FaultHistoryCache
end Fault
end EnergyStorage
