import EnergyStorage.Lib.Machine
import EnergyStorage.Fault.Center
import EnergyStorage.Fault.HistoryCache

/-! # The passes that refresh the history page

A pass maps the faults, which may change the table and mark the history as changed, and then
refreshes the cache of the history page.  The statements of a pass may fail; those that write
the table do not. -/

namespace EnergyStorage
namespace Fault

open Lib Lib.Paging

/-- Gives the mark and takes it away. -/
def FaultCenter.consumeHistoryDirty (c : FaultCenter) : FaultCenter × Bool :=
  ({ c with historyDirty := false }, c.historyDirty)

/-- What the passes and the page buttons use of the logic context, and the table. -/
structure HistoryContext where
  faultCenter : FaultCenter := {}
  faultHistoryCache : FaultHistoryCache
  historyPageNo : Nat := 1
  historyCacheVersion : Nat := 0
  db : SqliteFaultSink

/-- How the statements of one refresh run. -/
structure RefreshQueries where
  count : StatementRun := .done
  latest : StatementRun := .done
  windowCount : StatementRun := .done
  range : StatementRun := .done
  deriving DecidableEq, Repr

/-- How the statements behind one page button run. -/
structure ButtonQueries where
  count : StatementRun := .done
  pageCount : StatementRun := .done
  reload : StatementRun := .done
  windowCount : StatementRun := .done
  range : StatementRun := .done
  deriving DecidableEq, Repr

/-- A call of `setActive` while the faults are mapped. -/
structure FaultEdge where
  code : BitVec 16
  on : Bool
  ts : Nat

inductive HistoryButton where
  | hisPageEnter
  | hisPageNext
  | hisPagePrev
  | hisPageFirst
  deriving DecidableEq, Repr

namespace FaultHistoryCache

/-- `refreshMeta() && refreshHotCache() && refreshWindow(page)`. -/
def refreshAll (c : FaultHistoryCache) (q : RefreshQueries) (db : SqliteFaultSink)
    (page : Nat) : FaultHistoryCache × Bool :=
  let counted := c.refreshMeta q.count db
  if counted.2 then
    let hot := counted.1.refreshHotCache q.latest db
    if hot.2 then hot.1.refreshWindow q.windowCount q.range db page else (hot.1, false)
  else (counted.1, false)

/-- `refreshMeta() && refreshWindow(page)`. -/
def reloadWindow (c : FaultHistoryCache) (q : RefreshQueries) (db : SqliteFaultSink)
    (page : Nat) : FaultHistoryCache × Bool :=
  let counted := c.refreshMeta q.count db
  if counted.2 then counted.1.refreshWindow q.windowCount q.range db page
  else (counted.1, false)

end FaultHistoryCache

namespace HistoryContext

variable (cat : FaultCatalog)

/-- The calls of `setActive` that the mapping of the faults makes. -/
def applyFaultPages (ctx : HistoryContext) (edges : List FaultEdge) : HistoryContext :=
  edges.foldl
    (fun ctx e =>
      let r := ctx.faultCenter.setActive cat ctx.db e.code e.on e.ts
      { ctx with faultCenter := r.1, db := r.2 })
    ctx

/-- What follows the mapping in `refreshFaultPagesOnly`. -/
def refreshHistory (ctx : HistoryContext) (q : RefreshQueries) : HistoryContext :=
  let dirty := ctx.faultCenter.consumeHistoryDirty
  if dirty.2 then
    let r := ctx.faultHistoryCache.refreshAll q ctx.db ctx.historyPageNo
    { ctx with
      faultCenter := dirty.1, faultHistoryCache := r.1
      historyCacheVersion :=
        if r.2 then ctx.faultCenter.historyVersion else ctx.historyCacheVersion }
  else if ctx.faultHistoryCache.hasPageInWindow ctx.historyPageNo then
    { ctx with faultCenter := dirty.1 }
  else
    { ctx with
      faultCenter := dirty.1
      faultHistoryCache := (ctx.faultHistoryCache.reloadWindow q ctx.db ctx.historyPageNo).1 }

def refreshFaultPagesOnly (ctx : HistoryContext) (edges : List FaultEdge)
    (q : RefreshQueries) : HistoryContext :=
  (ctx.applyFaultPages cat edges).refreshHistory q

/-- `refreshHistoryCacheForPage`. -/
def refreshForPage (ctx : HistoryContext) (q : ButtonQueries) (page : Nat) : HistoryContext :=
  let counted := ctx.faultHistoryCache.refreshMeta q.pageCount ctx.db
  if counted.2 then
    if counted.1.totalPages = 0 then
      { ctx with
        faultHistoryCache := (counted.1.refreshWindow q.windowCount q.range ctx.db 1).1
        historyPageNo := 1 }
    else
      let page := FaultHistoryCache.clampTo counted.1.totalPages page
      { ctx with
        faultHistoryCache :=
          (counted.1.ensurePageLoaded q.reload q.windowCount q.range ctx.db page).1
        historyPageNo := page }
  else { ctx with faultHistoryCache := counted.1 }

/-- The page that the next and the previous button ask for. -/
def targetPage (button : HistoryButton) (totalPages page : Nat) : Nat :=
  match button with
  | .hisPageNext => if page < totalPages then page + 1 else totalPages
  | .hisPagePrev => if 1 < page then page - 1 else 1
  | .hisPageEnter | .hisPageFirst => 1

/-- The history buttons of `onHmiButtonClick_`. -/
def onHmiButtonClick (ctx : HistoryContext) (button : HistoryButton) (q : ButtonQueries) :
    HistoryContext :=
  if button = .hisPageEnter then ctx.refreshForPage q 1
  else
    let counted := ctx.faultHistoryCache.refreshMeta q.count ctx.db
    let ctx := { ctx with faultHistoryCache := counted.1 }
    if counted.2 then
      if counted.1.totalPages = 0 ∧ button ≠ .hisPageFirst then
        { ctx with
          faultHistoryCache := (counted.1.refreshWindow q.windowCount q.range ctx.db 1).1
          historyPageNo := 1 }
      else
        ctx.refreshForPage q (targetPage button counted.1.totalPages ctx.historyPageNo)
    else ctx

end HistoryContext

/-- The database is bound: the history is marked and a new cache is filled for page 1. -/
def bindHistory (sizes : CacheSizes) (db : SqliteFaultSink) (q : RefreshQueries) :
    HistoryContext :=
  let cache := (({ sizes := sizes } : FaultHistoryCache).bindDb true).1
  { faultCenter := ({} : FaultCenter).bindFaultDb
    faultHistoryCache := (cache.refreshAll q db 1).1
    db := db }

inductive HistoryEvent where
  | pass (edges : List FaultEdge) (q : RefreshQueries)
  | click (button : HistoryButton) (q : ButtonQueries)

def HistoryContext.step (cat : FaultCatalog) (ctx : HistoryContext) :
    HistoryEvent → HistoryContext
  | .pass edges q => ctx.refreshFaultPagesOnly cat edges q
  | .click button q => ctx.onHmiButtonClick button q

/-- Passes and page turns, from the binding of a table on. -/
def historyRuns (cat : FaultCatalog) (sizes : CacheSizes) (db : SqliteFaultSink)
    (q : RefreshQueries) : Machine HistoryContext HistoryEvent Empty where
  start := bindHistory sizes db q
  step ctx e := (ctx.step cat e, [])

/-! ### What a statement that fails leaves of the cache -/

/-- A refresh whose window is loaded. -/
structure RefreshQueries.Answered (q : RefreshQueries) : Prop where
  count : q.count.GivesRow
  latest : q.latest ≠ .notPrepared
  windowCount : q.windowCount.GivesRow
  range : q.range = .done

namespace FaultHistoryCache

/-- The window and the page count are those of the table. -/
structure Fresh (c : FaultHistoryCache) (db : SqliteFaultSink) : Prop where
  covers : c.Covers db
  totalPages : c.totalPages = countedPages c.sizes.pageSize db
  stop_le : c.windowEndPage ≤ c.totalPages

/-- A window, if there is one, is the table's. -/
def Settled (c : FaultHistoryCache) (db : SqliteFaultSink) : Prop :=
  c.windowStartPage = 0 ∨ c.Fresh db

/-- A cache with a database. -/
structure Ready (c : FaultHistoryCache) : Prop where
  bound : c.db = true
  valid : c.valid = true

theorem Ready.refreshMeta_cases {c : FaultHistoryCache} (h : c.Ready) (run : StatementRun)
    (db : SqliteFaultSink) :
    (c.refreshMeta run db = (c, false) ∧ ¬ run.GivesRow) ∨
      (c.refreshMeta run db = (c.counted db, true) ∧ run.GivesRow) := by
  have hdone := refreshMeta_done h.bound db
  cases run with
  | done => exact Or.inr ⟨hdone, by decide⟩
  | notPrepared =>
    left
    refine ⟨?_, by decide⟩
    rw [refreshMeta, if_pos h.bound]
    rfl
  | breaksOff k =>
    cases k with
    | zero =>
      left
      refine ⟨?_, by decide⟩
      rw [refreshMeta, if_pos h.bound]
      rfl
    | succ k =>
      right
      refine ⟨?_, ?_, ?_⟩
      · rw [← hdone]
        rfl
      · intro hrun
        cases hrun
      · intro hrun
        cases hrun

/-- The newest rows change nothing else. -/
theorem Ready.refreshHotCache_cases {c : FaultHistoryCache} (h : c.Ready)
    (run : StatementRun) (db : SqliteFaultSink) :
    (c.refreshHotCache run db = (c, false) ∧ run = .notPrepared) ∨
      ∃ rows, c.refreshHotCache run db = ({ c with hotRows := rows }, true) ∧
        run ≠ .notPrepared := by
  cases hload : db.loadLatestHistory run c.sizes.hotRowsLimit with
  | none =>
    left
    refine ⟨?_, SqliteFaultSink.loadLatestHistory_eq_none.mp hload⟩
    rw [refreshHotCache, if_pos h.bound, hload]
  | some rows =>
    right
    refine ⟨rows.map fromDb, ?_, ?_⟩
    · rw [refreshHotCache, if_pos h.bound, hload, ← h.valid]
    · intro hrun
      rw [SqliteFaultSink.loadLatestHistory_eq_none.mpr hrun] at hload
      cases hload

theorem Ready.counted {c : FaultHistoryCache} (h : c.Ready) (db : SqliteFaultSink) :
    (c.counted db).Ready :=
  ⟨h.bound, rfl⟩

theorem Ready.centered {c : FaultHistoryCache} (h : c.Ready) (db : SqliteFaultSink)
    (center : Nat) : (c.centered db center).Ready :=
  ⟨(db_centered c db center).trans h.bound, valid_centered c db center⟩

theorem loadWindow_notPrepared (c : FaultHistoryCache) (db : SqliteFaultSink)
    (start stop : Nat) : c.loadWindow .notPrepared db start stop = (c, false) := by
  have hlimit : (stop - start + 1) * c.sizes.pageSize ≠ 0 :=
    Nat.mul_ne_zero (Nat.succ_ne_zero _) (Nat.ne_of_gt c.sizes.pageSize_pos)
  rw [loadWindow, SqliteFaultSink.loadHistoryRange, if_neg hlimit]
  rfl

/-- A window query that does not break off loads the window or leaves it. -/
theorem Ready.refreshWindow_cases {c : FaultHistoryCache} (h : c.Ready)
    {count range : StatementRun} (hrange : range.Whole) (db : SqliteFaultSink)
    (center : Nat) :
    (c.refreshWindow count range db center = (c, false) ∧ ¬ count.GivesRow) ∨
      (c.refreshWindow count range db center = (c.counted db, false) ∧
        range = .notPrepared) ∨
      c.refreshWindow count range db center = (c.centered db center, true) := by
  obtain ⟨hmeta, hcount⟩ | ⟨hmeta, -⟩ := h.refreshMeta_cases count db
  · left
    refine ⟨?_, hcount⟩
    rw [refreshWindow, if_pos h.bound, hmeta]
    rfl
  · right
    have hdone := refreshWindow_done h.bound db center
    rw [refreshWindow, if_pos h.bound, refreshMeta_done h.bound] at hdone
    rw [refreshWindow, if_pos h.bound, hmeta]
    obtain rfl | rfl := hrange
    · exact Or.inr hdone
    · by_cases hnone : (c.counted db).totalPages = 0
      · rw [if_pos rfl, if_pos hnone] at hdone ⊢
        exact Or.inr hdone
      · left
        refine ⟨?_, rfl⟩
        rw [if_pos rfl, if_neg hnone]
        exact loadWindow_notPrepared _ _ _ _

theorem fresh_centered {c : FaultHistoryCache} {db : SqliteFaultSink}
    (h : countedPages c.sizes.pageSize db ≠ 0) (center : Nat) :
    (c.centered db center).Fresh db := by
  obtain ⟨-, -, -, hle⟩ := windowFor_spec h center
  refine ⟨covers_centered h center, ?_, ?_⟩
  · rw [totalPages_centered, sizes_centered]
  · rw [windowEndPage_centered h, totalPages_centered]
    exact hle

theorem settled_centered (c : FaultHistoryCache) (db : SqliteFaultSink) (center : Nat) :
    (c.centered db center).Settled db := by
  by_cases hnone : countedPages c.sizes.pageSize db = 0
  · left
    rw [centered, if_pos hnone]
    rfl
  · exact Or.inr (fresh_centered hnone center)

theorem Settled.counted {c : FaultHistoryCache} {db : SqliteFaultSink} (h : c.Settled db) :
    (c.counted db).Settled db := by
  obtain hempty | hfresh := h
  · exact Or.inl hempty
  · have hc := hfresh.covers
    refine Or.inr ⟨⟨hc.start_pos, hc.start_le, hc.stop_lt, hc.rows⟩, rfl, ?_⟩
    exact hfresh.stop_le.trans_eq hfresh.totalPages

theorem Settled.hotRows {c : FaultHistoryCache} {db : SqliteFaultSink} (h : c.Settled db)
    (rows : List HistoryFaultViewRow) : ({ c with hotRows := rows } : FaultHistoryCache).Settled
      db := by
  obtain hempty | hfresh := h
  · exact Or.inl hempty
  · have hc := hfresh.covers
    exact Or.inr ⟨⟨hc.start_pos, hc.start_le, hc.stop_lt, hc.rows⟩, hfresh.totalPages,
      hfresh.stop_le⟩

/-- A bound cache whose window is the table's, if there is one. -/
structure InStep (c : FaultHistoryCache) (db : SqliteFaultSink) : Prop extends c.Ready where
  settled : c.Settled db

theorem InStep.counted {c : FaultHistoryCache} {db : SqliteFaultSink} (h : c.InStep db) :
    (c.counted db).InStep db :=
  ⟨h.toReady.counted db, h.settled.counted⟩

theorem Ready.inStep_centered {c : FaultHistoryCache} (h : c.Ready) (db : SqliteFaultSink)
    (center : Nat) : (c.centered db center).InStep db :=
  ⟨h.centered db center, settled_centered c db center⟩

theorem InStep.refreshMeta {c : FaultHistoryCache} {db : SqliteFaultSink} (h : c.InStep db)
    (run : StatementRun) : (c.refreshMeta run db).1.InStep db := by
  obtain ⟨hr, -⟩ | ⟨hr, -⟩ := h.toReady.refreshMeta_cases run db
  · rw [hr]
    exact h
  · rw [hr]
    exact h.counted

theorem InStep.refreshHotCache {c : FaultHistoryCache} {db : SqliteFaultSink}
    (h : c.InStep db) (run : StatementRun) : (c.refreshHotCache run db).1.InStep db := by
  obtain ⟨hr, -⟩ | ⟨rows, hr, -⟩ := h.toReady.refreshHotCache_cases run db
  · rw [hr]
    exact h
  · rw [hr]
    exact ⟨⟨h.bound, h.valid⟩, h.settled.hotRows rows⟩

theorem InStep.refreshWindow {c : FaultHistoryCache} {db : SqliteFaultSink} (h : c.InStep db)
    {count range : StatementRun} (hrange : range.Whole) (center : Nat) :
    (c.refreshWindow count range db center).1.InStep db := by
  obtain ⟨hr, -⟩ | ⟨hr, -⟩ | hr := h.toReady.refreshWindow_cases hrange db center
  · rw [hr]
    exact h
  · rw [hr]
    exact h.counted
  · rw [hr]
    exact h.toReady.inStep_centered db center

theorem InStep.ensurePageLoaded {c : FaultHistoryCache} {db : SqliteFaultSink}
    (h : c.InStep db) {reload count range : StatementRun} (hrange : range.Whole)
    (page : Nat) : (c.ensurePageLoaded reload count range db page).1.InStep db := by
  rw [FaultHistoryCache.ensurePageLoaded, if_pos h.bound, if_pos h.valid, if_pos rfl]
  dsimp only
  split
  · exact ⟨⟨h.bound, h.valid⟩, Or.inl rfl⟩
  · split
    · exact h
    · exact h.refreshWindow hrange _

/-- What every call keeps whose window query runs as `range`. -/
structure Keeps (P : FaultHistoryCache → Prop) (db : SqliteFaultSink) (range : StatementRun) :
    Prop where
  refreshMeta : ∀ c run, P c → P (c.refreshMeta run db).1
  refreshHotCache : ∀ c run, P c → P (c.refreshHotCache run db).1
  refreshWindow : ∀ c count center, P c → P (c.refreshWindow count range db center).1
  ensurePageLoaded : ∀ c reload count page, P c →
    P (c.ensurePageLoaded reload count range db page).1

theorem keeps_inStep {range : StatementRun} (hrange : range.Whole) (db : SqliteFaultSink) :
    Keeps (fun c => c.InStep db) db range :=
  ⟨fun _ run h => h.refreshMeta run, fun _ run h => h.refreshHotCache run,
    fun _ _ center h => h.refreshWindow hrange center,
    fun _ _ _ page h => h.ensurePageLoaded hrange page⟩

theorem Ready.refreshMeta {c : FaultHistoryCache} (h : c.Ready) (run : StatementRun)
    (db : SqliteFaultSink) : (c.refreshMeta run db).1.Ready := by
  obtain ⟨hr, -⟩ | ⟨hr, -⟩ := h.refreshMeta_cases run db
  · rw [hr]
    exact h
  · rw [hr]
    exact h.counted db

theorem Ready.refreshHotCache {c : FaultHistoryCache} (h : c.Ready) (run : StatementRun)
    (db : SqliteFaultSink) : (c.refreshHotCache run db).1.Ready := by
  obtain ⟨hr, -⟩ | ⟨rows, hr, -⟩ := h.refreshHotCache_cases run db
  · rw [hr]
    exact h
  · rw [hr]
    exact ⟨h.bound, h.valid⟩

theorem Ready.refreshWindow {c : FaultHistoryCache} (h : c.Ready) (count range : StatementRun)
    (db : SqliteFaultSink) (center : Nat) : (c.refreshWindow count range db center).1.Ready := by
  have hcounted := h.refreshMeta count db
  rw [FaultHistoryCache.refreshWindow, if_pos h.bound]
  dsimp only
  split
  · split
    · exact ⟨hcounted.bound, rfl⟩
    · rw [loadWindow]
      split
      · exact hcounted
      · exact ⟨hcounted.bound, rfl⟩
  · exact hcounted

theorem Ready.ensurePageLoaded {c : FaultHistoryCache} (h : c.Ready)
    (reload count range : StatementRun) (db : SqliteFaultSink) (page : Nat) :
    (c.ensurePageLoaded reload count range db page).1.Ready := by
  rw [FaultHistoryCache.ensurePageLoaded, if_pos h.bound, if_pos h.valid, if_pos rfl]
  dsimp only
  split
  · exact ⟨h.bound, h.valid⟩
  · split
    · exact h
    · exact h.refreshWindow count range db _

theorem keeps_ready (db : SqliteFaultSink) (range : StatementRun) : Keeps Ready db range :=
  ⟨fun _ run h => h.refreshMeta run db, fun _ run h => h.refreshHotCache run db,
    fun _ count center h => h.refreshWindow count range db center,
    fun _ reload count page h => h.ensurePageLoaded reload count range db page⟩

theorem Keeps.refreshAll {P : FaultHistoryCache → Prop} {db : SqliteFaultSink}
    {q : RefreshQueries} (hP : Keeps P db q.range) {c : FaultHistoryCache} (h : P c)
    (page : Nat) : P (c.refreshAll q db page).1 := by
  have hcounted := hP.refreshMeta c q.count h
  have hhot := hP.refreshHotCache _ q.latest hcounted
  rw [FaultHistoryCache.refreshAll]
  split
  · dsimp only
    split
    · exact hP.refreshWindow _ _ page hhot
    · exact hhot
  · exact hcounted

theorem Keeps.reloadWindow {P : FaultHistoryCache → Prop} {db : SqliteFaultSink}
    {q : RefreshQueries} (hP : Keeps P db q.range) {c : FaultHistoryCache} (h : P c)
    (page : Nat) : P (c.reloadWindow q db page).1 := by
  have hcounted := hP.refreshMeta c q.count h
  rw [FaultHistoryCache.reloadWindow]
  split
  · exact hP.refreshWindow _ _ page hcounted
  · exact hcounted

/-- A window that is the table's shows the right page, in range. -/
theorem Fresh.shows {c : FaultHistoryCache} {db : SqliteFaultSink} (h : c.Fresh db)
    (hvalid : c.valid = true) (hrange : InRange c.sizes.pageSize db) {page : Nat}
    (hin : c.hasPageInWindow (c.clampPage page) = true) :
    c.pageRows page = historyPage c.sizes.pageSize db page := by
  have hstart := h.covers.start_pos
  have hle := h.covers.start_le
  have hstop := h.stop_le
  have htotal : c.totalPages ≠ 0 := by omega
  have hcount : countedPages c.sizes.pageSize db ≠ 0 := h.totalPages.symm.trans_ne htotal
  have hclamp : c.clampPage page = shownPage c.sizes.pageSize db page := by
    rw [clampPage, h.totalPages]
    exact hrange.clampTo_eq hcount page
  rw [h.covers.pageRows hvalid htotal hin]
  rw [hclamp] at hin ⊢
  have hfirst := ((h.covers.hasPageInWindow_iff _).mp hin).1
  rw [hrange.rowOffset_eq c.sizes.pageSize_pos (clearedRows_ne_nil hcount) hstart hfirst]
  rfl

/-- A load around a page shows it, in range. -/
theorem centered_shows {c : FaultHistoryCache} {db : SqliteFaultSink}
    (hrange : InRange c.sizes.pageSize db) (page : Nat) :
    (c.centered db page).pageRows page = historyPage c.sizes.pageSize db page := by
  have hsize := c.sizes.pageSize_pos
  have htotal := c.totalPages_centered db page
  by_cases hnone : countedPages c.sizes.pageSize db = 0
  · have hrows : db.clearedRows = [] := by
      rw [hrange.countedPages_eq c.sizes.pageSize_lt hsize, pageCount_eq_zero hsize] at hnone
      exact List.length_eq_zero_iff.mp hnone
    rw [pageRows_of_none (htotal.trans hnone), (historyPage_eq_nil_iff hsize).mpr hrows]
  · have hfresh := fresh_centered hnone page
    obtain ⟨-, hstart, hstop, -⟩ := windowFor_spec hnone page
    have hin : (c.centered db page).hasPageInWindow ((c.centered db page).clampPage page) =
        true := by
      rw [hfresh.covers.hasPageInWindow_iff, windowStartPage_centered hnone,
        windowEndPage_centered hnone, clampPage, htotal]
      exact ⟨hstart, hstop⟩
    rw [← sizes_centered c db page] at hrange ⊢
    exact hfresh.shows (valid_centered c db page) hrange hin

/-- The refresh loads the window around the page. -/
theorem Ready.refreshAll_answered {c : FaultHistoryCache} (h : c.Ready) {q : RefreshQueries}
    (hq : q.Answered) (db : SqliteFaultSink) (page : Nat) :
    ∃ c' : FaultHistoryCache, c'.sizes = c.sizes ∧ c'.Ready ∧
      c.refreshAll q db page = (c'.centered db page, true) := by
  obtain ⟨-, hno⟩ | ⟨hmeta, -⟩ := h.refreshMeta_cases q.count db
  · exact absurd hq.count hno
  · have hcounted := h.counted db
    obtain ⟨-, hno⟩ | ⟨rows, hhot, -⟩ := hcounted.refreshHotCache_cases q.latest db
    · exact absurd hno hq.latest
    · have hready : ({ c.counted db with hotRows := rows } : FaultHistoryCache).Ready :=
        ⟨hcounted.bound, hcounted.valid⟩
      refine ⟨{ c.counted db with hotRows := rows }, rfl, hready, ?_⟩
      rw [refreshAll, hmeta]
      dsimp only
      rw [if_pos rfl, hhot]
      dsimp only
      rw [if_pos rfl]
      obtain ⟨-, hno⟩ | ⟨-, hno⟩ | hwindow :=
        hready.refreshWindow_cases (Or.inl hq.range) db page
      · exact absurd hq.windowCount hno
      · rw [hq.range] at hno
        cases hno
      · exact hwindow

theorem Ready.reloadWindow_done {c : FaultHistoryCache} (h : c.Ready) (db : SqliteFaultSink)
    (page : Nat) : c.reloadWindow {} db page = ((c.counted db).centered db page, true) := by
  rw [reloadWindow, refreshMeta_done h.bound]
  exact refreshWindow_done (h.counted db).bound db page

end FaultHistoryCache

namespace HistoryContext

variable {cat : FaultCatalog}

/-- The cache is ready, and its window is the table's unless the history is marked. -/
structure Pending (ctx : HistoryContext) : Prop where
  ready : ctx.faultHistoryCache.Ready
  settled : ctx.faultCenter.historyDirty = true ∨ ctx.faultHistoryCache.Settled ctx.db

theorem Pending.inStep {ctx : HistoryContext} (h : ctx.Pending)
    (hclean : ctx.faultCenter.historyDirty = false) :
    ctx.faultHistoryCache.InStep ctx.db := by
  refine ⟨h.ready, ?_⟩
  obtain hdirty | hsettled := h.settled
  · rw [hclean] at hdirty
    cases hdirty
  · exact hsettled

/-- What changes the table marks the history. -/
theorem setActive_marks (c : FaultCenter) (db : SqliteFaultSink) (e : FaultEdge) :
    (c.setActive cat db e.code e.on e.ts).1.historyDirty = true ∨
      (c.setActive cat db e.code e.on e.ts).1.historyDirty = c.historyDirty ∧
        (c.setActive cat db e.code e.on e.ts).2 = db := by
  by_cases hsame : decide (e.code ∈ c.active) = e.on
  · rw [FaultCenter.setActive_of_eq cat hsame]
    exact Or.inr ⟨rfl, rfl⟩
  · obtain ⟨hon, hmem⟩ | ⟨hoff, hmem⟩ := FaultCenter.setActive_of_ne hsame
    · rw [hon, FaultCenter.setActive_begin cat hmem]
      split
      · exact Or.inl rfl
      · exact Or.inr ⟨rfl, rfl⟩
    · rw [hoff, FaultCenter.setActive_end cat hmem]
      cases FaultCenter.shouldRecordToDb cat e.code with
      | true => exact Or.inl rfl
      | false => exact Or.inr ⟨rfl, rfl⟩

theorem Pending.applyFaultPages {ctx : HistoryContext} (h : ctx.Pending)
    (edges : List FaultEdge) : (ctx.applyFaultPages cat edges).Pending := by
  induction edges generalizing ctx with
  | nil => exact h
  | cons e edges ih =>
    apply ih
    refine ⟨h.ready, ?_⟩
    obtain hmark | ⟨hmark, hdb⟩ := @setActive_marks cat ctx.faultCenter ctx.db e
    · exact Or.inl hmark
    · show (ctx.faultCenter.setActive cat ctx.db e.code e.on e.ts).1.historyDirty = true ∨
        ctx.faultHistoryCache.Settled (ctx.faultCenter.setActive cat ctx.db e.code e.on e.ts).2
      rw [hmark, hdb]
      exact h.settled

theorem refreshHistory_marked {ctx : HistoryContext}
    (h : ctx.faultCenter.historyDirty = true) (q : RefreshQueries) :
    ctx.refreshHistory q = { ctx with
      faultCenter := { ctx.faultCenter with historyDirty := false }
      faultHistoryCache := (ctx.faultHistoryCache.refreshAll q ctx.db ctx.historyPageNo).1
      historyCacheVersion :=
        if (ctx.faultHistoryCache.refreshAll q ctx.db ctx.historyPageNo).2 then
          ctx.faultCenter.historyVersion
        else ctx.historyCacheVersion } := by
  rw [refreshHistory, FaultCenter.consumeHistoryDirty, h]
  rfl

/-- Without a mark the window stays if it has the page. -/
theorem refreshHistory_unmarked {ctx : HistoryContext}
    (h : ctx.faultCenter.historyDirty = false) (q : RefreshQueries) :
    ctx.refreshHistory q = { ctx with
      faultHistoryCache :=
        if ctx.faultHistoryCache.hasPageInWindow ctx.historyPageNo then ctx.faultHistoryCache
        else (ctx.faultHistoryCache.reloadWindow q ctx.db ctx.historyPageNo).1 } := by
  have hcenter : { ctx.faultCenter with historyDirty := false } = ctx.faultCenter := by
    rw [← h]
  rw [refreshHistory, FaultCenter.consumeHistoryDirty, h, hcenter]
  cases ctx.faultHistoryCache.hasPageInWindow ctx.historyPageNo <;> rfl

/-- A pass that takes the mark loads the window, or needs not. -/
theorem Pending.refreshHistory {ctx : HistoryContext} (h : ctx.Pending) {q : RefreshQueries}
    (hwhole : q.range.Whole)
    (htake : ctx.faultCenter.historyDirty = true →
      q.Answered ∨ ctx.faultHistoryCache.Settled ctx.db) : (ctx.refreshHistory q).Pending := by
  have hkeeps := FaultHistoryCache.keeps_inStep hwhole ctx.db
  cases hdirty : ctx.faultCenter.historyDirty with
  | true =>
    have hcache : (ctx.faultHistoryCache.refreshAll q ctx.db ctx.historyPageNo).1.InStep
        ctx.db := by
      obtain hq | hsettled := htake hdirty
      · obtain ⟨c, -, hready, hr⟩ := h.ready.refreshAll_answered hq ctx.db ctx.historyPageNo
        rw [hr]
        exact hready.inStep_centered ctx.db ctx.historyPageNo
      · exact hkeeps.refreshAll ⟨h.ready, hsettled⟩ ctx.historyPageNo
    rw [refreshHistory_marked hdirty]
    exact ⟨hcache.toReady, Or.inr hcache.settled⟩
  | false =>
    have hstep := h.inStep hdirty
    have hcache : (if ctx.faultHistoryCache.hasPageInWindow ctx.historyPageNo then
        ctx.faultHistoryCache
      else (ctx.faultHistoryCache.reloadWindow q ctx.db ctx.historyPageNo).1).InStep ctx.db := by
      split
      · exact hstep
      · exact hkeeps.reloadWindow hstep ctx.historyPageNo
    rw [refreshHistory_unmarked hdirty]
    exact ⟨hcache.toReady, Or.inr hcache.settled⟩

/-- The rows of the page that is displayed are the table's. -/
def ShowsCurrent (ctx : HistoryContext) : Prop :=
  ctx.faultHistoryCache.pageRows ctx.historyPageNo =
    historyPage ctx.faultHistoryCache.sizes.pageSize ctx.db ctx.historyPageNo

instance (ctx : HistoryContext) : Decidable ctx.ShowsCurrent :=
  inferInstanceAs (Decidable (_ = _))

/-- With a healthy database the pass shows the displayed page. -/
theorem Pending.shows {ctx : HistoryContext} (h : ctx.Pending)
    (hrange : FaultHistoryCache.InRange ctx.faultHistoryCache.sizes.pageSize ctx.db) :
    (ctx.refreshHistory {}).ShowsCurrent := by
  cases hdirty : ctx.faultCenter.historyDirty with
  | true =>
    obtain ⟨c, hsizes, -, hr⟩ := h.ready.refreshAll_answered (q := {})
      ⟨by decide, by decide, by decide, rfl⟩ ctx.db ctx.historyPageNo
    rw [refreshHistory_marked hdirty, hr]
    rw [← hsizes] at hrange
    show (c.centered ctx.db ctx.historyPageNo).pageRows ctx.historyPageNo =
      historyPage (c.centered ctx.db ctx.historyPageNo).sizes.pageSize ctx.db ctx.historyPageNo
    rw [FaultHistoryCache.sizes_centered]
    exact FaultHistoryCache.centered_shows hrange ctx.historyPageNo
  | false =>
    have hstep := h.inStep hdirty
    rw [refreshHistory_unmarked hdirty, ShowsCurrent]
    dsimp only
    split
    · rename_i hin
      obtain hempty | hfresh := hstep.settled
      · rw [FaultHistoryCache.hasPageInWindow_of_empty hempty] at hin
        cases hin
      · have hbounds := (hfresh.covers.hasPageInWindow_iff _).mp hin
        have hstop := hfresh.stop_le
        have hstart := hfresh.covers.start_pos
        have hclamp : ctx.faultHistoryCache.clampPage ctx.historyPageNo = ctx.historyPageNo := by
          rw [FaultHistoryCache.clampPage, FaultHistoryCache.clampTo_eq_clamp (by omega)]
          exact clamp_of_le (by omega) (by omega)
        apply hfresh.shows hstep.valid hrange
        rw [hclamp]
        exact hin
    · rw [h.ready.reloadWindow_done ctx.db ctx.historyPageNo, FaultHistoryCache.sizes_centered]
      exact FaultHistoryCache.centered_shows hrange ctx.historyPageNo

theorem Keeps.refreshForPage {P : FaultHistoryCache → Prop} {ctx : HistoryContext}
    {q : ButtonQueries} (hP : FaultHistoryCache.Keeps P ctx.db q.range)
    (h : P ctx.faultHistoryCache) (page : Nat) :
    P (ctx.refreshForPage q page).faultHistoryCache := by
  have hcounted := hP.refreshMeta _ q.pageCount h
  rw [HistoryContext.refreshForPage]
  dsimp only
  split
  · split
    · exact hP.refreshWindow _ _ 1 hcounted
    · exact hP.ensurePageLoaded _ _ _ _ hcounted
  · exact hcounted

theorem refreshForPage_frame (ctx : HistoryContext) (q : ButtonQueries) (page : Nat) :
    (ctx.refreshForPage q page).faultCenter = ctx.faultCenter ∧
      (ctx.refreshForPage q page).db = ctx.db := by
  rw [refreshForPage]
  dsimp only
  split
  · split <;> exact ⟨rfl, rfl⟩
  · exact ⟨rfl, rfl⟩

theorem Keeps.onHmiButtonClick {P : FaultHistoryCache → Prop} {ctx : HistoryContext}
    {q : ButtonQueries} (hP : FaultHistoryCache.Keeps P ctx.db q.range)
    (h : P ctx.faultHistoryCache) (button : HistoryButton) :
    P (ctx.onHmiButtonClick button q).faultHistoryCache := by
  have hcounted := hP.refreshMeta _ q.count h
  rw [HistoryContext.onHmiButtonClick]
  split
  · exact Keeps.refreshForPage hP h 1
  · dsimp only
    split
    · split
      · exact hP.refreshWindow _ _ 1 hcounted
      · exact @Keeps.refreshForPage P
          { ctx with
            faultHistoryCache := (ctx.faultHistoryCache.refreshMeta q.count ctx.db).1 }
          q hP hcounted _
    · exact hcounted

theorem onHmiButtonClick_frame (ctx : HistoryContext) (button : HistoryButton)
    (q : ButtonQueries) :
    (ctx.onHmiButtonClick button q).faultCenter = ctx.faultCenter ∧
      (ctx.onHmiButtonClick button q).db = ctx.db := by
  rw [onHmiButtonClick]
  split
  · exact refreshForPage_frame ctx q 1
  · dsimp only
    split
    · split
      · exact ⟨rfl, rfl⟩
      · exact refreshForPage_frame _ q _
    · exact ⟨rfl, rfl⟩

/-- A page turn takes no mark. -/
theorem Pending.onHmiButtonClick {ctx : HistoryContext} (h : ctx.Pending) {q : ButtonQueries}
    (hwhole : q.range.Whole) (button : HistoryButton) :
    (ctx.onHmiButtonClick button q).Pending := by
  obtain ⟨hcenter, hdb⟩ := onHmiButtonClick_frame ctx button q
  refine ⟨Keeps.onHmiButtonClick (FaultHistoryCache.keeps_ready ctx.db q.range) h.ready button,
    ?_⟩
  rw [hcenter, hdb]
  obtain hdirty | hsettled := h.settled
  · exact Or.inl hdirty
  · right
    exact (Keeps.onHmiButtonClick (FaultHistoryCache.keeps_inStep hwhole ctx.db)
      ⟨h.ready, hsettled⟩ button).settled

/-! ### Runs -/

theorem pending_bindHistory (sizes : CacheSizes) (db : SqliteFaultSink) (q : RefreshQueries) :
    (bindHistory sizes db q).Pending := by
  refine ⟨?_, Or.inl rfl⟩
  have hbound : (({ sizes := sizes } : FaultHistoryCache).bindDb true).1.Ready := ⟨rfl, rfl⟩
  exact (FaultHistoryCache.keeps_ready db q.range).refreshAll hbound 1

variable (cat) in
/-- No window query breaks off; a pass that takes the mark loads the window, unless there is
none or it is the table's already; a pass with a healthy database finds a table whose pages fit
into 16 bits. -/
def KeepsMark (ctx : HistoryContext) : HistoryEvent → Prop
  | .pass edges q =>
    let mapped := ctx.applyFaultPages cat edges
    q.range.Whole ∧
      (mapped.faultCenter.historyDirty = true →
        q.Answered ∨ mapped.faultHistoryCache.Settled mapped.db) ∧
      (q = {} →
        FaultHistoryCache.InRange mapped.faultHistoryCache.sizes.pageSize mapped.db)
  | .click _ q => q.range.Whole

theorem Pending.step {ctx : HistoryContext} (h : ctx.Pending) {e : HistoryEvent}
    (he : ctx.KeepsMark cat e) : (ctx.step cat e).Pending := by
  cases e with
  | pass edges q => exact (h.applyFaultPages edges).refreshHistory he.1 he.2.1
  | click button q => exact h.onHmiButtonClick he button

end HistoryContext

/-- In a run whose steps keep the mark, every pass with a healthy database shows the rows that
the table has then. -/
theorem current_page_shown (cat : FaultCatalog) (sizes : CacheSizes) (db : SqliteFaultSink)
    (q : RefreshQueries) {es : List HistoryEvent}
    (h : (historyRuns cat sizes db q).EveryStep (fun ctx e => ctx.KeepsMark cat e) es)
    {pre : List HistoryEvent} {edges : List FaultEdge} (hpre : pre ++ [.pass edges {}] <+: es) :
    ((historyRuns cat sizes db q).run (pre ++ [.pass edges {}])).ShowsCurrent := by
  have hall : (historyRuns cat sizes db q).EveryStep (fun ctx e => ctx.KeepsMark cat e)
      (pre ++ [.pass edges {}]) := fun pre' e hpre' => h pre' e (hpre'.trans hpre)
  obtain ⟨hbefore, hlast⟩ := ((historyRuns cat sizes db q).everyStep_snoc).mp hall
  have hpending : ((historyRuns cat sizes db q).run pre).Pending :=
    hbefore.invariant (HistoryContext.pending_bindHistory sizes db q)
      fun _ _ hctx he => hctx.step he
  rw [Machine.run_snoc]
  exact (hpending.applyFaultPages edges).shows (hlast.2.2 rfl)

/-- One fault that has come and gone. -/
def clearedTable : SqliteFaultSink :=
  { rows :=
      [{ id := 1, code := 0x1001, firstOnMs := 1000, clearMs := 2000, seqNo := 1, state := 0 }]
    nextId := 2 }

/-- A catalogue in which every code is recorded. -/
def everyCodeRecorded : FaultCatalog := fun _ => some ⟨"fault", "pcs", true, 1⟩

/-- The binding and the first pass fail; there is no window yet, so nothing is lost. -/
theorem current_page_shown_late :
    ((historyRuns everyCodeRecorded {} clearedTable { count := .notPrepared }).run
      ([.pass [] { latest := .notPrepared }] ++ [.pass [] {}])).ShowsCurrent := by
  apply current_page_shown everyCodeRecorded {} clearedTable { count := .notPrepared } _
    (List.prefix_refl _)
  rw [Machine.everyStep_snoc, ← List.nil_append [HistoryEvent.pass _ _], Machine.everyStep_snoc]
  refine ⟨⟨Machine.everyStep_nil _ _, ?_⟩, ?_⟩
  · exact ⟨Or.inl rfl, fun _ => Or.inr (Or.inl rfl), nofun⟩
  · exact ⟨Or.inl rfl, nofun, fun _ => ⟨by decide, by decide⟩⟩

/-- A fault comes and goes in a pass whose count query fails; the next pass is healthy and
shows the page without it. -/
theorem lost_history_refresh :
    let es : List HistoryEvent :=
      [.pass [] {},
        .pass [⟨0x1002, true, 3000⟩, ⟨0x1002, false, 4000⟩] { count := .notPrepared },
        .pass [] {}]
    let ctx := (historyRuns everyCodeRecorded {} clearedTable {}).run es
    ¬ ctx.ShowsCurrent ∧ ctx.historyPageNo = 1 ∧
      (ctx.faultHistoryCache.pageRows 1).map HistoryFaultViewRow.code = [0x1001] ∧
      (historyPage 5 ctx.db 1).map HistoryFaultViewRow.code = [0x1002, 0x1001] := by
  decide

end Fault
end EnergyStorage
