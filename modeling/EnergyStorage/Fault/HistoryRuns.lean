import EnergyStorage.Lib.Machine
import EnergyStorage.Fault.HistoryCache

/-! # The history cache under any order of calls -/

namespace EnergyStorage
namespace Fault

open Lib Lib.Paging

namespace FaultHistoryCache

theorem Holds.centered {c : FaultHistoryCache} {src : SqliteFaultSink} (h : c.Holds src)
    (hdb : c.db = true) (db : SqliteFaultSink) (center : Nat) :
    (c.centered db center).Holds db := by
  constructor
  · rw [valid_centered, db_centered, hdb]
  · rw [hotRows_centered, sizes_centered]
    exact h.hotRows
  · by_cases hnone : countedPages c.sizes.pageSize db = 0
    · rw [FaultHistoryCache.centered, if_pos hnone]
      exact Or.inl rfl
    · exact Or.inr (covers_centered hnone center)

theorem Holds.clearWindow {c : FaultHistoryCache} {src : SqliteFaultSink} (h : c.Holds src) :
    c.clearWindow.Holds src :=
  ⟨h.valid, h.hotRows, Or.inl rfl⟩

theorem Holds.counted {c : FaultHistoryCache} {src : SqliteFaultSink} (h : c.Holds src)
    (hdb : c.db = true) (db : SqliteFaultSink) : (c.counted db).Holds src := by
  refine ⟨hdb.symm, h.hotRows, ?_⟩
  obtain hempty | hcovers := h.window
  · exact Or.inl hempty
  · exact Or.inr ⟨hcovers.start_pos, hcovers.start_le, hcovers.stop_lt, hcovers.rows⟩

theorem holds_invalidate (c : FaultHistoryCache) (src : SqliteFaultSink) :
    c.invalidate.Holds src :=
  ⟨rfl, Nat.zero_le _, Or.inl rfl⟩

theorem holds_bindDb (c : FaultHistoryCache) (db : Bool) (src : SqliteFaultSink) :
    (c.bindDb db).1.Holds src :=
  ⟨rfl, Nat.zero_le _, Or.inl rfl⟩

theorem length_latest_le {limit : Nat} (h : limit < 2 ^ 16)
    {rows : List FaultHistoryDbRecord} : (limitOffset (bindInt limit) 0 rows).length ≤ limit := by
  have hnonneg : ¬ bindInt limit < 0 := by
    have hmod : limit % 2 ^ 32 = limit := Nat.mod_eq_of_lt (by omega)
    rw [bindInt, BitVec.toInt_eq_toNat_cond, BitVec.toNat_ofNat, hmod, if_pos (by omega)]
    omega
  rw [limitOffset, if_neg hnonneg, toNat_bindInt_of_nonneg (by omega) hnonneg]
  exact List.length_take_le _ _

theorem Holds.refreshHotCache {c : FaultHistoryCache} {src : SqliteFaultSink} (h : c.Holds src)
    (latest : StatementRun) (db : SqliteFaultSink) :
    (c.refreshHotCache latest db).1.Holds src := by
  have hrows : ∀ rows, db.loadLatestHistory latest c.sizes.hotRowsLimit = some rows →
      rows.length ≤ c.sizes.hotRowsLimit := by
    intro rows hload
    have hall : (limitOffset (bindInt c.sizes.hotRowsLimit) 0 db.clearedRows).length ≤
        c.sizes.hotRowsLimit := length_latest_le c.sizes.hotRowsLimit_lt
    cases latest with
    | done =>
      rw [← Option.some_inj.mp hload]
      exact hall
    | notPrepared => cases hload
    | breaksOff k =>
      rw [← Option.some_inj.mp hload]
      exact (List.length_take_le' _ _).trans hall
  rw [FaultHistoryCache.refreshHotCache]
  split
  · rename_i hdb
    split
    · exact h
    · rename_i rows hload
      refine ⟨hdb.symm, ?_, ?_⟩
      · show (rows.map fromDb).length ≤ c.sizes.hotRowsLimit
        rw [List.length_map]
        exact hrows rows hload
      · obtain hempty | hcovers := h.window
        · exact Or.inl hempty
        · exact Or.inr ⟨hcovers.start_pos, hcovers.start_le, hcovers.stop_lt, hcovers.rows⟩
  · exact h

end FaultHistoryCache

open FaultHistoryCache

/-- The row numbers of the table are a key. -/
abbrev FaultTable := { db : SqliteFaultSink // db.Numbered }

inductive CacheCall where
  | bindDb (db : Bool)
  | invalidate
  | refreshMeta
  | refreshHotCache
  | refreshWindow (center : Nat)
  | ensurePageLoaded (page : Nat)

/-- A call with a healthy database, and what it returns. -/
def FaultHistoryCache.call (c : FaultHistoryCache) (db : SqliteFaultSink) :
    CacheCall → FaultHistoryCache × List Bool
  | .bindDb bound => ((c.bindDb bound).1, [(c.bindDb bound).2])
  | .invalidate => (c.invalidate, [])
  | .refreshMeta => ((c.refreshMeta .done db).1, [(c.refreshMeta .done db).2])
  | .refreshHotCache => ((c.refreshHotCache .done db).1, [(c.refreshHotCache .done db).2])
  | .refreshWindow center =>
    let r := c.refreshWindow .done .done db center
    (r.1, [r.2])
  | .ensurePageLoaded page =>
    let r := c.ensurePageLoaded .done .done .done db page
    (r.1, [r.2])

/-- Whether a call asks for the rows of a window. -/
def FaultHistoryCache.loadsWindow (c : FaultHistoryCache) : CacheCall → Bool
  | .refreshWindow _ => c.db
  | .ensurePageLoaded page =>
    c.db && c.totalPages != 0 && !c.hasPageInWindow (c.clampPage page)
  | _ => false

/-- The cache, and the table as it was when the window was loaded. -/
structure CacheRun where
  cache : FaultHistoryCache
  loadedFrom : SqliteFaultSink

/-- Calls one after the other, each with the table as it is then. -/
def cacheRuns (sizes : CacheSizes) : Machine CacheRun (CacheCall × FaultTable) Bool where
  start := ⟨{ sizes := sizes }, {}⟩
  step s e :=
    ({ cache := (s.cache.call e.2.1 e.1).1
       loadedFrom := if s.cache.loadsWindow e.1 then e.2.1 else s.loadedFrom },
      (s.cache.call e.2.1 e.1).2)

theorem FaultHistoryCache.Holds.call {c : FaultHistoryCache} {src : SqliteFaultSink}
    (h : c.Holds src) (db : SqliteFaultSink) (call : CacheCall) :
    (c.call db call).1.Holds (if c.loadsWindow call then db else src) := by
  cases call with
  | bindDb bound => exact holds_bindDb c bound src
  | invalidate => exact holds_invalidate c src
  | refreshMeta =>
    show (c.refreshMeta .done db).1.Holds src
    by_cases hdb : c.db = true
    · rw [refreshMeta_done hdb]
      exact h.counted hdb db
    · rw [FaultHistoryCache.refreshMeta, if_neg hdb]
      exact h
  | refreshHotCache => exact h.refreshHotCache .done db
  | refreshWindow center =>
    show (c.refreshWindow .done .done db center).1.Holds (if c.db then db else src)
    by_cases hdb : c.db = true
    · rw [refreshWindow_done hdb, if_pos hdb]
      exact h.centered hdb db center
    · rw [FaultHistoryCache.refreshWindow, if_neg hdb, if_neg hdb]
      exact h
  | ensurePageLoaded page =>
    show (c.ensurePageLoaded .done .done .done db page).1.Holds
      (if c.db && c.totalPages != 0 && !c.hasPageInWindow (c.clampPage page) then db else src)
    by_cases hdb : c.db = true
    · rw [ensurePageLoaded_done hdb (h.valid.trans hdb), hdb]
      by_cases hnone : c.totalPages = 0
      · rw [if_pos hnone, hnone]
        exact h.clearWindow
      · rw [if_neg hnone, bne_iff_ne.mpr hnone]
        cases hin : c.hasPageInWindow (c.clampPage page) with
        | true => exact h
        | false => exact h.centered hdb db _
    · rw [FaultHistoryCache.ensurePageLoaded, if_neg hdb, Bool.eq_false_iff.mpr hdb]
      exact h

theorem holds_run (sizes : CacheSizes) (calls : List (CacheCall × FaultTable)) :
    ((cacheRuns sizes).run calls).cache.Holds ((cacheRuns sizes).run calls).loadedFrom := by
  refine (cacheRuns sizes).run_induction (R := fun _ s => s.cache.Holds s.loadedFrom) ?_ ?_ calls
  · exact ⟨rfl, Nat.zero_le _, Or.inl rfl⟩
  · intro pre e ih
    exact ih.call e.2.1 e.1

theorem sizes_call (c : FaultHistoryCache) (db : SqliteFaultSink) (call : CacheCall) :
    (c.call db call).1.sizes = c.sizes := by
  cases call with
  | bindDb bound => rfl
  | invalidate => rfl
  | refreshMeta => exact (refreshMeta_setup c .done db).1
  | refreshHotCache => exact (refreshHotCache_setup c .done db).1
  | refreshWindow center => exact (refreshWindow_setup c .done .done db center).1
  | ensurePageLoaded page => exact (ensurePageLoaded_setup c .done .done .done db page).1

theorem sizes_run (sizes : CacheSizes) (calls : List (CacheCall × FaultTable)) :
    ((cacheRuns sizes).run calls).cache.sizes = sizes := by
  refine (cacheRuns sizes).run_induction (R := fun _ s => s.cache.sizes = sizes) rfl ?_ calls
  intro pre e ih
  exact (sizes_call _ e.2.1 e.1).trans ih

/-- When the cache is asked for a page with the table as it is now, whether it shows it:
without a page count only an empty history is shown; a page in the window is shown as it was
when the window was loaded; otherwise the window is loaded. -/
def CacheRun.Shows (s : CacheRun) (db : SqliteFaultSink) (page : Nat) : Prop :=
  let c := s.cache
  if c.totalPages = 0 then db.clearedRows = []
  else if c.hasPageInWindow (c.clampPage page) then
    slice (rowOffset c.sizes.pageSize c.windowStartPage (c.clampPage page)) c.sizes.pageSize
      (viewRows s.loadedFrom) = historyPage c.sizes.pageSize db page
  else Reaches c.sizes db (c.clampPage page) page

/-- Whatever calls were made and however the table changed meanwhile. -/
theorem page_shown_iff (sizes : CacheSizes) (calls : List (CacheCall × FaultTable))
    (db : FaultTable) (page : Nat) :
    let s := (cacheRuns sizes).run calls
    let r := s.cache.ensurePageLoaded .done .done .done db.1 page
    (r.2 = true → r.1.pageRows page = historyPage sizes.pageSize db.1 page) ↔
      (s.cache.db = true → s.Shows db.1 page) := by
  intro s r
  have hholds : s.cache.Holds s.loadedFrom := holds_run sizes calls
  have hsizes : s.cache.sizes = sizes := sizes_run sizes calls
  cases hdb : s.cache.db with
  | false =>
    have hret : r.2 = false := by
      show (s.cache.ensurePageLoaded .done .done .done db.1 page).2 = false
      rw [ensurePageLoaded, hdb]
      rfl
    rw [hret]
    exact iff_of_true Bool.noConfusion Bool.noConfusion
  | true =>
    have hvalid : s.cache.valid = true := hholds.valid.trans hdb
    have hr := ensurePageLoaded_done hdb hvalid .done db.1 page
    have hsize := s.cache.sizes.pageSize_pos
    show ((s.cache.ensurePageLoaded .done .done .done db.1 page).2 = true →
      (s.cache.ensurePageLoaded .done .done .done db.1 page).1.pageRows page = _) ↔ _
    rw [hr, ← hsizes, forall_prop_of_true rfl, forall_prop_of_true rfl, CacheRun.Shows]
    dsimp only
    by_cases hnone : s.cache.totalPages = 0
    · have hcleared : s.cache.clearWindow.totalPages = 0 := hnone
      rw [if_pos hnone, if_pos hnone, pageRows_of_none hcleared, eq_comm,
        historyPage_eq_nil_iff hsize]
    · rw [if_neg hnone, if_neg hnone]
      cases hin : s.cache.hasPageInWindow (s.cache.clampPage page) with
      | true =>
        obtain hempty | hcovers := hholds.window
        · rw [hasPageInWindow_of_empty hempty] at hin
          cases hin
        · rw [if_pos rfl, if_pos rfl, hcovers.pageRows hvalid hnone hin]
      | false =>
        rw [if_neg Bool.false_ne_true, if_neg Bool.false_ne_true]
        apply centered_shows_iff hholds.hotRows db.2
        by_cases hcount : countedPages s.cache.sizes.pageSize db.1 = 0
        · rw [hcount]
          exact Nat.le_refl 1
        · rw [clampTo_eq_clamp hcount, clampTo_eq_clamp hcount, clampPage, clampTo_eq_clamp hnone]
          exact clamp_clamp_le _ _ _

/-- The window, if there is one, and the page count, if there is one, are the table's. -/
structure CacheRun.Unchanged (s : CacheRun) (db : SqliteFaultSink) : Prop where
  window : s.cache.windowStartPage = 0 ∨ s.loadedFrom = db
  totalPages : s.cache.totalPages = 0 ∨
    s.cache.totalPages = countedPages s.cache.sizes.pageSize db

theorem refreshHotCache_window (c : FaultHistoryCache) (latest : StatementRun)
    (db : SqliteFaultSink) :
    (c.refreshHotCache latest db).1.windowStartPage = c.windowStartPage ∧
      (c.refreshHotCache latest db).1.totalPages = c.totalPages := by
  unfold FaultHistoryCache.refreshHotCache
  split
  · split <;> exact ⟨rfl, rfl⟩
  · exact ⟨rfl, rfl⟩

theorem CacheRun.Unchanged.step {sizes : CacheSizes} {s : CacheRun} {db : FaultTable}
    (h : s.Unchanged db.1) (hvalid : s.cache.valid = s.cache.db) (call : CacheCall) :
    ((cacheRuns sizes).step s (call, db)).1.Unchanged db.1 := by
  have hcentered : ∀ center,
      (⟨s.cache.centered db.1 center, db.1⟩ : CacheRun).Unchanged db.1 := by
    intro center
    refine ⟨Or.inr rfl, Or.inr ?_⟩
    rw [totalPages_centered, sizes_centered]
  cases call with
  | bindDb bound => exact ⟨Or.inl rfl, Or.inl rfl⟩
  | invalidate => exact ⟨Or.inl rfl, Or.inl rfl⟩
  | refreshMeta =>
    show (⟨(s.cache.refreshMeta .done db.1).1, s.loadedFrom⟩ : CacheRun).Unchanged db.1
    by_cases hdb : s.cache.db = true
    · rw [refreshMeta_done hdb]
      exact ⟨h.window, Or.inr rfl⟩
    · rw [FaultHistoryCache.refreshMeta, if_neg hdb]
      exact h
  | refreshHotCache =>
    obtain ⟨hstart, htotal⟩ := refreshHotCache_window s.cache .done db.1
    have hsizes := (refreshHotCache_setup s.cache .done db.1).1
    constructor
    · show (s.cache.refreshHotCache .done db.1).1.windowStartPage = 0 ∨ s.loadedFrom = db.1
      rw [hstart]
      exact h.window
    · show (s.cache.refreshHotCache .done db.1).1.totalPages = 0 ∨
        (s.cache.refreshHotCache .done db.1).1.totalPages =
          countedPages (s.cache.refreshHotCache .done db.1).1.sizes.pageSize db.1
      rw [htotal, hsizes]
      exact h.totalPages
  | refreshWindow center =>
    show (⟨(s.cache.refreshWindow .done .done db.1 center).1,
      if s.cache.db then db.1 else s.loadedFrom⟩ : CacheRun).Unchanged db.1
    by_cases hdb : s.cache.db = true
    · rw [refreshWindow_done hdb, if_pos hdb]
      exact hcentered center
    · rw [FaultHistoryCache.refreshWindow, if_neg hdb, if_neg hdb]
      exact h
  | ensurePageLoaded page =>
    show (⟨(s.cache.ensurePageLoaded .done .done .done db.1 page).1,
      if s.cache.db && s.cache.totalPages != 0 &&
        !s.cache.hasPageInWindow (s.cache.clampPage page) then db.1
      else s.loadedFrom⟩ : CacheRun).Unchanged db.1
    by_cases hdb : s.cache.db = true
    · rw [ensurePageLoaded_done hdb (hvalid.trans hdb), hdb]
      by_cases hnone : s.cache.totalPages = 0
      · rw [if_pos hnone, hnone]
        exact ⟨Or.inl rfl, Or.inl hnone⟩
      · rw [if_neg hnone, bne_iff_ne.mpr hnone]
        cases hin : s.cache.hasPageInWindow (s.cache.clampPage page) with
        | true => exact h
        | false => exact hcentered _
    · rw [FaultHistoryCache.ensurePageLoaded, if_neg hdb, Bool.eq_false_iff.mpr hdb]
      exact h

theorem unchanged_run (sizes : CacheSizes) (db : FaultTable) (calls : List CacheCall) :
    ((cacheRuns sizes).run (calls.map (·, db))).Unchanged db.1 := by
  induction calls using List.reverseRecOn with
  | nil => exact ⟨Or.inl rfl, Or.inl rfl⟩
  | append_singleton calls call ih =>
    rw [List.map_append, List.map_singleton, Machine.run_snoc]
    exact ih.step (holds_run sizes _).valid call

/-- With one table whose pages fit into 16 bits a bound cache shows every page, except that
before the page count is read it only shows an empty history. -/
theorem shows_iff_of_unchanged (sizes : CacheSizes) {db : FaultTable}
    (h : InRange sizes.pageSize db.1) (calls : List CacheCall) (page : Nat) :
    let s := (cacheRuns sizes).run (calls.map (·, db))
    s.Shows db.1 page ↔ (s.cache.totalPages = 0 → db.1.clearedRows = []) := by
  intro s
  have hsizes : s.cache.sizes = sizes := sizes_run sizes _
  have hholds : s.cache.Holds s.loadedFrom := holds_run sizes _
  have hsame : s.Unchanged db.1 := unchanged_run sizes db calls
  have hsize := sizes.pageSize_pos
  unfold CacheRun.Shows
  dsimp only
  by_cases hnone : s.cache.totalPages = 0
  · rw [if_pos hnone, forall_prop_of_true hnone]
  · rw [if_neg hnone]
    apply iff_of_true
    · have htotal : s.cache.totalPages = countedPages sizes.pageSize db.1 := by
        rw [← hsizes]
        exact hsame.totalPages.resolve_left hnone
      have hcount : countedPages sizes.pageSize db.1 ≠ 0 := htotal.symm.trans_ne hnone
      have hclamp : s.cache.clampPage page = clampTo (countedPages sizes.pageSize db.1) page :=
        congrArg (clampTo · page) htotal
      rw [hsizes]
      split
      · rename_i hin
        obtain hempty | hcovers := hholds.window
        · rw [hasPageInWindow_of_empty hempty] at hin
          cases hin
        · have hsrc := hsame.window.resolve_left (Nat.ne_of_gt hcovers.start_pos)
          have hstart := ((hcovers.hasPageInWindow_iff _).mp hin).1
          rw [hclamp, h.clampTo_eq hcount] at hstart ⊢
          rw [hsrc, slice_eq_historyPage_iff hsize db.2 (clearedRows_ne_nil hcount)]
          exact h.rowOffset_eq hsize (clearedRows_ne_nil hcount) hcovers.start_pos hstart
      · apply h.reaches
        rw [hclamp, clampTo_clampTo]
    · intro h0
      exact absurd h0 hnone

/-- A table with one cleared fault. -/
def oneCleared : FaultTable :=
  ⟨{ rows :=
      [{ id := 1, code := 0x1001, firstOnMs := 1000, clearMs := 2000, seqNo := 1, state := 0 }]
     nextId := 2 },
    ⟨by decide, by decide, by decide⟩⟩

/-- Right after `bindDb` the page count is 0 and counts as known. -/
theorem bound_history_hidden :
    let s := (cacheRuns {}).run [(.bindDb true, oneCleared)]
    let r := s.cache.ensurePageLoaded .done .done .done oneCleared.1 1
    r.2 = true ∧ r.1.pageRows 1 = [] ∧
      historyPage 5 oneCleared.1 1 = [⟨1, 0x1001, 1000, 2000, 1, 0, "", "", 9999⟩] := by
  decide

end Fault
end EnergyStorage
