import EnergyStorage.Fault.PageRefresh

/-! # Turning the history pages

The buttons count the history anew, step from the page that is shown and stay within the pages
that are counted.  The count is kept in 16 bits. -/

namespace EnergyStorage
namespace Fault

open Lib Lib.Paging

namespace FaultHistoryCache

theorem refreshMeta_cases (c : FaultHistoryCache) (run : StatementRun) (db : SqliteFaultSink) :
    c.refreshMeta run db = (c, false) ∨ c.refreshMeta run db = (c.counted db, true) := by
  by_cases hbound : c.db = true
  · have hdone := refreshMeta_done hbound db
    unfold refreshMeta at hdone ⊢
    rw [if_pos hbound] at hdone ⊢
    cases run with
    | done => exact Or.inr hdone
    | notPrepared => exact Or.inl rfl
    | breaksOff k =>
      cases k with
      | zero => exact Or.inl rfl
      | succ k => exact Or.inr hdone
  · exact Or.inl (if_neg hbound)

/-- What is told of the sizes and the page count, and holds after a count, is kept. -/
theorem keeps_of_pages {P : FaultHistoryCache → Prop} {db : SqliteFaultSink}
    (hcounted : ∀ c, P c → P (c.counted db))
    (hframe : ∀ c c' : FaultHistoryCache, c'.sizes = c.sizes → c'.totalPages = c.totalPages →
      P c → P c') (range : StatementRun) : Keeps P db range := by
  have hmeta : ∀ c run, P c → P (c.refreshMeta run db).1 := by
    intro c run hc
    obtain h | h := c.refreshMeta_cases run db
    · rw [h]
      exact hc
    · rw [h]
      exact hcounted c hc
  have hwindow : ∀ c count center, P c → P (c.refreshWindow count range db center).1 := by
    intro c count center hc
    have hcount := hmeta c count hc
    unfold refreshWindow
    split
    · dsimp only
      split
      · split
        · exact hframe (c.refreshMeta count db).1 _ rfl rfl hcount
        · unfold loadWindow
          split
          · exact hcount
          · exact hframe (c.refreshMeta count db).1 _ rfl rfl hcount
      · exact hcount
    · exact hc
  refine ⟨hmeta, fun c run hc => ?_, hwindow, fun c reload count page hc => ?_⟩
  · unfold refreshHotCache
    split
    · split
      · exact hc
      · exact hframe c _ rfl rfl hc
    · exact hc
  · have hloaded : P (if c.valid then (c, true) else c.refreshMeta reload db).1 := by
      split
      · exact hc
      · exact hmeta c reload hc
    unfold ensurePageLoaded
    generalize (if c.valid then (c, true) else c.refreshMeta reload db) = loaded at hloaded
    split
    · dsimp only
      split
      · split
        · exact hframe loaded.1 _ rfl rfl hloaded
        · split
          · exact hloaded
          · exact hwindow _ _ _ hloaded
      · exact hloaded
    · exact hc

theorem keeps_sizes (sizes : CacheSizes) (db : SqliteFaultSink) (range : StatementRun) :
    Keeps (fun c => c.sizes = sizes) db range :=
  keeps_of_pages (fun _ h => h) (fun _ _ hsizes _ h => hsizes.trans h) range

/-- The page count is that of the table. -/
structure CountOf (sizes : CacheSizes) (db : SqliteFaultSink) (c : FaultHistoryCache) : Prop where
  sizes_eq : c.sizes = sizes
  totalPages_eq : c.totalPages = countedPages sizes.pageSize db

theorem countOf_counted {sizes : CacheSizes} {c : FaultHistoryCache} (h : c.sizes = sizes)
    (db : SqliteFaultSink) : (c.counted db).CountOf sizes db := by
  subst h
  exact ⟨rfl, rfl⟩

theorem keeps_countOf (sizes : CacheSizes) (db : SqliteFaultSink) (range : StatementRun) :
    Keeps (fun c => c.CountOf sizes db) db range :=
  keeps_of_pages (fun _ h => countOf_counted h.sizes_eq db)
    (fun _ _ hsizes hpages h => ⟨hsizes.trans h.sizes_eq, hpages.trans h.totalPages_eq⟩) range

end FaultHistoryCache

namespace HistoryContext

open FaultHistoryCache

/-! ### One button -/

/-- Of the page and the count after a refresh for `page`. -/
theorem refreshForPage_cases {sizes : CacheSizes} {ctx : HistoryContext}
    (h : ctx.faultHistoryCache.sizes = sizes) (q : ButtonQueries) (page : Nat) :
    ((ctx.faultHistoryCache.refreshMeta q.pageCount ctx.db).2 = false ∧
        ctx.refreshForPage q page = ctx) ∨
      ((ctx.refreshForPage q page).historyPageNo =
          clampTo (countedPages sizes.pageSize ctx.db) page ∧
        (ctx.refreshForPage q page).faultHistoryCache.CountOf sizes ctx.db) := by
  have hkeeps := keeps_countOf sizes ctx.db q.range
  have hcount := countOf_counted h ctx.db
  unfold refreshForPage
  obtain hfail | hdone := ctx.faultHistoryCache.refreshMeta_cases q.pageCount ctx.db
  · rw [hfail]
    exact Or.inl ⟨rfl, rfl⟩
  · rw [hdone]
    right
    dsimp only
    rw [if_pos rfl]
    by_cases hnone : (ctx.faultHistoryCache.counted ctx.db).totalPages = 0
    · rw [if_pos hnone]
      refine ⟨?_, hkeeps.refreshWindow _ _ _ hcount⟩
      rw [clampTo, if_pos (hcount.totalPages_eq.symm.trans hnone)]
    · rw [if_neg hnone]
      refine ⟨?_, hkeeps.ensurePageLoaded _ _ _ _ hcount⟩
      rw [← hcount.totalPages_eq]

/-- The count that a button makes first. -/
def firstCount (button : HistoryButton) (q : ButtonQueries) : StatementRun :=
  if button = .hisPageEnter then q.pageCount else q.count

/-- The two counts of a button are answered. -/
def Answered (ctx : HistoryContext) (q : ButtonQueries) : Prop :=
  ctx.faultHistoryCache.db = true ∧ q.count = .done ∧ q.pageCount = .done

/-- After a button the page is as it was, or the one that the button asks for, within the pages
that are counted.  Once the first count has succeeded, it is the table's. -/
theorem onHmiButtonClick_cases {sizes : CacheSizes} {ctx : HistoryContext}
    (h : ctx.faultHistoryCache.sizes = sizes) (button : HistoryButton) (q : ButtonQueries) :
    let total := countedPages sizes.pageSize ctx.db
    let ctx' := ctx.onHmiButtonClick button q
    ((¬ ctx.Answered q ∧ ctx'.historyPageNo = ctx.historyPageNo) ∨
        ctx'.historyPageNo = clampTo total (targetPage button total ctx.historyPageNo)) ∧
      ((ctx.faultHistoryCache.refreshMeta (firstCount button q) ctx.db).2 = true →
        ctx'.faultHistoryCache.CountOf sizes ctx.db) := by
  intro total ctx'
  have hanswered : ∀ (run : StatementRun) (c : FaultHistoryCache), c.db = true → run = .done →
      (c.refreshMeta run ctx.db).2 ≠ false := by
    rintro run c hbound rfl
    rw [refreshMeta_done hbound]
    exact Bool.noConfusion
  by_cases henter : button = .hisPageEnter
  · have hctx : ctx' = ctx.refreshForPage q 1 := if_pos henter
    rw [firstCount, if_pos henter, hctx]
    subst henter
    obtain ⟨hfail, hsame⟩ | ⟨hpage, hcount⟩ := refreshForPage_cases h q 1
    · rw [hfail, hsame]
      exact ⟨Or.inl ⟨fun hall => hanswered _ _ hall.1 hall.2.2 hfail, rfl⟩,
        fun hmeta => by cases hmeta⟩
    · exact ⟨Or.inr hpage, fun _ => hcount⟩
  · rw [firstCount, if_neg henter]
    obtain hfail | hdone := ctx.faultHistoryCache.refreshMeta_cases q.count ctx.db
    · have hctx : ctx' = ctx := by
        show ctx.onHmiButtonClick button q = ctx
        unfold onHmiButtonClick
        rw [if_neg henter, hfail]
        rfl
      have hfalse := congrArg Prod.snd hfail
      rw [hfail, hctx]
      exact ⟨Or.inl ⟨fun hall => hanswered _ _ hall.1 hall.2.1 hfalse, rfl⟩,
        fun hmeta => by cases hmeta⟩
    · have hcount := countOf_counted h ctx.db
      have hctx : ctx' =
          if (ctx.faultHistoryCache.counted ctx.db).totalPages = 0 ∧ button ≠ .hisPageFirst then
            { ctx with
              faultHistoryCache := ((ctx.faultHistoryCache.counted ctx.db).refreshWindow
                q.windowCount q.range ctx.db 1).1
              historyPageNo := 1 }
          else
            ({ ctx with faultHistoryCache := ctx.faultHistoryCache.counted ctx.db } :
              HistoryContext).refreshForPage q (targetPage button
                (ctx.faultHistoryCache.counted ctx.db).totalPages ctx.historyPageNo) := by
        show ctx.onHmiButtonClick button q = _
        unfold onHmiButtonClick
        rw [if_neg henter, hdone]
        rfl
      rw [hdone, hctx, hcount.totalPages_eq]
      split
      · rename_i hnone
        have hkeeps := keeps_countOf sizes ctx.db q.range
        refine ⟨Or.inr ?_, fun _ => hkeeps.refreshWindow _ _ _ hcount⟩
        show 1 = _
        rw [clampTo, if_pos hnone.1]
      · obtain ⟨hfail, hsame⟩ | ⟨hpage, hcount'⟩ := @refreshForPage_cases sizes
          { ctx with faultHistoryCache := ctx.faultHistoryCache.counted ctx.db }
          hcount.sizes_eq q (targetPage button total ctx.historyPageNo)
        · rw [hsame]
          refine ⟨Or.inl ⟨fun hall => ?_, rfl⟩, fun _ => hcount⟩
          exact hanswered _ (ctx.faultHistoryCache.counted ctx.db) hall.1 hall.2.2 hfail
        · exact ⟨Or.inr hpage, fun _ => hcount'⟩

end HistoryContext

/-! ### The pages that are counted -/

section

variable {size : Nat} {db : SqliteFaultSink}

theorem pageCount_mono {n m : Nat} (h : n ≤ m) : pageCount size n ≤ pageCount size m :=
  Nat.div_le_div_right (by omega)

/-- The 16 bits never count too many pages. -/
theorem countedPages_le :
    FaultHistoryCache.countedPages size db ≤ pageCount size db.clearedRows.length := by
  unfold FaultHistoryCache.countedPages FaultHistoryCache.calcTotalPages pageCount
  split
  · exact Nat.zero_le _
  · refine (Nat.mod_le _ _).trans (Nat.div_le_div_right ((Nat.mod_le _ _).trans ?_))
    have hmod := Nat.mod_le db.clearedRows.length (2 ^ 32)
    omega

theorem countedPages_eq (hpos : 0 < size) (hsize : size < 2 ^ 16)
    (h : pageCount size db.clearedRows.length < 2 ^ 16) :
    FaultHistoryCache.countedPages size db = pageCount size db.clearedRows.length := by
  have hrows : db.clearedRows.length ≤ pageCount size db.clearedRows.length * size := by
    have hdiv := Nat.div_add_mod (db.clearedRows.length + size - 1) size
    have hlt := Nat.mod_lt (db.clearedRows.length + size - 1) hpos
    rw [pageCount, Nat.mul_comm]
    omega
  have hbound : pageCount size db.clearedRows.length * size ≤ 65535 * 65535 :=
    Nat.mul_le_mul (by omega) (by omega)
  have hmod : db.clearedRows.length % 2 ^ 32 = db.clearedRows.length := Nat.mod_eq_of_lt (by omega)
  rw [FaultHistoryCache.countedPages, hmod, FaultHistoryCache.calcTotalPages]
  split
  · rename_i hzero
    have hnil : db.clearedRows.length = 0 := by omega
    exact ((pageCount_eq_zero hpos).mpr hnil).symm
  · rw [Nat.mod_eq_of_lt (a := db.clearedRows.length + size - 1) (by omega)]
    exact Nat.mod_eq_of_lt h

end

theorem clampTo_eq (total page : Nat) :
    FaultHistoryCache.clampTo total page = max 1 (min page (max 1 total)) := by
  unfold FaultHistoryCache.clampTo
  split
  · omega
  · split
    · omega
    · split <;> omega

/-- From a page that exists the next and the previous button go one page at most. -/
theorem targetPage_near {button : HistoryButton} (hbutton : button = .hisPageNext ∨
    button = .hisPagePrev) {total page : Nat} (hpos : 1 ≤ page) (hle : page ≤ max 1 total) :
    let page' := FaultHistoryCache.clampTo total (HistoryContext.targetPage button total page)
    page' ≤ page + 1 ∧ page ≤ page' + 1 := by
  rw [clampTo_eq]
  obtain rfl | rfl := hbutton
  · unfold HistoryContext.targetPage
    dsimp only
    split <;> omega
  · unfold HistoryContext.targetPage
    dsimp only
    split <;> omega

/-! ### Runs -/

inductive FaultPageButton
  | history (button : HistoryButton)
  | curPageNext
  | curPagePrev
  | curPageFirst

/-- A button of the fault pages.  Those of the current faults turn other pages; without a cache
the history buttons turn the pages of the fault center. -/
def HistoryContext.onFaultPageClick (cached : Bool) (ctx : HistoryContext) (q : ButtonQueries) :
    FaultPageButton → HistoryContext
  | .history button =>
    if cached then ctx.onHmiButtonClick button q
    else if button = .hisPageEnter then { ctx with historyPageNo := 1 }
    else ctx
  | .curPageNext | .curPagePrev | .curPageFirst => ctx

inductive PageEvent
  /-- The table is another one now. -/
  | table (db : SqliteFaultSink)
  | pass (edges : List FaultEdge) (q : RefreshQueries)
  | click (button : FaultPageButton) (q : ButtonQueries)

def HistoryContext.onPageEvent (cat : FaultCatalog) (cached : Bool) (ctx : HistoryContext) :
    PageEvent → HistoryContext
  | .table db => { ctx with db := db }
  | .pass edges q => ctx.refreshFaultPagesOnly cat edges q
  | .click button q => ctx.onFaultPageClick cached q button

/-- Clicks on the fault pages, with passes and other changes of the table between them. -/
def pageTurns (cat : FaultCatalog) (cached : Bool) (sizes : CacheSizes) (db : SqliteFaultSink)
    (q : RefreshQueries) : Machine HistoryContext PageEvent Empty where
  start := bindHistory sizes db q
  step ctx e := (ctx.onPageEvent cat cached e, [])

namespace HistoryContext

variable {cat : FaultCatalog} {cached : Bool} {sizes : CacheSizes}

/-- The page exists, counted without a bound. -/
structure OnPage (sizes : CacheSizes) (ctx : HistoryContext) : Prop where
  sizes_eq : ctx.faultHistoryCache.sizes = sizes
  pos : 1 ≤ ctx.historyPageNo
  le : ctx.historyPageNo ≤ max 1 (pageCount sizes.pageSize ctx.db.clearedRows.length)

/-- The history does not shrink, and a history button finds at most 65535 pages. -/
def Orderly (cat : FaultCatalog) (cached : Bool) (sizes : CacheSizes) (ctx : HistoryContext)
    (e : PageEvent) : Prop :=
  ctx.db.clearedRows.length ≤ (ctx.onPageEvent cat cached e).db.clearedRows.length ∧
    ∀ button q, e = .click (.history button) q →
      pageCount sizes.pageSize ctx.db.clearedRows.length < 2 ^ 16

theorem refreshFaultPagesOnly_frame {ctx : HistoryContext}
    (h : ctx.faultHistoryCache.sizes = sizes) (edges : List FaultEdge) (q : RefreshQueries) :
    (ctx.refreshFaultPagesOnly cat edges q).faultHistoryCache.sizes = sizes ∧
      (ctx.refreshFaultPagesOnly cat edges q).historyPageNo = ctx.historyPageNo := by
  have hmapped : (ctx.applyFaultPages cat edges).faultHistoryCache = ctx.faultHistoryCache ∧
      (ctx.applyFaultPages cat edges).historyPageNo = ctx.historyPageNo := by
    clear h
    induction edges generalizing ctx with
    | nil => exact ⟨rfl, rfl⟩
    | cons e edges ih => exact ih
  obtain ⟨hcache, hpage⟩ := hmapped
  have hkeeps := FaultHistoryCache.keeps_sizes sizes (ctx.applyFaultPages cat edges).db q.range
  have hsizes : (ctx.applyFaultPages cat edges).faultHistoryCache.sizes = sizes := by
    rw [hcache]
    exact h
  unfold refreshFaultPagesOnly
  cases hdirty : (ctx.applyFaultPages cat edges).faultCenter.historyDirty with
  | true =>
    rw [refreshHistory_marked hdirty]
    exact ⟨hkeeps.refreshAll hsizes _, hpage⟩
  | false =>
    rw [refreshHistory_unmarked hdirty]
    refine ⟨?_, hpage⟩
    dsimp only
    split
    · exact hsizes
    · exact hkeeps.reloadWindow hsizes _

theorem OnPage.history {ctx : HistoryContext} (h : ctx.OnPage sizes) (button : HistoryButton)
    (q : ButtonQueries) : (ctx.onHmiButtonClick button q).OnPage sizes := by
  obtain ⟨-, hdb⟩ := onHmiButtonClick_frame ctx button q
  obtain ⟨hpage, -⟩ := onHmiButtonClick_cases h.sizes_eq button q
  have hkeeps := FaultHistoryCache.keeps_sizes sizes ctx.db q.range
  refine ⟨Keeps.onHmiButtonClick hkeeps h.sizes_eq button, ?_, ?_⟩
  · obtain ⟨-, hsame⟩ | hturn := hpage
    · rw [hsame]
      exact h.pos
    · rw [hturn]
      exact FaultHistoryCache.clampTo_pos _ _
  · rw [hdb]
    obtain ⟨-, hsame⟩ | hturn := hpage
    · rw [hsame]
      exact h.le
    · have hcounted := @countedPages_le sizes.pageSize ctx.db
      rw [hturn, clampTo_eq]
      omega

theorem OnPage.step {ctx : HistoryContext} (h : ctx.OnPage sizes) {e : PageEvent}
    (hgrows : ctx.db.clearedRows.length ≤ (ctx.onPageEvent cat cached e).db.clearedRows.length) :
    (ctx.onPageEvent cat cached e).OnPage sizes := by
  have hle := h.le
  have hmono := @pageCount_mono sizes.pageSize _ _ hgrows
  cases e with
  | table db => exact ⟨h.sizes_eq, h.pos, hle.trans (max_le_max_left 1 hmono)⟩
  | pass edges q =>
    obtain ⟨hsizes, hpage⟩ := @refreshFaultPagesOnly_frame cat sizes ctx h.sizes_eq edges q
    refine ⟨hsizes, ?_, ?_⟩
    · show 1 ≤ (ctx.refreshFaultPagesOnly cat edges q).historyPageNo
      rw [hpage]
      exact h.pos
    · show (ctx.refreshFaultPagesOnly cat edges q).historyPageNo ≤ _
      rw [hpage]
      exact hle.trans (max_le_max_left 1 hmono)
  | click button q =>
    cases button with
    | history button =>
      show (if cached then _ else _ : HistoryContext).OnPage sizes
      split
      · exact h.history button q
      · split
        · exact ⟨h.sizes_eq, Nat.le_refl 1, Nat.le_max_left 1 _⟩
        · exact h
    | curPageNext => exact h
    | curPagePrev => exact h
    | curPageFirst => exact h

theorem onPage_bindHistory (sizes : CacheSizes) (db : SqliteFaultSink) (q : RefreshQueries) :
    (bindHistory sizes db q).OnPage sizes := by
  refine ⟨?_, Nat.le_refl 1, Nat.le_max_left 1 _⟩
  have hbound : (({ sizes := sizes } : FaultHistoryCache).bindDb true).1.sizes = sizes := rfl
  exact (FaultHistoryCache.keeps_sizes sizes db q.range).refreshAll hbound 1

/-- A count that the button makes first and that succeeds. -/
def MetaSucceeds (cached : Bool) (ctx : HistoryContext) (button : HistoryButton)
    (q : ButtonQueries) : Prop :=
  cached = true ∧ (ctx.faultHistoryCache.refreshMeta (firstCount button q) ctx.db).2 = true

/-- A history button that finds at most 65535 pages stays on the pages, and turns one at most. -/
theorem OnPage.turn {ctx : HistoryContext} (h : ctx.OnPage sizes)
    (hfits : pageCount sizes.pageSize ctx.db.clearedRows.length < 2 ^ 16) (button : HistoryButton)
    (q : ButtonQueries) :
    let ctx' := ctx.onFaultPageClick cached q (.history button)
    (ctx.MetaSucceeds cached button q →
        ctx'.historyPageNo ≤ max 1 ctx'.faultHistoryCache.totalPages) ∧
      (button = .hisPageNext ∨ button = .hisPagePrev →
        ctx'.historyPageNo ≤ ctx.historyPageNo + 1 ∧
          ctx.historyPageNo ≤ ctx'.historyPageNo + 1) := by
  intro ctx'
  have htotal := countedPages_eq sizes.pageSize_pos sizes.pageSize_lt hfits
  have hle := h.le
  rw [← htotal] at hle
  cases cached with
  | false =>
    refine ⟨fun hmeta => absurd hmeta.1 Bool.false_ne_true, fun hbutton => ?_⟩
    have hctx : ctx' = ctx := by
      show (if button = .hisPageEnter then { ctx with historyPageNo := 1 } else ctx) = ctx
      obtain rfl | rfl := hbutton <;> rfl
    rw [hctx]
    omega
  | true =>
    have hctx : ctx' = ctx.onHmiButtonClick button q := rfl
    obtain ⟨hpage, hcount⟩ := onHmiButtonClick_cases h.sizes_eq button q
    rw [hctx]
    refine ⟨fun hmeta => ?_, fun hbutton => ?_⟩
    · rw [(hcount hmeta.2).totalPages_eq]
      obtain ⟨-, hsame⟩ | hturn := hpage
      · rw [hsame]
        exact hle
      · rw [hturn, clampTo_eq]
        omega
    · obtain ⟨-, hsame⟩ | hturn := hpage
      · rw [hsame]
        omega
      · rw [hturn]
        exact targetPage_near hbutton h.pos hle

end HistoryContext

/-- In a run in which the history does not shrink and every history button finds at most 65535
pages: the page number is at least 1; after a button whose count succeeds it is at most the page
count; and the next and the previous button change it by one at most. -/
theorem history_page_stays (cat : FaultCatalog) (cached : Bool) (sizes : CacheSizes)
    (db : SqliteFaultSink) (q : RefreshQueries) {es : List PageEvent}
    (h : (pageTurns cat cached sizes db q).EveryStep
      (fun ctx e => ctx.Orderly cat cached sizes e) es)
    {pre : List PageEvent} {e : PageEvent} (hpre : pre ++ [e] <+: es) :
    let ctx := (pageTurns cat cached sizes db q).run pre
    let ctx' := (pageTurns cat cached sizes db q).run (pre ++ [e])
    1 ≤ ctx'.historyPageNo ∧
      ∀ button bq, e = .click (.history button) bq →
        (ctx.MetaSucceeds cached button bq →
            ctx'.historyPageNo ≤ max 1 ctx'.faultHistoryCache.totalPages) ∧
          (button = .hisPageNext ∨ button = .hisPagePrev →
            ctx'.historyPageNo ≤ ctx.historyPageNo + 1 ∧
              ctx.historyPageNo ≤ ctx'.historyPageNo + 1) := by
  intro ctx ctx'
  have hall : (pageTurns cat cached sizes db q).EveryStep
      (fun ctx e => ctx.Orderly cat cached sizes e) (pre ++ [e]) :=
    fun pre' e' hpre' => h pre' e' (hpre'.trans hpre)
  obtain ⟨hbefore, hlast⟩ := ((pageTurns cat cached sizes db q).everyStep_snoc).mp hall
  have hon : ctx.OnPage sizes :=
    hbefore.invariant (HistoryContext.onPage_bindHistory sizes db q)
      fun _ _ hctx he => hctx.step he.1
  have hctx' : ctx' = ctx.onPageEvent cat cached e := Machine.run_snoc _ _ _
  rw [hctx']
  refine ⟨(hon.step hlast.1).pos, ?_⟩
  rintro button bq rfl
  exact hon.turn (hlast.2 button bq rfl) button bq

/-- A history of `n` cleared faults. -/
def longTable (n : Nat) : SqliteFaultSink where
  rows := (List.range n).map fun i =>
    { id := i + 1, code := 0x1001, firstOnMs := 1000, clearMs := 2000
      seqNo := BitVec.ofNat 16 (i + 1), state := 0 }
  nextId := n + 1

/-- Two pages: on and back; a count that fails; then the history grows to three pages, and it goes
on, and on once more with a window that is not loaded. -/
def pageRun : List PageEvent :=
  [.click (.history .hisPageNext) {}, .click (.history .hisPagePrev) {},
    .click (.history .hisPageNext) { count := .notPrepared }, .table (longTable 12),
    .click (.history .hisPageNext) {}, .click (.history .hisPageNext) { range := .notPrepared }]

theorem history_page_stays_next :
    let M := pageTurns everyCodeRecorded true {} (longTable 6) {}
    let ctx := M.run pageRun
    let ctx' := M.run (pageRun ++ [.click (.history .hisPagePrev) {}])
    ctx.historyPageNo = 3 ∧ 1 ≤ ctx'.historyPageNo ∧
      (ctx.MetaSucceeds true .hisPagePrev {} ∧
        ctx'.historyPageNo ≤ max 1 ctx'.faultHistoryCache.totalPages) ∧
      ctx'.historyPageNo ≤ ctx.historyPageNo + 1 ∧ ctx.historyPageNo ≤ ctx'.historyPageNo + 1 := by
  have hrun : (pageTurns everyCodeRecorded true {} (longTable 6) {}).EveryStep
      (fun ctx e => ctx.Orderly everyCodeRecorded true {} e)
      (pageRun ++ [.click (.history .hisPagePrev) {}]) := by
    simp only [pageRun, List.cons_append, List.nil_append, Machine.everyStep_cons]
    refine ⟨⟨?_, fun _ _ _ => ?_⟩, ⟨?_, fun _ _ _ => ?_⟩, ⟨?_, fun _ _ _ => ?_⟩,
      ⟨?_, fun _ _ _ => ?_⟩, ⟨?_, fun _ _ _ => ?_⟩, ⟨?_, fun _ _ _ => ?_⟩,
      ⟨?_, fun _ _ _ => ?_⟩, Machine.everyStep_nil _ _⟩
    all_goals decide +kernel
  obtain ⟨hpos, hturn⟩ := history_page_stays everyCodeRecorded true {} (longTable 6) {} hrun
    (List.prefix_refl _)
  obtain ⟨hcounted, hnear⟩ := hturn .hisPagePrev {} rfl
  obtain ⟨hup, hdown⟩ := hnear (Or.inr rfl)
  have hmeta : ((pageTurns everyCodeRecorded true {} (longTable 6) {}).run pageRun).MetaSucceeds
      true .hisPagePrev {} := ⟨rfl, by decide +kernel⟩
  exact ⟨by decide +kernel, hpos, ⟨hmeta, hcounted hmeta⟩, hup, hdown⟩

/-! ### More pages than 16 bits hold -/

theorem length_clearedRows_longTable (n : Nat) : (longTable n).clearedRows.length = n := by
  rw [← SqliteFaultSink.countP_eq_length_clearedRows]
  show List.countP _ ((List.range n).map _) = n
  rw [List.countP_map]
  have hall : ∀ i ∈ List.range n, ((fun r : FaultHistoryDbRecord => r.clearMs != 0) ∘
      fun i => ({ id := i + 1, code := 0x1001, firstOnMs := 1000, clearMs := 2000
                  seqNo := BitVec.ofNat 16 (i + 1), state := 0 } :
        FaultHistoryDbRecord)) i = true := fun _ _ => rfl
  rw [List.countP_eq_length.mpr hall, List.length_range]

/-- With 65536 pages the page count is 0. -/
theorem countedPages_longTable : FaultHistoryCache.countedPages 5 (longTable 15) = 3 ∧
    FaultHistoryCache.countedPages 5 (longTable 327680) = 0 := by
  rw [FaultHistoryCache.countedPages, FaultHistoryCache.countedPages,
    length_clearedRows_longTable, length_clearedRows_longTable]
  decide

theorem HistoryContext.historyPageNo_answered {sizes : CacheSizes} {ctx : HistoryContext}
    (h : ctx.faultHistoryCache.sizes = sizes) (hbound : ctx.faultHistoryCache.db = true)
    (button : HistoryButton) : (ctx.onHmiButtonClick button {}).historyPageNo =
      FaultHistoryCache.clampTo (FaultHistoryCache.countedPages sizes.pageSize ctx.db)
        (HistoryContext.targetPage button
          (FaultHistoryCache.countedPages sizes.pageSize ctx.db) ctx.historyPageNo) := by
  obtain ⟨⟨hno, -⟩ | hturn, -⟩ := HistoryContext.onHmiButtonClick_cases h button {}
  · exact absurd ⟨hbound, rfl, rfl⟩ hno
  · exact hturn

/-- The page a run is on, with its cache bound. -/
structure HistoryContext.ShowsPage (ctx : HistoryContext) (db : SqliteFaultSink) (page : Nat) :
    Prop where
  sizes_eq : ctx.faultHistoryCache.sizes = {}
  ready : ctx.faultHistoryCache.Ready
  db_eq : ctx.db = db
  page_eq : ctx.historyPageNo = page

theorem HistoryContext.ShowsPage.click {ctx : HistoryContext} {db : SqliteFaultSink} {page : Nat}
    (h : ctx.ShowsPage db page) (button : HistoryButton) :
    (ctx.onFaultPageClick true {} (.history button)).ShowsPage db
      (FaultHistoryCache.clampTo (FaultHistoryCache.countedPages 5 db)
        (targetPage button (FaultHistoryCache.countedPages 5 db) page)) := by
  have hsizes := FaultHistoryCache.keeps_sizes {} ctx.db ({} : ButtonQueries).range
  have hready := FaultHistoryCache.keeps_ready ctx.db ({} : ButtonQueries).range
  refine ⟨Keeps.onHmiButtonClick hsizes h.sizes_eq button,
    Keeps.onHmiButtonClick hready h.ready button,
    ((onHmiButtonClick_frame ctx button {}).2).trans h.db_eq, ?_⟩
  have hpage := historyPageNo_answered h.sizes_eq h.ready.bound button
  rw [h.db_eq, h.page_eq] at hpage
  exact hpage

/-- Three pages on, in a history that then has none that count. -/
theorem next_page_of_none {db db' : SqliteFaultSink}
    (h : FaultHistoryCache.countedPages 5 db = 3) (h' : FaultHistoryCache.countedPages 5 db' = 0) :
    let M := pageTurns everyCodeRecorded true {} db {}
    let es : List PageEvent :=
      [.click (.history .hisPageNext) {}, .click (.history .hisPageNext) {}, .table db']
    (M.run es).historyPageNo = 3 ∧
      (M.run (es ++ [.click (.history .hisPageNext) {}])).historyPageNo = 1 := by
  intro M es
  have hbound : (({ sizes := {} } : FaultHistoryCache).bindDb true).1.sizes = {} := rfl
  have hready : (({ sizes := {} } : FaultHistoryCache).bindDb true).1.Ready := ⟨rfl, rfl⟩
  have hfirst : (bindHistory {} db {}).ShowsPage db 1 :=
    ⟨(FaultHistoryCache.keeps_sizes {} _ _).refreshAll hbound 1,
      (FaultHistoryCache.keeps_ready _ _).refreshAll hready 1, rfl, rfl⟩
  have hsecond := hfirst.click .hisPageNext
  rw [h] at hsecond
  have hthird := hsecond.click .hisPageNext
  rw [h] at hthird
  have hgrown : (M.run es).ShowsPage db' 3 :=
    ⟨hthird.sizes_eq, hthird.ready, rfl, hthird.page_eq⟩
  have hlast := hgrown.click .hisPageNext
  rw [h'] at hlast
  exact ⟨hgrown.page_eq, hlast.page_eq⟩

/-- From page 3 the next button leads to page 1, in a history that has grown to 65536 pages. -/
theorem next_page_jumps :
    let M := pageTurns everyCodeRecorded true {} (longTable 15) {}
    let es : List PageEvent :=
      [.click (.history .hisPageNext) {}, .click (.history .hisPageNext) {},
        .table (longTable 327680)]
    (M.run es).historyPageNo = 3 ∧
      (M.run (es ++ [.click (.history .hisPageNext) {}])).historyPageNo = 1 ∧
      (longTable 15).clearedRows.length ≤ (longTable 327680).clearedRows.length := by
  obtain ⟨hthird, hfirst⟩ := next_page_of_none countedPages_longTable.1 countedPages_longTable.2
  refine ⟨hthird, hfirst, ?_⟩
  rw [length_clearedRows_longTable, length_clearedRows_longTable]
  decide

end Fault
end EnergyStorage
