import EnergyStorage.Fault.PageMaps

/-! # The registers of the rows

The map may place each row of a column where it likes.  The manager takes them from the first
row: the times as wide as that one, the other columns one register after the other. -/

namespace EnergyStorage
namespace Fault

open Lib
open EnergyStorage.Normal (HmiMapItem HmiMapModel)

/-! ### What the map says -/

/-- The item that the map has for a place. -/
def Owner (m : HmiMapModel) (pg : FaultPage) : Place → Nat → HmiMapItem → Prop
  | .single f => IsFirst (fun it => it.path = f.path pg ∧ faultMapItemUsable it = true) m.items
  | .row f i => IsFirst (fun it => rowOf (pg, f) it = i + 1) m.items

theorem Owner.isFirst {m : HmiMapModel} {pg : FaultPage} {pl : Place} :
    ∃ p : HmiMapItem → Prop, ∀ i it, Owner m pg pl i it ↔ IsFirst p m.items i it := by
  cases pl with
  | single f => exact ⟨_, fun _ _ => Iff.rfl⟩
  | row f k => exact ⟨_, fun _ _ => Iff.rfl⟩

theorem Owner.unique {m : HmiMapModel} {pg : FaultPage} {pl : Place} {i j : Nat}
    {x y : HmiMapItem} (hx : Owner m pg pl i x) (hy : Owner m pg pl j y) : i = j ∧ x = y := by
  obtain ⟨p, hp⟩ := @Owner.isFirst m pg pl
  exact ((hp i x).mp hx).unique ((hp j y).mp hy)

theorem Owner.get {m : HmiMapModel} {pg : FaultPage} {pl : Place} {i : Nat} {x : HmiMapItem}
    (hx : Owner m pg pl i x) : m.items[i]? = some x := by
  obtain ⟨p, hp⟩ := @Owner.isFirst m pg pl
  exact ((hp i x).mp hx).get

theorem Owner.rowOf_eq {m : HmiMapModel} {pg : FaultPage} {f : RowField} {n i : Nat}
    {it : HmiMapItem} (h : Owner m pg (.row f n) i it) : rowOf (pg, f) it = n + 1 := by
  have hrow : IsFirst (fun it => rowOf (pg, f) it = n + 1) m.items i it := h
  exact hrow.holds

/-- The two pages as the center and the cache have them. -/
def pageViews (center : Option FaultCenterPages) (cache : Option FaultHistoryCache)
    (historyPageNo : Nat) : FaultPage → PageView
  | .current => currentView center
  | .history => historyView historyPageNo cache

/-- Every value of a row that is shown is written to the registers of its item, as wide as this
one is, and kept; no register of another item is written. -/
structure FlushSound (m : HmiMapModel) (views : FaultPage → PageView) (cells : List Cell) :
    Prop where
  shown : ∀ pg n r, ShownRow m pg (n + 1) → (views pg).rows[n]? = some r → ∀ f ∈ pg.fields,
    ∃ i it, Owner m pg (.row f n) i it ∧
      ⟨pg, .row f n, r f, writeU32 (BitVec.ofNat 16 it.addr) it.words (r f)⟩ ∈ cells ∧
      ∀ c ∈ writeU32 (BitVec.ofNat 16 it.addr) it.words (r f), IsInputReg c.1
  apart : ∀ cell ∈ cells, ∀ c ∈ cell.calls, IsInputReg c.1 →
    ∀ j y, m.items[j]? = some y → y.Covers c.1.toNat → ∃ it, Owner m cell.page cell.place j it

/-! ### Where the rows have to be -/

/-- How far the rows of a column are apart, after its first item. -/
def stride (f : RowField) (first : HmiMapItem) : Nat := if f.isTime then first.words else 1

/-- No other item has one of the registers. -/
def Alone (m : HmiMapModel) (i start words : Nat) : Prop :=
  ∀ j y, m.items[j]? = some y → j ≠ i → ∀ r, start ≤ r → r < start + words → ¬ y.Covers r

/-- The item of the row goes on where the first row of the column says. -/
structure RowInPlace (m : HmiMapModel) (pg : FaultPage) (f : RowField) (n : Nat)
    (first : HmiMapItem) (i : Nat) (it : HmiMapItem) : Prop where
  words : it.words = stride f first
  addr : it.addr = first.addr + n * stride f first
  start : 0x4000 ≤ it.addr
  stop : it.addr + it.words ≤ 0x5000
  alone : Alone m i it.addr it.words

structure RowsInPlace (m : HmiMapModel) : Prop where
  rows : ∀ pg n, ShownRow m pg (n + 1) → ∀ f ∈ pg.fields, ∀ i₁ first i it,
    Owner m pg (.row f 0) i₁ first → Owner m pg (.row f n) i it → RowInPlace m pg f n first i it
  singles : ∀ pg f i it, Owner m pg (.single f) i it → 0x4000 ≤ it.addr → it.addr < 0x5000 →
    Alone m i it.addr 1

/-! ### The cells -/

section Cells

variable {m : HmiMapModel} {layout : FaultHmiLayout} (hm : m.Indexed)
  (hlayout : buildLayoutFromHmiMap m = .ok layout)

include hlayout

theorem mem_flushPage {pg : FaultPage} {view : PageView} {cell : Cell} :
    cell ∈ flushPage layout pg view ↔
      (∃ f v, cell = singleCell layout pg f v ∧
        v = match f with | .totalPages => view.totalPages | .pageIndex => view.pageIndex) ∨
      ∃ i < layout.rows pg, ∃ f ∈ pg.fields,
        cell = rowCell layout pg i f ((view.rows[i]?.map fun r => r f).getD 0) := by
  rw [flushPage, if_neg (by simp [(layout_eq hlayout).2 pg]), List.mem_append]
  refine or_congr ?_ ?_
  · rw [List.mem_cons, List.mem_singleton]
    constructor
    · intro h
      obtain h | h := h
      · exact ⟨.totalPages, _, h, rfl⟩
      · exact ⟨.pageIndex, _, h, rfl⟩
    · intro ⟨f, v, h, hv⟩
      subst hv
      cases f with
      | totalPages => exact Or.inl h
      | pageIndex => exact Or.inr h
  · simp only [List.mem_flatMap, List.mem_range, List.mem_map, eq_comm]

omit hlayout in
theorem mem_flushToHmi {center : Option FaultCenterPages} {cache : Option FaultHistoryCache}
    {historyPageNo : Nat} {cell : Cell} :
    cell ∈ flushToHmi (some layout) center cache historyPageNo ↔
      ∃ pg, cell ∈ flushPage layout pg (pageViews center cache historyPageNo pg) := by
  rw [flushToHmi, List.mem_append]
  constructor
  · intro h
    obtain h | h := h
    · exact ⟨.current, h⟩
    · exact ⟨.history, h⟩
  · intro ⟨pg, h⟩
    cases pg with
    | current => exact Or.inl h
    | history => exact Or.inr h

include hm

/-- The registers of a row as the first row of the column gives them. -/
theorem calls_rowCell {pg : FaultPage} {f : RowField} (hf : f ∈ pg.fields) {i i₁ : Nat}
    (hi : i < layout.rows pg) {first : HmiMapItem} (hfirst : Owner m pg (.row f 0) i₁ first)
    (v : BitVec 32) :
    (rowCell layout pg i f v).calls =
      writeU32 (BitVec.ofNat 16 (first.addr + i * stride f first)) (stride f first) v := by
  obtain ⟨j, it, hit, hcolumn⟩ := column_base hm hlayout pg hf
  obtain ⟨-, rfl⟩ := hfirst.unique hit
  have hvalid := column_valid hlayout pg hf
  have hshown := (lt_rows_iff hm hlayout pg i).mp hi
  have hcount : i < rowCount m (pg, f) :=
    (lt_rowCount_iff hm _ i).mpr ⟨by have := hshown.2.1; omega, hshown.2.2 f hf⟩
  unfold rowCell stride
  dsimp only
  cases htime : f.isTime with
  | true =>
    rw [if_pos rfl, if_pos rfl, writeU32ToBlockRow, hvalid, hcolumn]
    dsimp only
    rw [decide_eq_false (Nat.not_le_of_lt hcount)]
    rfl
  | false =>
    rw [if_neg (by decide), if_neg (by decide), hcolumn, writeU32, if_pos (Nat.le_refl 1),
      Nat.mul_one]

omit hlayout in
theorem Owner.bounds {pg : FaultPage} {pl : Place} {i : Nat} {it : HmiMapItem}
    (h : Owner m pg pl i it) : it.addr < 2 ^ 16 ∧ 0 < it.words := by
  have hmem := List.mem_of_getElem? h.get
  have husable : faultMapItemUsable it = true := by
    cases pl with
    | single f => exact (IsFirst.holds h).2
    | row f k => exact usable_of_rowOf (Nat.succ_pos k) h.rowOf_eq
  simp only [faultMapItemUsable, Bool.and_eq_true] at husable
  have haddr := hm.addr it hmem husable.1.1.1
  exact ⟨by omega, hm.words it hmem⟩

omit hlayout hm in
/-- Every row that is shown has its item. -/
theorem exists_owner {pg : FaultPage} {n : Nat} (h : ShownRow m pg n) {f : RowField}
    (hf : f ∈ pg.fields) {k : Nat} (hk : k < n) : ∃ i it, Owner m pg (.row f k) i it :=
  exists_isFirst (h.2.2 f hf (k + 1) (Nat.succ_pos k) hk)

/-- In place the rows are written where the map has them. -/
theorem flushSound_of_rowsInPlace (h : RowsInPlace m) (center : Option FaultCenterPages)
    (cache : Option FaultHistoryCache) (historyPageNo : Nat) :
    FlushSound m (pageViews center cache historyPageNo)
      (flushToHmi (some layout) center cache historyPageNo) where
  shown := by
    intro pg n r hshown hr f hf
    obtain ⟨i, it, hit⟩ := exists_owner hshown hf (Nat.lt_succ_self n)
    obtain ⟨i₁, first, hfirst⟩ := exists_owner hshown hf (Nat.succ_pos n)
    have hplace := h.rows pg n hshown f hf i₁ first i it hfirst hit
    have hn := (lt_rows_iff hm hlayout pg n).mpr hshown
    obtain ⟨haddr, hwords⟩ := hit.bounds hm
    refine ⟨i, it, hit, mem_flushToHmi.mpr ⟨pg, (mem_flushPage hlayout).mpr ?_⟩, ?_⟩
    · refine Or.inr ⟨n, hn, f, hf, ?_⟩
      have hcalls := calls_rowCell hm hlayout hf hn hfirst (r f)
      rw [← hplace.addr, ← hplace.words] at hcalls
      rw [hr, ← hcalls]
      rfl
    · exact (isInputReg_writeU32_iff haddr hwords (r f)).mpr ⟨hplace.start, hplace.stop⟩
  apart := by
    intro cell hcell c hc hinput j y hy hcovers
    obtain ⟨pg, hcell⟩ := mem_flushToHmi.mp hcell
    obtain ⟨f, v, rfl, -⟩ | ⟨n, hn, f, hf, rfl⟩ := (mem_flushPage hlayout).mp hcell
    · obtain ⟨i, it, hit, hbase⟩ := single_base hm hlayout pg f
      have hown : Owner m pg (.single f) i it := hit
      obtain ⟨haddr, -⟩ := hown.bounds hm
      have hreg : c.1.toNat = it.addr := by
        rw [List.mem_singleton.mp hc, hbase, BitVec.toNat_ofNat]
        exact Nat.mod_eq_of_lt haddr
      rw [isInputReg_iff, hreg] at hinput
      rw [hreg] at hcovers
      by_contra hother
      refine h.singles pg f i it hown hinput.1 hinput.2 j y hy ?_ it.addr (Nat.le_refl _)
        (Nat.lt_succ_self _) hcovers
      rintro rfl
      exact hother ⟨it, hown⟩
    · have hshown := (lt_rows_iff hm hlayout pg n).mp hn
      obtain ⟨i, it, hit⟩ := exists_owner hshown hf (Nat.lt_succ_self n)
      obtain ⟨i₁, first, hfirst⟩ := exists_owner hshown hf (Nat.succ_pos n)
      have hplace := h.rows pg n hshown f hf i₁ first i it hfirst hit
      obtain ⟨-, hwords⟩ := hit.bounds hm
      rw [calls_rowCell hm hlayout hf hn hfirst, ← hplace.addr, ← hplace.words] at hc
      have hstop := hplace.stop
      obtain ⟨hle, hlt⟩ := (mem_fst_writeU32 hwords (by omega) _ c.1.toNat).mp ⟨c, hc, rfl⟩
      by_contra hother
      refine hplace.alone j y hy ?_ c.1.toNat hle hlt hcovers
      rintro rfl
      exact hother ⟨it, hit⟩

/-! ### What sound writing asks of the map -/

omit hlayout hm in
theorem ShownRow.mono {pg : FaultPage} {n k : Nat} (h : ShownRow m pg n) (hpos : 0 < k)
    (hle : k ≤ n) : ShownRow m pg k :=
  ⟨hpos, hle.trans h.2.1, fun f hf row hrow hrowle => h.2.2 f hf row hrow (hrowle.trans hle)⟩

/-- The cell of a place is the one that the layout gives. -/
theorem writeU32_eq_of_mem {center : Option FaultCenterPages} {cache : Option FaultHistoryCache}
    {historyPageNo : Nat} {pg : FaultPage} {f : RowField} (hf : f ∈ pg.fields) {n i₁ : Nat}
    {first : HmiMapItem} (hfirst : Owner m pg (.row f 0) i₁ first) {v : BitVec 32}
    {calls : List (Word × Word)}
    (h : ⟨pg, .row f n, v, calls⟩ ∈ flushToHmi (some layout) center cache historyPageNo) :
    calls = writeU32 (BitVec.ofNat 16 (first.addr + n * stride f first)) (stride f first) v := by
  obtain ⟨pg', hcell⟩ := mem_flushToHmi.mp h
  obtain ⟨f', v', heq, -⟩ | ⟨n', hn, f', hf', heq⟩ := (mem_flushPage hlayout).mp hcell
  · cases congrArg Cell.place heq
  · have hpage : pg = pg' := congrArg Cell.page heq
    have hplace : Place.row f n = .row f' n' := congrArg Cell.place heq
    have hvalue := congrArg Cell.value heq
    have hcalls := congrArg Cell.calls heq
    subst hpage
    cases hplace
    have hrow := calls_rowCell hm hlayout hf hn hfirst v
    dsimp only at hvalue hcalls
    rw [hcalls, ← hrow, hvalue]
    rfl

omit hlayout in
/-- A flush that shows a row, and those before it, tells its place. -/
theorem rowInPlace_of_flushSound {layout : FaultHmiLayout}
    (hlayout : buildLayoutFromHmiMap m = .ok layout) {center : Option FaultCenterPages}
    {cache : Option FaultHistoryCache} {historyPageNo : Nat}
    (hsound : FlushSound m (pageViews center cache historyPageNo)
      (flushToHmi (some layout) center cache historyPageNo))
    {pg : FaultPage} {n : Nat}
    (hfull : ∀ k ≤ n, ∃ r, (pageViews center cache historyPageNo pg).rows[k]? = some r)
    (hn : ShownRow m pg (n + 1)) {f : RowField} (hf : f ∈ pg.fields)
    {i₁ i : Nat} {first it : HmiMapItem} (hfirst : Owner m pg (.row f 0) i₁ first)
    (hit : Owner m pg (.row f n) i it) : RowInPlace m pg f n first i it := by
  have hlast := hn.2.1
  obtain ⟨hfirstaddr, hfirstwords⟩ := hfirst.bounds hm
  obtain ⟨haddr, hwords⟩ := hit.bounds hm
  have hstride : 0 < stride f first := by
    unfold stride
    split
    · exact hfirstwords
    · exact Nat.one_pos
  have hwritten : ∀ k i' it', ShownRow m pg (k + 1) → k ≤ n → Owner m pg (.row f k) i' it' →
      it'.words = stride f first ∧
      BitVec.ofNat 16 it'.addr = (BitVec.ofNat 16 (first.addr + k * stride f first) : Word) ∧
      (0x4000 ≤ it'.addr ∧ it'.addr + it'.words ≤ 0x5000) ∧ Alone m i' it'.addr it'.words := by
    intro k i' it' hk hle hit'
    obtain ⟨haddr', hwords'⟩ := hit'.bounds hm
    obtain ⟨r, hr⟩ := hfull k hle
    obtain ⟨j, x, hx, hcell, hkept⟩ := hsound.shown pg k r hk hr f hf
    obtain ⟨rfl, rfl⟩ := hx.unique hit'
    have hcalls := writeU32_eq_of_mem hm hlayout hf hfirst hcell
    obtain ⟨hsame, hbase⟩ := writeU32_inj hwords' hstride hcalls
    have hinside := (isInputReg_writeU32_iff haddr' hwords' (r f)).mp hkept
    refine ⟨hsame, hbase, hinside, fun l y hy hl reg hlow hhigh hcovers => hl ?_⟩
    obtain ⟨c, hc, rfl⟩ := (mem_fst_writeU32 hwords' (by omega) (r f) reg).mpr ⟨hlow, hhigh⟩
    obtain ⟨z, hz⟩ := hsound.apart _ hcell c hc (hkept c hc) l y hy hcovers
    exact (Owner.unique hz hit').1
  obtain ⟨hfirstwidth, -, hfirstinside, -⟩ :=
    hwritten 0 i₁ first (hn.mono Nat.one_pos (by omega)) (Nat.zero_le n) hfirst
  obtain ⟨hwidth, hbase, hinside, halone⟩ := hwritten n i it hn (Nat.le_refl n) hit
  refine ⟨hwidth, ?_, hinside.1, hinside.2, halone⟩
  -- the column ends before the registers begin again
  have hend : n * stride f first ≤ 4 * 0x1000 :=
    Nat.mul_le_mul (by omega) (by omega)
  have hnat := congrArg BitVec.toNat hbase
  rw [BitVec.toNat_ofNat, BitVec.toNat_ofNat, Nat.mod_eq_of_lt haddr,
    Nat.mod_eq_of_lt (by omega)] at hnat
  exact hnat

omit hlayout in
theorem rowsInPlace_of_flushSound {layout : FaultHmiLayout}
    (hlayout : buildLayoutFromHmiMap m = .ok layout) {center : Option FaultCenterPages}
    {cache : Option FaultHistoryCache} {historyPageNo : Nat}
    (hsound : FlushSound m (pageViews center cache historyPageNo)
      (flushToHmi (some layout) center cache historyPageNo))
    (hfull : ∀ pg n, n < layout.rows pg →
      ∃ r, (pageViews center cache historyPageNo pg).rows[n]? = some r) :
    RowsInPlace m where
  rows := by
    intro pg n hn f hf i₁ first i it hfirst hit
    have hrows := (lt_rows_iff hm hlayout pg n).mpr hn
    refine rowInPlace_of_flushSound hm hlayout hsound (fun k hk => ?_) hn hf hfirst hit
    exact hfull pg k (Nat.lt_of_le_of_lt hk hrows)
  singles := by
    intro pg f i it hit hlow hhigh j y hy hj r hle hlt hcovers
    obtain ⟨i', it', hit', hbase⟩ := single_base hm hlayout pg f
    have hown : Owner m pg (.single f) i' it' := hit'
    obtain ⟨rfl, rfl⟩ := hit.unique hown
    obtain ⟨haddr, -⟩ := Owner.bounds hm hit
    obtain rfl : r = it.addr := by omega
    have hreg : (BitVec.ofNat 16 it.addr : Word).toNat = it.addr := by
      rw [BitVec.toNat_ofNat]
      exact Nat.mod_eq_of_lt haddr
    have hcell : ∃ v, singleCell layout pg f v ∈
        flushToHmi (some layout) center cache historyPageNo :=
      ⟨_, mem_flushToHmi.mpr ⟨pg, (mem_flushPage hlayout).mpr (Or.inl ⟨f, _, rfl, rfl⟩)⟩⟩
    obtain ⟨v, hcell⟩ := hcell
    obtain ⟨z, hz⟩ := hsound.apart _ hcell (BitVec.ofNat 16 (layout.single pg f).base, v)
      (List.mem_singleton_self _) (by rw [isInputReg_iff, hbase, hreg]; exact ⟨hlow, hhigh⟩) j y hy
      (by rw [hbase, hreg]; exact hcovers)
    exact hj (Owner.unique hz hit).1

end Cells

/-- Rows that stand where their columns have them, and items that are apart. -/
theorem rowsInPlace_of_columns {m : HmiMapModel} (base width : Column → Nat)
    (hwidth : ∀ c : Column, c.2.isTime = false → width c = 1)
    (hrows : ∀ it ∈ m.items, ∀ pg : FaultPage, ∀ f ∈ pg.fields, 0 < rowOf (pg, f) it →
      it.words = width (pg, f) ∧ it.addr = base (pg, f) + (rowOf (pg, f) it - 1) * width (pg, f))
    (hinside : ∀ it ∈ m.items, 0x4000 ≤ it.addr ∧ 0 < it.words ∧ it.addr + it.words ≤ 0x5000)
    (hapart : m.items.Pairwise fun x y => x.addr + x.words ≤ y.addr) : RowsInPlace m := by
  have halone : ∀ i it, m.items[i]? = some it → ∀ words ≤ it.words, Alone m i it.addr words := by
    intro i it hit words hwords j y hy hj r hle hlt hcovers
    obtain ⟨hi, rfl⟩ := List.getElem?_eq_some_iff.mp hit
    obtain ⟨hjlt, rfl⟩ := List.getElem?_eq_some_iff.mp hy
    have hlow := hcovers.2.1
    have hhigh := hcovers.2.2
    rw [List.pairwise_iff_getElem] at hapart
    obtain hlt' | hgt := Nat.lt_or_gt_of_ne hj
    · have hend := hapart j i hjlt hi hlt'
      omega
    · have hend := hapart i j hi hjlt hgt
      omega
  constructor
  · intro pg n _ f hf i₁ first i it hfirst hit
    have hmem := List.mem_of_getElem? hit.get
    have hrow := hit.rowOf_eq
    have hrow₁ := hfirst.rowOf_eq
    obtain ⟨hwords, haddr⟩ := hrows it hmem pg f hf (by omega)
    obtain ⟨hwords₁, haddr₁⟩ :=
      hrows first (List.mem_of_getElem? hfirst.get) pg f hf (by omega)
    have hstride : stride f first = width (pg, f) := by
      unfold stride
      cases htime : f.isTime with
      | true => rw [if_pos rfl, hwords₁]
      | false => rw [if_neg (by decide), hwidth (pg, f) htime]
    rw [hrow₁, Nat.sub_self, Nat.zero_mul, Nat.add_zero] at haddr₁
    rw [hrow, Nat.add_sub_cancel] at haddr
    obtain ⟨hlow, -, hhigh⟩ := hinside it hmem
    exact ⟨by rw [hwords, hstride], by rw [haddr, haddr₁, hstride], hlow, hhigh,
      halone i it hit.get _ (Nat.le_refl _)⟩
  · intro pg f i it hit _ _
    have hpos := (hinside it (List.mem_of_getElem? hit.get)).2.1
    exact halone i it hit.get 1 hpos

/-! ### Full pages -/

/-- Five faults that are shown and not recorded. -/
def fiveFaults : List CatalogMeta :=
  [1, 2, 3, 4, 5].map fun code =>
    { name := "", classification := "A1", recordDb := false, priorityRank := 0, code, codeHex := ""
      faultType := "", faultLevel := "", reserved := false, showHmiCurrent := true
      showHmiHistory := true, sourceOrder := 0 }

def fullCenter : FaultCenterPages :=
  { center :=
      { active := {1, 2, 3, 4, 5}
        activeBeginMsByCode := [1, 2, 3, 4, 5].foldl (fun d code => d.insert code 1000) .empty }
    cat := some (LoadedCatalog.index (.run better fiveFaults)) }

/-- As many cleared faults as the page has rows. -/
def fullCache (rows : Nat) : FaultHistoryCache :=
  { sizes := .ofHistoryPageRows (BitVec.ofNat 16 rows), db := true, valid := true
    totalRows := rows, totalPages := 1
    windowRows := List.replicate rows {}, windowStartPage := 1, windowEndPage := 1 }

theorem length_visible_fullCenter : 5 ≤ fullCenter.collectCurrentVisibleCodes.length := by
  have hshown : ([1, 2, 3, 4, 5] : List (BitVec 16)).all
      (LoadedCatalog.index (.run better fiveFaults)).showInCurrent = true := by decide
  have hsubset : ([1, 2, 3, 4, 5] : List (BitVec 16)) ⊆
      fullCenter.collectCurrentVisibleCodes := by
    intro code hcode
    rw [FaultCenterPages.mem_visible_iff rfl]
    refine ⟨?_, List.all_eq_true.mp hshown code hcode⟩
    simpa [fullCenter] using hcode
  exact (List.subperm_of_subset (by decide) hsubset).length_le

theorem fullCenter_rows {n : Nat} (hn : n < 5) :
    ∃ r, (currentView (some fullCenter)).rows[n]? = some r := by
  have hlength : fullCenter.buildCurrentRows.length = 5 := by
    have hcodes := congrArg List.length fullCenter.codes_buildCurrentRows
    rw [List.length_map, Paging.page, Paging.length_slice] at hcodes
    have hvisible := length_visible_fullCenter
    have hpage : fullCenter.currentPage = 0 := rfl
    have hrows : kFaultPageRows = 5 := rfl
    rw [hcodes, hpage, hrows]
    omega
  have hlt : n < (currentView (some fullCenter)).rows.length := by
    rw [currentView, List.length_map, hlength]
    exact hn
  exact ⟨_, List.getElem?_eq_getElem hlt⟩

theorem fullCache_rows {rows n : Nat} (hrows : rows ≤ 5) (hn : n < rows) :
    ∃ r, (historyView 1 (some (fullCache rows))).rows[n]? = some r := by
  have hall : ∀ rows ≤ 5, ((fullCache rows).pageRows 1).length = rows := by decide
  have hlt : n < (historyView 1 (some (fullCache rows))).rows.length := by
    rw [historyView, List.length_map, hall rows hrows]
    exact hn
  exact ⟨_, List.getElem?_eq_getElem hlt⟩

/-- The rows of every fault state are written to the registers of their items, and to no others,
exactly if the map has them where the first row of each column says. -/
theorem flushSound_iff {parse : String → Except String Json} {path : String}
    {file : Option (List String)} {m : HmiMapModel} {layout : FaultHmiLayout}
    (h : Normal.loadJsonl parse path file = .ok m)
    (hlayout : buildLayoutFromHmiMap m = .ok layout) :
    (∀ center cache historyPageNo, FlushSound m (pageViews center cache historyPageNo)
      (flushToHmi (some layout) center cache historyPageNo)) ↔ RowsInPlace m := by
  have hm := HmiMapModel.indexed_of_loadJsonl h
  constructor
  · intro hsound
    refine rowsInPlace_of_flushSound hm hlayout
      (hsound (some fullCenter) (some (fullCache (layout.rows .history))) 1) fun pg n hn => ?_
    have hrow := ((lt_rows_iff hm hlayout pg n).mp hn).2.1
    cases pg with
    | current => exact fullCenter_rows hrow
    | history =>
      refine fullCache_rows (Nat.le_of_not_lt fun hmore => ?_) hn
      have hsixth := ((lt_rows_iff hm hlayout .history 5).mp hmore).2.1
      omega
  · intro hplace center cache historyPageNo
    exact flushSound_of_rowsInPlace hm hlayout hplace center cache historyPageNo

/-- Where the rows of a column begin in a map with two rows. -/
def twoRowsBase (c : Column) : Nat := 0x4000 + (pageItems 2).idxOf (c.1, .row c.2 0)

theorem rowsInPlace_of_twoRows {m : HmiMapModel} (h : MapOf 2 1 m) : RowsInPlace m := by
  have hplaces : ((pageItems 2).zipIdx.all fun e => match e.1.2 with
      | .single _ => true
      | .row f i => decide (0x4000 + e.2 = twoRowsBase (e.1.1, f) + i)) = true := by decide
  have hlength : m.items.length = 20 := h.length.trans (length_pageItems 2)
  have haddr : ∀ (k : Nat) (hk : k < m.items.length), m.items[k].addr = 0x4000 + k ∧
      m.items[k].words = 1 := by
    intro k hk
    obtain ⟨_, _, _, _, haddr, hwords⟩ := h.get (List.getElem?_eq_getElem hk)
    exact ⟨by rw [haddr, Nat.mul_one], hwords⟩
  refine rowsInPlace_of_columns twoRowsBase (fun _ => 1) (fun _ _ => rfl) ?_ ?_ ?_
  · intro it hit pg f hf hrow
    obtain ⟨k, hk⟩ := List.getElem?_of_mem hit
    obtain ⟨⟨pg', pl⟩, hp, hpath, hhas, haddr, hwords⟩ := h.get hk
    obtain ⟨rfl, i, rfl⟩ := place_of_rowOf hpath hrow
    have hi : i < 2 := by
      obtain ⟨f', hf'⟩ | ⟨f', -, i', hi', heq⟩ := mem_pageItems.mp (List.mem_of_getElem? hp)
      · cases hf'
      · cases heq
        exact hi'
    have hplace : 0x4000 + k = twoRowsBase (pg', f) + i := of_decide_eq_true
      (List.all_eq_true.mp hplaces _ (List.mk_mem_zipIdx_iff_getElem?.mpr hp))
    dsimp only at hpath ⊢
    rw [rowOf_eq_of_path hpath hhas hwords (by omega), Nat.add_sub_cancel, haddr]
    exact ⟨hwords, by omega⟩
  · intro it hit
    obtain ⟨k, hk, rfl⟩ := List.getElem_of_mem hit
    obtain ⟨haddr, hwords⟩ := haddr k hk
    omega
  · refine List.pairwise_iff_getElem.mpr fun i j hi hj hij => ?_
    obtain ⟨haddr₁, hwords⟩ := haddr i hi
    obtain ⟨haddr₂, -⟩ := haddr j hj
    omega

theorem flushSound_iff_twoRows :
    ∃ m layout, loadMap (mapItems 2 1) = .ok m ∧ buildLayoutFromHmiMap m = .ok layout ∧
      RowsInPlace m ∧
      ((∀ center cache historyPageNo, FlushSound m (pageViews center cache historyPageNo)
        (flushToHmi (some layout) center cache historyPageNo)) ↔ RowsInPlace m) := by
  obtain ⟨m, hload, hmap⟩ : ∃ m, loadMap (mapItems 2 1) = .ok m ∧ MapOf 2 1 m :=
    loadMap_mapOf (by decide) (by decide)
  have hm := HmiMapModel.indexed_of_loadJsonl hload
  obtain ⟨layout, hlayout⟩ := hmap.exists_layout hm (by decide) (by decide)
  exact ⟨m, layout, hload, hlayout, rowsInPlace_of_twoRows hmap, flushSound_iff hload hlayout⟩

/-- A register is left free behind each item: the second code goes to the free one. -/
theorem spaced_rows_missed :
    ∃ m layout, loadMap (mapItems 2 2) = .ok m ∧ buildLayoutFromHmiMap m = .ok layout ∧
      ¬ FlushSound m (pageViews (some fullCenter) none 1)
        (flushToHmi (some layout) (some fullCenter) none 1) := by
  obtain ⟨m, hload, hmap⟩ : ∃ m, loadMap (mapItems 2 2) = .ok m ∧ MapOf 2 2 m :=
    loadMap_mapOf (by decide) (by decide)
  have hm := HmiMapModel.indexed_of_loadJsonl hload
  obtain ⟨layout, hlayout⟩ := hmap.exists_layout hm (by decide) (by decide)
  refine ⟨m, layout, hload, hlayout, fun hsound => ?_⟩
  have hcode : RowField.code ∈ FaultPage.current.fields := by decide
  have hshown : ShownRow m .current 2 :=
    (hmap.shownRow_iff (by decide) .current 2).mpr (by decide)
  obtain ⟨i₁, first, hfirst⟩ := exists_owner hshown hcode (k := 0) (by decide)
  obtain ⟨i, it, hit⟩ := exists_owner hshown hcode (k := 1) (by decide)
  have hplace := rowInPlace_of_flushSound hm hlayout hsound
    (fun k hk => fullCenter_rows (by omega)) hshown hcode hfirst hit
  obtain ⟨_, _, _, _, haddr₁, _⟩ := hmap.get hfirst.get
  obtain ⟨_, _, _, _, haddr, _⟩ := hmap.get hit.get
  have hnext : it.addr = first.addr + 1 * 1 := hplace.addr
  omega

end Fault
end EnergyStorage
