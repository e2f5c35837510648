import EnergyStorage.Normal.MapIndexes

/-! # The layout of the fault pages

A column of a page is a run of rows in the map of the panel, of which the layout keeps the first
address, the number of rows and the width of the first one. -/

namespace EnergyStorage
namespace Fault

open Lib
open EnergyStorage.Normal (HmiMapItem HmiMapModel)

/-! ### Blocks -/

structure FaultHmiBlock where
  base : Nat := 0
  count : Nat := 0
  /-- Registers for each row. -/
  words : Nat := 1
  deriving DecidableEq, Repr

def FaultHmiBlock.valid (b : FaultHmiBlock) : Bool := b.base ≠ 0 && b.count ≠ 0 && b.words ≠ 0

inductive FaultPage
  | current
  | history
  deriving DecidableEq, Repr

/-- The fields of a page that are there once. -/
inductive PageField
  | totalPages
  | pageIndex
  deriving DecidableEq, Repr

inductive RowField
  | seq
  | code
  | onTime
  | offTime
  | state
  deriving DecidableEq, Repr

namespace FaultPage

def fields : FaultPage → List RowField
  | current => [.seq, .code, .onTime]
  | history => [.seq, .code, .onTime, .offTime, .state]

/-- The name of the page in the paths and in the texts of the errors. -/
def tag : FaultPage → String
  | current => "cur"
  | history => "his"

end FaultPage

def PageField.path (pg : FaultPage) : PageField → String
  | totalPages => "hmi.fault.num." ++ pg.tag ++ "_total_page"
  | pageIndex => "hmi.fault.num." ++ pg.tag ++ "_show_page"

def PageField.name : PageField → String
  | totalPages => "total_pages"
  | pageIndex => "page_index"

namespace RowField

def ending : RowField → String
  | seq => "_snum"
  | code => "_code"
  | onTime => "_triggertime"
  | offTime => "_disapptime"
  | state => "_state"

def name : RowField → String
  | seq => "seq"
  | code => "code"
  | onTime => "on_time"
  | offTime => "off_time"
  | state => "state"

/-- Written by `writeU32ToBlockRow`; of the others the low half is written to one register. -/
def isTime : RowField → Bool
  | onTime | offTime => true
  | seq | code | state => false

end RowField

/-- A field of a page. -/
abbrev Column := FaultPage × RowField

def rowStart (pg : FaultPage) : String := "hmi.fault.num." ++ pg.tag ++ "_row"

/-! ### Reading the map -/

/-- The number of the row between the two texts; 0 where there is none. -/
def rowNoBetween (s start ending : String) : Nat :=
  let cs := s.toList
  if ¬ start.toList <+: cs then 0
  else if cs.length ≤ start.toList.length + ending.toList.length then 0
  else if ¬ ending.toList <:+ cs then 0
  else
    let mid := (cs.drop start.toList.length).take
      (cs.length - start.toList.length - ending.toList.length)
    if mid = [] ∨ ¬ mid.all Char.isDigit then 0
    else
      match Lib.Numeral.stoi mid with
      | none => 0
      | some n => if 0 < n ∧ n ≤ 999 then n.toNat else 0

example : rowNoBetween "hmi.fault.num.cur_row12_code" "hmi.fault.num.cur_row" "_code" = 12 ∧
    rowNoBetween "hmi.fault.num.cur_row_code" "hmi.fault.num.cur_row" "_code" = 0 := by
  decide +kernel

def faultMapItemUsable (it : HmiMapItem) : Bool :=
  it.hasAddr && it.words ≠ 0 && it.path ≠ "" && it.path.startsWith "hmi.fault.num."

/-- The row of the column that the item is for; 0 for none. -/
def rowOf (c : Column) (it : HmiMapItem) : Nat :=
  if faultMapItemUsable it then rowNoBetween it.path (rowStart c.1) c.2.ending else 0

/-- The item of a field that is there once: the first usable one with the path. -/
def singleItem (m : HmiMapModel) (path : String) : Option Nat :=
  ((m.byPath.get path).getD []).find? fun i => ((m.itemAt i).map faultMapItemUsable).getD false

def buildSingleBlockFromMap (m : HmiMapModel) (path : String) : FaultHmiBlock :=
  match (singleItem m path).bind m.itemAt with
  | none => {}
  | some it => { base := it.addr, count := 1, words := if it.words = 0 then 1 else it.words }

/-- The items that were classified; all of them if none was. -/
def faultItems (m : HmiMapModel) : List Nat :=
  if m.faultNumItems = [] then List.range m.items.length else m.faultNumItems

/-- The first item of the row. -/
def rowItem (m : HmiMapModel) (c : Column) (row : Nat) : Option Nat :=
  (faultItems m).find? fun i => ((m.itemAt i).map fun it => decide (rowOf c it = row)).getD false

/-- Rows from 1 on without a gap. -/
def rowCount (m : HmiMapModel) (c : Column) : Nat :=
  ((List.range' 1 999).takeWhile fun row => (rowItem m c row).isSome).length

def buildRowBlockFromMap (m : HmiMapModel) (c : Column) : FaultHmiBlock :=
  match (rowItem m c 1).bind m.itemAt with
  | none => {}
  | some first =>
    { base := first.addr, count := rowCount m c
      words := if first.words = 0 then 1 else first.words }

/-! ### The layout -/

structure FaultHmiLayout where
  rows : FaultPage → Nat := fun _ => 5
  single : FaultPage → PageField → FaultHmiBlock := fun _ _ => {}
  column : Column → FaultHmiBlock := fun _ => {}

def clampRowsByBlock (want : Nat) (blocks : List FaultHmiBlock) : Nat :=
  let out := blocks.foldl (fun out b => if b.valid then min out b.count else out) want
  if out = 0 then want else out

namespace FaultHmiLayout

/-- The blocks of a page with their names, in the order of the checks. -/
def blocks (l : FaultHmiLayout) (pg : FaultPage) : List (String × FaultHmiBlock) :=
  [PageField.totalPages, .pageIndex].map (fun f => (pg.tag ++ "_" ++ f.name, l.single pg f)) ++
    pg.fields.map fun f => (pg.tag ++ "_" ++ f.name, l.column (pg, f))

/-- `currentValid` and `historyValid`. -/
def pageValid (l : FaultHmiLayout) (pg : FaultPage) : Bool := (l.blocks pg).all (·.2.valid)

end FaultHmiLayout

def hexDigit (n : Nat) : Char := (Nat.digitChar n).toUpper

/-- `0x%04X` of sixteen bits. -/
def hex4 (n : Nat) : String :=
  "0x" ++ String.ofList ([4096, 256, 16, 1].map fun k => hexDigit (n / k % 16))

def blockDesc (b : FaultHmiBlock) : String :=
  "base=" ++ hex4 b.base ++ " count=" ++ toString b.count ++ " words=" ++ toString b.words ++
    " valid=" ++ (if b.valid then "1" else "0")

/-- `appendMissing`, for all blocks of a page. -/
def missing (blocks : List (String × FaultHmiBlock)) : String :=
  String.intercalate "; "
    ((blocks.filter fun b => !b.2.valid).map fun b => b.1 ++ "(" ++ blockDesc b.2 ++ ")")

/-- The blocks before they are checked. -/
def layoutOf (m : HmiMapModel) : FaultHmiLayout where
  single pg f := buildSingleBlockFromMap m (f.path pg)
  column c := buildRowBlockFromMap m c
  rows pg := clampRowsByBlock 5 (pg.fields.map fun f => buildRowBlockFromMap m (pg, f))

def buildLayoutFromHmiMap (m : HmiMapModel) : Except String FaultHmiLayout :=
  let next := layoutOf m
  if !next.pageValid .current then
    .error ("HmiMapModel missing current fault layout: " ++ missing (next.blocks .current))
  else if !next.pageValid .history then
    .error ("HmiMapModel missing history fault layout: " ++ missing (next.blocks .history))
  else .ok next

/-! ### The items of the map -/

section Items

variable {m : HmiMapModel}

theorem classify_of_usable {it : HmiMapItem} (h : faultMapItemUsable it = true) :
    it.classifyItem = .faultNum ∧ it.hasPath = true := by
  simp only [faultMapItemUsable, Bool.and_eq_true, decide_eq_true_eq] at h
  obtain ⟨⟨-, hne⟩, hstart⟩ := h
  have hblank : it.path ≠ "_" := by
    intro heq
    rw [heq] at hstart
    revert hstart
    decide +kernel
  have hpath : it.hasPath = true := by simp [HmiMapItem.hasPath, hne, hblank]
  refine ⟨?_, hpath⟩
  rw [HmiMapItem.classifyItem, hpath, if_neg (by decide), if_pos hstart]

theorem usable_of_rowOf {c : Column} {it : HmiMapItem} {row : Nat} (hrow : 0 < row)
    (h : rowOf c it = row) : faultMapItemUsable it = true := by
  unfold rowOf at h
  split at h
  · assumption
  · omega

/-- The items of a row are looked for where they are. -/
theorem positions_faultItems (hm : m.Indexed) :
    ∃ p, Positions p m.items (faultItems m) ∧ ∀ it, faultMapItemUsable it = true → p it := by
  unfold faultItems
  split
  · exact ⟨_, Positions.all m.items, fun _ _ => trivial⟩
  · exact ⟨_, hm.faultNum, fun it h => (classify_of_usable h).1⟩

theorem getD_map_itemAt {test : HmiMapItem → Bool} {i : Nat} {it : HmiMapItem}
    (h : m.items[i]? = some it) : ((m.itemAt i).map test).getD false = test it := by
  rw [HmiMapModel.itemAt, h]
  rfl

/-- The row's item is the first of the map that is for this row. -/
theorem rowItem_eq_some_iff (hm : m.Indexed) (c : Column) {row : Nat} (hrow : 0 < row) {i : Nat} :
    rowItem m c row = some i ↔ ∃ it, IsFirst (fun it => rowOf c it = row) m.items i it := by
  obtain ⟨p, hp, husable⟩ := positions_faultItems hm
  refine hp.find?_eq_some_iff (fun it h => husable it (usable_of_rowOf hrow h)) fun j it hj _ => ?_
  rw [getD_map_itemAt hj]
  exact decide_eq_true_iff

theorem singleItem_eq_some_iff (hm : m.Indexed) (path : String) {i : Nat} :
    singleItem m path = some i ↔
      ∃ it, IsFirst (fun it => it.path = path ∧ faultMapItemUsable it = true) m.items i it := by
  refine (hm.byPath path).find?_eq_some_iff
    (fun it h => ⟨(classify_of_usable h.2).2, h.1⟩) fun j it hj hp => ?_
  rw [getD_map_itemAt hj]
  exact (and_iff_right hp.2).symm

theorem isSome_rowItem_iff (hm : m.Indexed) (c : Column) {row : Nat} (hrow : 0 < row) :
    (rowItem m c row).isSome ↔ ∃ it ∈ m.items, rowOf c it = row := by
  rw [Option.isSome_iff_exists]
  simp only [rowItem_eq_some_iff hm c hrow]
  constructor
  · intro ⟨i, it, h⟩
    exact ⟨it, List.mem_of_getElem? h.get, h.holds⟩
  · exact exists_isFirst

end Items

/-! ### What the layout keeps -/

theorem lt_length_takeWhile_range' {p : Nat → Bool} (s n i : Nat) :
    i < ((List.range' s n).takeWhile p).length ↔ i < n ∧ ∀ k, s ≤ k → k ≤ s + i → p k = true := by
  induction n generalizing s i with
  | zero => simp
  | succ n ih =>
    rw [List.range'_succ]
    cases hs : p s with
    | false =>
      rw [List.takeWhile_cons_of_neg (by simp [hs])]
      refine ⟨nofun, fun h => ?_⟩
      rw [h.2 s (Nat.le_refl s) (Nat.le_add_right s i)] at hs
      cases hs
    | true =>
      rw [List.takeWhile_cons_of_pos hs, List.length_cons]
      cases i with
      | zero =>
        refine ⟨fun _ => ⟨by omega, fun k hk hle => ?_⟩, fun _ => by omega⟩
        have hks : k = s := by omega
        rw [hks, hs]
      | succ i =>
        rw [Nat.add_lt_add_iff_right, ih]
        constructor
        · intro ⟨hi, hall⟩
          refine ⟨by omega, fun k hk hle => ?_⟩
          obtain rfl | hlt := Nat.eq_or_lt_of_le hk
          · exact hs
          · exact hall k hlt (by omega)
        · intro ⟨hi, hall⟩
          exact ⟨by omega, fun k hk hle => hall k (by omega) (by omega)⟩

theorem lt_foldl_min (blocks : List FaultHmiBlock) (h : ∀ b ∈ blocks, b.valid = true)
    (want i : Nat) :
    i < blocks.foldl (fun out b => if b.valid then min out b.count else out) want ↔
      i < want ∧ ∀ b ∈ blocks, i < b.count := by
  induction blocks generalizing want with
  | nil => simp
  | cons b rest ih =>
    rw [List.foldl_cons, if_pos (h b List.mem_cons_self),
      ih fun x hx => h x (List.mem_cons_of_mem b hx), List.forall_mem_cons, Nat.lt_min, and_assoc]

/-- A page shows as many rows as its shortest column has. -/
theorem lt_clampRowsByBlock {blocks : List FaultHmiBlock} (h : ∀ b ∈ blocks, b.valid = true)
    {want : Nat} (hwant : 0 < want) (i : Nat) :
    i < clampRowsByBlock want blocks ↔ i < want ∧ ∀ b ∈ blocks, i < b.count := by
  have hpos : 0 < blocks.foldl (fun out b => if b.valid then min out b.count else out) want := by
    refine (lt_foldl_min blocks h want 0).mpr ⟨hwant, fun b hb => ?_⟩
    have hvalid := h b hb
    simp only [FaultHmiBlock.valid, Bool.and_eq_true, decide_eq_true_eq] at hvalid
    omega
  rw [clampRowsByBlock, if_neg (Nat.ne_of_gt hpos), lt_foldl_min blocks h]

/-- The column has items for the rows from 1 to `n`. -/
def HasRows (m : HmiMapModel) (c : Column) (n : Nat) : Prop :=
  ∀ row, 0 < row → row ≤ n → ∃ it ∈ m.items, rowOf c it = row

/-- The row `n` is one of those that the page shows. -/
def ShownRow (m : HmiMapModel) (pg : FaultPage) (n : Nat) : Prop :=
  0 < n ∧ n ≤ 5 ∧ ∀ f ∈ pg.fields, HasRows m (pg, f) n

theorem lt_rowCount_iff {m : HmiMapModel} (hm : m.Indexed) (c : Column) (i : Nat) :
    i < rowCount m c ↔ i < 999 ∧ HasRows m c (i + 1) := by
  rw [rowCount, lt_length_takeWhile_range']
  refine and_congr_right fun _ => ?_
  constructor
  · intro h row hpos hle
    exact (isSome_rowItem_iff hm c hpos).mp (h row hpos (by omega))
  · intro h row hpos hle
    exact (isSome_rowItem_iff hm c hpos).mpr (h row hpos (by omega))

theorem singleBlock_valid {m : HmiMapModel} (hm : m.Indexed) (haddr : ∀ it ∈ m.items, it.addr ≠ 0)
    {path : String} (h : ∃ it ∈ m.items, it.path = path ∧ faultMapItemUsable it = true) :
    (buildSingleBlockFromMap m path).valid = true := by
  obtain ⟨i, it, hit⟩ := exists_isFirst h
  have hitem := (singleItem_eq_some_iff hm path).mpr ⟨it, hit⟩
  have hmem := List.mem_of_getElem? hit.get
  have hpos := haddr it hmem
  have hwords := hm.words it hmem
  rw [buildSingleBlockFromMap, hitem, Option.bind_some, HmiMapModel.itemAt, hit.get]
  simp [FaultHmiBlock.valid, hpos, Nat.ne_of_gt hwords]

theorem rowBlock_valid {m : HmiMapModel} (hm : m.Indexed) (haddr : ∀ it ∈ m.items, it.addr ≠ 0)
    {c : Column} (h : HasRows m c 1) : (buildRowBlockFromMap m c).valid = true := by
  obtain ⟨i, it, hit⟩ := exists_isFirst (h 1 Nat.one_pos (Nat.le_refl 1))
  have hitem := (rowItem_eq_some_iff hm c Nat.one_pos).mpr ⟨it, hit⟩
  have hmem := List.mem_of_getElem? hit.get
  have hpos := haddr it hmem
  have hwords := hm.words it hmem
  have hcount : 0 < rowCount m c := (lt_rowCount_iff hm c 0).mpr ⟨by decide, h⟩
  rw [buildRowBlockFromMap, hitem, Option.bind_some, HmiMapModel.itemAt, hit.get]
  simp [FaultHmiBlock.valid, hpos, Nat.ne_of_gt hwords, Nat.ne_of_gt hcount]

/-- A map is accepted that has, at addresses other than 0, what is there once and a first row. -/
theorem exists_layout {m : HmiMapModel} (hm : m.Indexed) (haddr : ∀ it ∈ m.items, it.addr ≠ 0)
    (hsingle : ∀ (pg : FaultPage) (f : PageField),
      ∃ it ∈ m.items, it.path = f.path pg ∧ faultMapItemUsable it = true)
    (hrows : ∀ pg : FaultPage, ∀ f ∈ pg.fields, HasRows m (pg, f) 1) :
    ∃ layout, buildLayoutFromHmiMap m = .ok layout := by
  have hvalid : ∀ pg, (layoutOf m).pageValid pg = true := by
    intro pg
    refine List.all_eq_true.mpr fun b hb => ?_
    obtain hb | hb := List.mem_append.mp hb
    · obtain ⟨f, -, rfl⟩ := List.mem_map.mp hb
      exact singleBlock_valid hm haddr (hsingle pg f)
    · obtain ⟨f, hf, rfl⟩ := List.mem_map.mp hb
      exact rowBlock_valid hm haddr (hrows pg f hf)
  refine ⟨layoutOf m, ?_⟩
  rw [buildLayoutFromHmiMap, hvalid, hvalid, if_neg (by decide), if_neg (by decide)]

section Layout

variable {m : HmiMapModel} {layout : FaultHmiLayout} (hm : m.Indexed)
  (hlayout : buildLayoutFromHmiMap m = .ok layout)

include hlayout

theorem layout_eq : layout = layoutOf m ∧ ∀ pg, layout.pageValid pg = true := by
  unfold buildLayoutFromHmiMap at hlayout
  dsimp only at hlayout
  split at hlayout
  · cases hlayout
  split at hlayout
  · cases hlayout
  rename_i hcurrent hhistory
  cases hlayout
  rw [Bool.not_eq_true', Bool.not_eq_false] at hcurrent hhistory
  refine ⟨rfl, fun pg => ?_⟩
  cases pg with
  | current => exact hcurrent
  | history => exact hhistory

theorem column_valid (pg : FaultPage) {f : RowField} (hf : f ∈ pg.fields) :
    (layout.column (pg, f)).valid = true := by
  have hall := List.all_eq_true.mp ((layout_eq hlayout).2 pg)
  exact hall _ (List.mem_append_right _ (List.mem_map.mpr ⟨f, hf, rfl⟩))

theorem single_valid (pg : FaultPage) (f : PageField) : (layout.single pg f).valid = true := by
  have hall := List.all_eq_true.mp ((layout_eq hlayout).2 pg)
  have hmem : f ∈ [PageField.totalPages, .pageIndex] := by
    cases f <;> simp
  exact hall _ (List.mem_append_left _ (List.mem_map.mpr ⟨f, hmem, rfl⟩))

include hm

/-- A field that is there once has the address of its item. -/
theorem single_base (pg : FaultPage) (f : PageField) :
    ∃ i it, IsFirst (fun it => it.path = f.path pg ∧ faultMapItemUsable it = true) m.items i it ∧
      (layout.single pg f).base = it.addr := by
  have hvalid := single_valid hlayout pg f
  have hsingle : layout.single pg f = buildSingleBlockFromMap m (f.path pg) := by
    rw [(layout_eq hlayout).1]
    rfl
  rw [hsingle] at hvalid ⊢
  unfold buildSingleBlockFromMap at hvalid ⊢
  cases hitem : (singleItem m (f.path pg)).bind m.itemAt with
  | none =>
    rw [hitem] at hvalid
    cases hvalid
  | some it =>
    obtain ⟨i, hi, hat⟩ := Option.bind_eq_some_iff.mp hitem
    obtain ⟨x, hx⟩ := (singleItem_eq_some_iff hm _).mp hi
    have hsame : x = it := Option.some.inj (hx.get.symm.trans hat)
    exact ⟨i, x, hx, hsame ▸ rfl⟩

/-- A column has the address and the width of its first row, and its rows. -/
theorem column_base (pg : FaultPage) {f : RowField} (hf : f ∈ pg.fields) :
    ∃ i it, IsFirst (fun it => rowOf (pg, f) it = 1) m.items i it ∧
      layout.column (pg, f) = ⟨it.addr, rowCount m (pg, f), it.words⟩ := by
  have hvalid := column_valid hlayout pg hf
  have hcolumn : layout.column (pg, f) = buildRowBlockFromMap m (pg, f) := by
    rw [(layout_eq hlayout).1]
    rfl
  rw [hcolumn] at hvalid ⊢
  unfold buildRowBlockFromMap at hvalid ⊢
  cases hitem : (rowItem m (pg, f) 1).bind m.itemAt with
  | none =>
    rw [hitem] at hvalid
    cases hvalid
  | some it =>
    obtain ⟨i, hi, hat⟩ := Option.bind_eq_some_iff.mp hitem
    obtain ⟨x, hx⟩ := (rowItem_eq_some_iff hm _ Nat.one_pos).mp hi
    have hsame : x = it := Option.some.inj (hx.get.symm.trans hat)
    have hwords := hm.words x (List.mem_of_getElem? hx.get)
    refine ⟨i, x, hx, ?_⟩
    rw [← hsame]
    dsimp only
    rw [if_neg (Nat.ne_of_gt hwords)]

/-- The rows that are written are those for which every column has items. -/
theorem lt_rows_iff (pg : FaultPage) (i : Nat) : i < layout.rows pg ↔ ShownRow m pg (i + 1) := by
  have hvalid : ∀ b ∈ pg.fields.map fun f => layout.column (pg, f), b.valid = true := by
    intro b hb
    obtain ⟨f, hf, rfl⟩ := List.mem_map.mp hb
    exact column_valid hlayout pg hf
  have hcounts : (∀ b ∈ pg.fields.map fun f => layout.column (pg, f), i < b.count) ↔
      ∀ f ∈ pg.fields, i < 999 ∧ HasRows m (pg, f) (i + 1) := by
    rw [List.forall_mem_map]
    refine forall₂_congr fun f hf => ?_
    obtain ⟨j, it, -, hcolumn⟩ := column_base hm hlayout pg hf
    rw [hcolumn, lt_rowCount_iff hm]
  have hrows : layout.rows pg =
      clampRowsByBlock 5 (pg.fields.map fun f => layout.column (pg, f)) := by
    rw [(layout_eq hlayout).1]
    rfl
  rw [hrows, lt_clampRowsByBlock hvalid (by decide), hcounts, ShownRow]
  constructor
  · intro ⟨hi, hall⟩
    exact ⟨by omega, by omega, fun f hf => (hall f hf).2⟩
  · intro ⟨_, hi, hall⟩
    exact ⟨by omega, fun f hf => ⟨by omega, hall f hf⟩⟩

end Layout

end Fault
end EnergyStorage
