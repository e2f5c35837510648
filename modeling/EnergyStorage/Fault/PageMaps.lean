import EnergyStorage.Fault.PageManager

/-! # Maps of the fault pages

A map that has the items of both pages, each with as many rows, from the first register on and
as far apart as is wanted. -/

namespace EnergyStorage
namespace Fault

open Lib
open EnergyStorage.Normal (HmiMapItem HmiMapModel HmiMapBlock)

/-! ### The line -/

def itemPath (pg : FaultPage) : Place → String
  | .single f => f.path pg
  | .row f i => rowStart pg ++ toString (i + 1) ++ f.ending

def pageItems (rows : Nat) : List (FaultPage × Place) :=
  [FaultPage.current, .history].flatMap fun pg =>
    ([PageField.totalPages, .pageIndex].map fun f => (pg, .single f)) ++
      pg.fields.flatMap fun f => (List.range rows).map fun i => (pg, .row f i)

/-- Paths and addresses. -/
def mapItems (rows step : Nat) : List (String × Nat) :=
  (pageItems rows).zipIdx.map fun e => (itemPath e.1.1 e.1.2, 0x4000 + e.2 * step)

def mapLine (items : List (String × Nat)) : String :=
  "\x7b\"type\":\"int_read\",\"items\":[" ++
    String.intercalate "," (items.map fun it =>
      "\x7b\"path\":\"" ++ it.1 ++ "\",\"addr\":" ++ toString it.2 ++ "\x7d") ++ "]\x7d"

def mapItem (it : String × Nat) : Json :=
  .object [("path", .string it.1), ("addr", .unsigned it.2)]

def mapBlock (items : List (String × Nat)) : Json :=
  .object [("type", .string "int_read"), ("items", .array (items.map mapItem))]

/-- The parser, as far as this line goes. -/
def parseMap (items : List (String × Nat)) (line : String) : Except String Json :=
  if line = mapLine items then .ok (mapBlock items) else .error "syntax error"

def loadMap (items : List (String × Nat)) : Except String HmiMapModel :=
  Normal.loadJsonl (parseMap items) "normal_map_logic.jsonl" (some [mapLine items])

/-! ### Loading it -/

theorem trim_eq_self {s : String} (hfirst : ∀ c, s.toList.head? = some c → isSpace c = false)
    (hlast : ∀ c, s.toList.getLast? = some c → isSpace c = false) : trim s = s := by
  have hdrop : s.toList.dropWhile isSpace = s.toList := by
    cases hs : s.toList with
    | nil => rfl
    | cons c cs =>
      have hc := hfirst c (by rw [hs, List.head?_cons])
      exact List.dropWhile_cons_of_neg (by rw [hc]; decide)
  have hrdrop : s.toList.rdropWhile isSpace = s.toList := by
    refine List.rdropWhile_eq_self_iff.mpr fun hne => ?_
    rw [hlast _ (List.getLast?_eq_some_getLast hne)]
    decide
  rw [trim, hdrop, hrdrop, String.ofList_toList]

theorem head?_append {s t : String} {c : Char} (h : s.toList.head? = some c) :
    (s ++ t).toList.head? = some c := by
  rw [String.toList_append, List.head?_append, h]
  rfl

theorem getLast?_append {s t : String} {c : Char} (h : t.toList.getLast? = some c) :
    (s ++ t).toList.getLast? = some c := by
  rw [String.toList_append, List.getLast?_append, h]
  rfl

theorem trim_of_ends {s : String} {a b : Char} (hfirst : s.toList.head? = some a)
    (hlast : s.toList.getLast? = some b) (ha : isSpace a = false) (hb : isSpace b = false) :
    trim s = s := by
  refine trim_eq_self ?_ ?_
  · intro c hc
    rw [Option.some.inj (hc.symm.trans hfirst)]
    exact ha
  · intro c hc
    rw [Option.some.inj (hc.symm.trans hlast)]
    exact hb

theorem head?_mapLine (items : List (String × Nat)) :
    (mapLine items).toList.head? = some '\x7b' :=
  head?_append (head?_append (by decide))

theorem trim_mapLine (items : List (String × Nat)) : trim (mapLine items) = mapLine items :=
  trim_of_ends (head?_mapLine items) (getLast?_append (c := '\x7d') (by decide)) (by decide)
    (by decide)

theorem trim_itemPath (pg : FaultPage) (pl : Place) : trim (itemPath pg pl) = itemPath pg pl := by
  have hstart : (rowStart pg).toList.head? = some 'h' := head?_append (head?_append (by decide))
  cases pl with
  | single f =>
    cases f with
    | totalPages =>
      exact trim_of_ends (head?_append (head?_append (c := 'h') (by decide)))
        (getLast?_append (c := 'e') (by decide)) (by decide) (by decide)
    | pageIndex =>
      exact trim_of_ends (head?_append (head?_append (c := 'h') (by decide)))
        (getLast?_append (c := 'e') (by decide)) (by decide) (by decide)
  | row f i =>
    have hending : ∃ c, f.ending.toList.getLast? = some c ∧ isSpace c = false := by
      cases f with
      | seq => exact ⟨'m', by decide, by decide⟩
      | code | onTime | offTime | state => exact ⟨'e', by decide, by decide⟩
    obtain ⟨c, hlast, hc⟩ := hending
    exact trim_of_ends (head?_append (head?_append hstart)) (getLast?_append hlast) (by decide) hc

/-- What the map has for an item of the file. -/
def ReadAs (e : String × Nat) (it : HmiMapItem) : Prop :=
  it.path = e.1 ∧ it.hasAddr = true ∧ it.addr = e.2 ∧ it.words = 1

theorem readItem_mapItem {blk : HmiMapBlock} {b i : Nat} {it : String × Nat}
    (htrim : trim it.1 = it.1) (haddr : it.2 ≤ 0xFFFF) :
    ∃ x, Normal.readItem blk b i (mapItem it) = .ok x ∧ ReadAs it x := by
  have hread : Normal.explicitAddr (mapItem it) = some it.2 := by
    have hparse : Normal.parseU16Any (.unsigned it.2) = some it.2 := by
      rw [Normal.parseU16Any, Normal.parseU32Any, Nat.mod_eq_of_lt (by omega), Option.filter_some,
        if_pos (by simpa using haddr)]
    have hother : (mapItem it).find "地址hex" = none := rfl
    have hfind : (mapItem it).find "addr" = some (.unsigned it.2) := rfl
    rw [Normal.explicitAddr, if_pos (by rfl), Normal.readU16Any, Json.readAny,
      List.findSome?_cons, hother, Option.bind_none]
    dsimp only
    rw [List.findSome?_cons, hfind, Option.bind_some, hparse]
  have hpath : Normal.readStringAny (mapItem it) ["path"] = some (trim it.1) := rfl
  have hwords : Normal.readU16Any (mapItem it) ["长度/int16", "words", "length", "长度"] = none := rfl
  rw [Normal.readItem, if_pos (by rfl), hread, hpath, hwords]
  exact ⟨_, rfl, htrim, rfl, rfl, rfl⟩

theorem loadItems_mapItems {items : List (String × Nat)}
    (h : ∀ it ∈ items, trim it.1 = it.1 ∧ it.2 ≤ 0xFFFF) (i : Nat) (blk : HmiMapBlock)
    (m : HmiMapModel) :
    ∃ blk' m' new, Normal.loadItems i (items.map mapItem) blk m = .ok (blk', m') ∧
      m'.items = m.items ++ new ∧ List.Forall₂ ReadAs items new := by
  induction items generalizing i blk m with
  | nil => exact ⟨blk, m, [], rfl, (List.append_nil _).symm, .nil⟩
  | cons it rest ih =>
    obtain ⟨htrim, haddr⟩ := h it List.mem_cons_self
    obtain ⟨x, hx, hread⟩ := @readItem_mapItem blk m.blocks.length i it htrim haddr
    obtain ⟨blk', m', new, hload, hitems, hnew⟩ :=
      ih (fun y hy => h y (List.mem_cons_of_mem it hy)) (i + 1)
        { blk with itemIndexes := blk.itemIndexes ++ [m.items.length] } (m.appendItemToModel x)
    refine ⟨blk', m', x :: new, ?_, ?_, .cons hread hnew⟩
    · rw [List.map_cons, Normal.loadItems, hx]
      exact hload
    · rw [hitems]
      show m.items ++ [x] ++ new = _
      rw [List.append_assoc, List.singleton_append]

theorem loadMap_eq {items : List (String × Nat)}
    (h : ∀ it ∈ items, trim it.1 = it.1 ∧ it.2 ≤ 0xFFFF) :
    ∃ m, loadMap items = .ok m ∧ List.Forall₂ ReadAs items m.items := by
  have hne : mapLine items ≠ "" := by
    intro heq
    have hhead := head?_mapLine items
    rw [heq] at hhead
    revert hhead
    decide
  have hparse : parseMap items (mapLine items) = .ok (mapBlock items) := if_pos rfl
  have hobject : (mapBlock items).isObject = true := rfl
  have htype : Normal.readStringAny (mapBlock items) ["type"] = some "int_read" := rfl
  have hitems : (mapBlock items).find "items" = some (.array (items.map mapItem)) := rfl
  obtain ⟨blk, m, new, hload, hm, hnew⟩ := loadItems_mapItems h 0
    (Normal.readBlock 1 (Normal.parseType "int_read") "int_read" (mapBlock items)) {}
  refine ⟨{ m with blocks := m.blocks ++ [Normal.backfillBase (items.map mapItem) blk] }, ?_, ?_⟩
  · have hblock : Normal.loadBlock 1 (mapBlock items) {} =
        .ok { m with blocks := m.blocks ++ [Normal.backfillBase (items.map mapItem) blk] } := by
      rw [Normal.loadBlock, hobject, if_neg (by decide), htype]
      dsimp only
      rw [if_neg (by decide), hitems]
      dsimp only
      rw [hload]
    rw [loadMap, Normal.loadJsonl, Normal.loadLines, trim_mapLine, if_neg hne, hparse]
    dsimp only
    rw [hblock]
    rfl
  · rw [hm]
    exact hnew

/-! ### The rows that are found -/

theorem rowNoBetween_ends {s start ending : String} (h : 0 < rowNoBetween s start ending) :
    start.toList <+: s.toList ∧ ending.toList <:+ s.toList := by
  unfold rowNoBetween at h
  dsimp only at h
  split at h
  · omega
  rename_i hstart
  split at h
  · omega
  split at h
  · omega
  rename_i hending
  exact ⟨not_not.mp hstart, not_not.mp hending⟩

theorem rowNoBetween_of_digit (start ending : String) {n : Nat} (hpos : 0 < n) (hn : n < 10) :
    rowNoBetween (start ++ toString n ++ ending) start ending = n := by
  have hdigit : ∀ n : Nat, n < 10 → 0 < n → (toString n).toList ≠ [] ∧
      (toString n).toList.all Char.isDigit = true ∧
      Lib.Numeral.stoi (toString n).toList = some (n : Int) := by decide
  obtain ⟨hne, hall, hvalue⟩ := hdigit n hn hpos
  have hlength : 0 < (toString n).toList.length := List.length_pos_of_ne_nil hne
  have hmid : ((start ++ toString n ++ ending).toList.drop start.toList.length).take
      ((start ++ toString n ++ ending).toList.length - start.toList.length -
        ending.toList.length) = (toString n).toList := by
    simp only [String.toList_append, List.append_assoc, List.length_append, List.drop_left]
    rw [Nat.add_sub_cancel_left, Nat.add_sub_cancel, List.take_left]
  have hstart : start.toList <+: (start ++ toString n ++ ending).toList := by
    rw [String.toList_append, String.toList_append, List.append_assoc]
    exact List.prefix_append _ _
  have hending : ending.toList <:+ (start ++ toString n ++ ending).toList := by
    rw [String.toList_append]
    exact List.suffix_append _ _
  have hmore : ¬ (start ++ toString n ++ ending).toList.length ≤
      start.toList.length + ending.toList.length := by
    rw [String.toList_append, String.toList_append, List.length_append, List.length_append]
    omega
  rw [rowNoBetween]
  dsimp only
  rw [if_neg (not_not.mpr hstart), if_neg hmore, if_neg (not_not.mpr hending), hmid,
    if_neg (not_or.mpr ⟨hne, not_not.mpr hall⟩), hvalue]
  dsimp only
  rw [if_pos (by omega), Int.toNat_natCast]

theorem ending_inj {f f' : RowField} (h : f.ending.toList <:+ f'.ending.toList) : f = f' := by
  revert h
  cases f <;> cases f' <;> decide

theorem rowStart_inj {pg pg' : FaultPage}
    (h : (rowStart pg).toList <+: (rowStart pg').toList) : pg = pg' := by
  revert h
  cases pg <;> cases pg' <;> decide

theorem not_ending_suffix_path (f : RowField) (pg : FaultPage) (f' : PageField) :
    ¬ f.ending.toList <:+ (f'.path pg).toList := by
  have hpath : ∃ start tail : String, f'.path pg = start ++ tail ∧
      ¬ f.ending.toList <:+ tail.toList ∧ ¬ tail.toList <:+ f.ending.toList := by
    cases f' with
    | totalPages => exact ⟨_, _, rfl, by cases f <;> decide, by cases f <;> decide⟩
    | pageIndex => exact ⟨_, _, rfl, by cases f <;> decide, by cases f <;> decide⟩
  intro hsuffix
  obtain ⟨start, tail, heq, hneither⟩ := hpath
  have htail : tail.toList <:+ (f'.path pg).toList := by
    rw [heq, String.toList_append]
    exact List.suffix_append _ _
  exact (List.suffix_or_suffix_of_suffix hsuffix htail).elim hneither.1 hneither.2

/-- The item of a row is for this row of its column and for no other. -/
theorem place_of_rowOf {it : HmiMapItem} {pg pg' : FaultPage} {pl : Place} {f : RowField}
    (hpath : it.path = itemPath pg' pl) (h : 0 < rowOf (pg, f) it) :
    pg' = pg ∧ ∃ i, pl = .row f i := by
  have hrow : 0 < rowNoBetween (itemPath pg' pl) (rowStart pg) f.ending := by
    rw [rowOf, hpath] at h
    split at h
    · exact h
    · omega
  obtain ⟨hstart, hending⟩ := rowNoBetween_ends hrow
  cases pl with
  | single f' => exact absurd hending (not_ending_suffix_path f pg' f')
  | row f' i =>
    have hstart' : (rowStart pg').toList <+: (itemPath pg' (.row f' i)).toList := by
      rw [itemPath, String.toList_append, String.toList_append, List.append_assoc]
      exact List.prefix_append _ _
    have hending' : f'.ending.toList <:+ (itemPath pg' (.row f' i)).toList := by
      rw [itemPath, String.toList_append]
      exact List.suffix_append _ _
    have hpage : pg' = pg := by
      obtain hle | hle := List.prefix_or_prefix_of_prefix hstart hstart'
      · exact (rowStart_inj hle).symm
      · exact rowStart_inj hle
    have hfield : f' = f := by
      obtain hle | hle := List.suffix_or_suffix_of_suffix hending hending'
      · exact (ending_inj hle).symm
      · exact ending_inj hle
    exact ⟨hpage, i, by rw [hfield]⟩

theorem usable_of_path {it : HmiMapItem} {pg : FaultPage} {pl : Place}
    (hpath : it.path = itemPath pg pl) (haddr : it.hasAddr = true) (hwords : it.words = 1) :
    faultMapItemUsable it = true := by
  have hstart : "hmi.fault.num.".toList <+: (itemPath pg pl).toList := by
    cases pl with
    | single f =>
      cases f <;>
      · simp only [itemPath, PageField.path, String.toList_append, List.append_assoc]
        exact List.prefix_append _ _
    | row f i =>
      simp only [itemPath, rowStart, String.toList_append, List.append_assoc]
      exact List.prefix_append _ _
  have hne : it.path ≠ "" := by
    intro heq
    rw [← hpath, heq] at hstart
    revert hstart
    decide
  rw [← hpath] at hstart
  rw [faultMapItemUsable, haddr, hwords, String.startsWith_string_iff.mpr hstart]
  simp [hne]

theorem rowOf_eq_of_path {it : HmiMapItem} {pg : FaultPage} {f : RowField} {i : Nat}
    (hpath : it.path = itemPath pg (.row f i)) (haddr : it.hasAddr = true) (hwords : it.words = 1)
    (hi : i < 9) : rowOf (pg, f) it = i + 1 := by
  rw [rowOf, if_pos (usable_of_path hpath haddr hwords), hpath]
  exact rowNoBetween_of_digit _ _ (Nat.succ_pos i) (by omega)

/-! ### The map -/

theorem mem_pageItems {rows : Nat} {pg : FaultPage} {pl : Place} :
    (pg, pl) ∈ pageItems rows ↔
      (∃ f, pl = .single f) ∨ ∃ f ∈ pg.fields, ∃ i < rows, pl = .row f i := by
  have hsingles : ∀ f : PageField, f ∈ [PageField.totalPages, .pageIndex] := by
    intro f
    cases f <;> simp
  have hpages : ∀ pg : FaultPage, pg ∈ [FaultPage.current, .history] := by
    intro pg
    cases pg <;> simp
  rw [pageItems, List.mem_flatMap]
  constructor
  · intro ⟨pg', _, h⟩
    obtain h | h := List.mem_append.mp h
    · obtain ⟨f, _, h⟩ := List.mem_map.mp h
      exact Or.inl ⟨f, (Prod.mk.inj h).2.symm⟩
    · obtain ⟨f, hf, h⟩ := List.mem_flatMap.mp h
      obtain ⟨i, hi, h⟩ := List.mem_map.mp h
      obtain ⟨rfl, rfl⟩ := Prod.mk.inj h
      exact Or.inr ⟨f, hf, i, List.mem_range.mp hi, rfl⟩
  · intro h
    refine ⟨pg, hpages pg, List.mem_append.mpr ?_⟩
    obtain ⟨f, rfl⟩ | ⟨f, hf, i, hi, rfl⟩ := h
    · exact Or.inl (List.mem_map_of_mem (hsingles f))
    · refine Or.inr (List.mem_flatMap.mpr ⟨f, hf, ?_⟩)
      exact List.mem_map_of_mem (List.mem_range.mpr hi)

theorem length_pageItems (rows : Nat) : (pageItems rows).length = 8 * rows + 4 := by
  simp [pageItems, FaultPage.fields]
  omega

/-- The items of the map are those of the pages, in order. -/
structure MapOf (rows step : Nat) (m : HmiMapModel) : Prop where
  length : m.items.length = (pageItems rows).length
  read : ∀ (k : Nat) (p : FaultPage × Place) (it : HmiMapItem), (pageItems rows)[k]? = some p →
    m.items[k]? = some it → ReadAs (itemPath p.1 p.2, 0x4000 + k * step) it

section MapOf

variable {rows step : Nat} {m : HmiMapModel} (h : MapOf rows step m)

include h

theorem MapOf.get {it : HmiMapItem} {k : Nat} (hit : m.items[k]? = some it) :
    ∃ p, (pageItems rows)[k]? = some p ∧ ReadAs (itemPath p.1 p.2, 0x4000 + k * step) it := by
  have hk : k < (pageItems rows).length := h.length ▸ (List.getElem?_eq_some_iff.mp hit).1
  exact ⟨_, List.getElem?_eq_getElem hk, h.read k _ it (List.getElem?_eq_getElem hk) hit⟩

theorem MapOf.exists_item {pg : FaultPage} {pl : Place} (hp : (pg, pl) ∈ pageItems rows) :
    ∃ it ∈ m.items, it.path = itemPath pg pl ∧ it.hasAddr = true ∧ it.words = 1 := by
  obtain ⟨k, hk⟩ := List.getElem?_of_mem hp
  have hlt : k < m.items.length := h.length ▸ (List.getElem?_eq_some_iff.mp hk).1
  obtain ⟨hpath, haddr, -, hwords⟩ := h.read k _ _ hk (List.getElem?_eq_getElem hlt)
  exact ⟨_, List.getElem_mem hlt, hpath, haddr, hwords⟩

theorem MapOf.hasRows_iff (hmax : rows < 10) {pg : FaultPage} {f : RowField} (hf : f ∈ pg.fields)
    (n : Nat) : HasRows m (pg, f) n ↔ n ≤ rows := by
  constructor
  · intro hrows
    obtain rfl | hpos := Nat.eq_zero_or_pos n
    · exact Nat.zero_le rows
    obtain ⟨it, hit, hrow⟩ := hrows n hpos (Nat.le_refl n)
    obtain ⟨k, hk⟩ := List.getElem?_of_mem hit
    obtain ⟨⟨pg', pl⟩, hp, hpath, haddr, -, hwords⟩ := h.get hk
    have hfound : 0 < rowOf (pg, f) it := by omega
    obtain ⟨rfl, i, rfl⟩ := place_of_rowOf hpath hfound
    obtain ⟨f', hf'⟩ | ⟨f', -, i', hi', heq⟩ := mem_pageItems.mp (List.mem_of_getElem? hp)
    · cases hf'
    · cases heq
      rw [rowOf_eq_of_path hpath haddr hwords (by omega)] at hrow
      omega
  · intro hn row hpos hrow
    obtain ⟨it, hit, hpath, haddr, hwords⟩ :=
      h.exists_item (mem_pageItems.mpr (Or.inr ⟨f, hf, row - 1, by omega, rfl⟩))
    refine ⟨it, hit, ?_⟩
    rw [rowOf_eq_of_path hpath haddr hwords (by omega)]
    omega

/-- As many rows are shown as the map has, up to five. -/
theorem MapOf.shownRow_iff (hmax : rows < 10) (pg : FaultPage) (n : Nat) :
    ShownRow m pg n ↔ 0 < n ∧ n ≤ 5 ∧ n ≤ rows := by
  have hseq : RowField.seq ∈ pg.fields := by
    cases pg <;> decide
  refine and_congr_right fun _ => and_congr_right fun _ => ?_
  constructor
  · intro hall
    exact (h.hasRows_iff hmax hseq n).mp (hall .seq hseq)
  · intro hn f hf
    exact (h.hasRows_iff hmax hf n).mpr hn

theorem MapOf.exists_layout (hm : m.Indexed) (hrows : 0 < rows) (hmax : rows < 10) :
    ∃ layout, buildLayoutFromHmiMap m = .ok layout := by
  refine Fault.exists_layout hm ?_ ?_ ?_
  · intro it hit
    obtain ⟨k, hk⟩ := List.getElem?_of_mem hit
    obtain ⟨_, _, _, _, haddr, _⟩ := h.get hk
    rw [haddr]
    omega
  · intro pg f
    have hp : (pg, Place.single f) ∈ pageItems rows := mem_pageItems.mpr (Or.inl ⟨f, rfl⟩)
    obtain ⟨it, hit, hpath, haddr, hwords⟩ := h.exists_item hp
    exact ⟨it, hit, hpath, usable_of_path hpath haddr hwords⟩
  · intro pg f hf
    exact (h.hasRows_iff hmax hf 1).mpr hrows

end MapOf

theorem loadMap_mapOf {rows step : Nat} (hmax : rows < 10) (hstep : step ≤ 0x100) :
    ∃ m, loadMap (mapItems rows step) = .ok m ∧ MapOf rows step m := by
  have hlength : (mapItems rows step).length = (pageItems rows).length := by
    rw [mapItems, List.length_map, List.length_zipIdx]
  have hfits : ∀ it ∈ mapItems rows step, trim it.1 = it.1 ∧ it.2 ≤ 0xFFFF := by
    intro it hit
    obtain ⟨⟨p, k⟩, he, rfl⟩ := List.mem_map.mp hit
    have hk := (List.mem_zipIdx' he).1
    rw [length_pageItems] at hk
    have haddr : k * step ≤ 75 * 0x100 := Nat.mul_le_mul (by omega) hstep
    exact ⟨trim_itemPath p.1 p.2, by dsimp only; omega⟩
  obtain ⟨m, hload, hitems⟩ := loadMap_eq hfits
  obtain ⟨hsame, hread⟩ := List.forall₂_iff_get.mp hitems
  refine ⟨m, hload, hsame.symm.trans hlength, fun k p it hp hit => ?_⟩
  obtain ⟨hk, rfl⟩ := List.getElem?_eq_some_iff.mp hit
  have hitem : (mapItems rows step)[k]? = some (itemPath p.1 p.2, 0x4000 + k * step) := by
    rw [mapItems, List.getElem?_map, List.getElem?_zipIdx, hp, Nat.zero_add]
    rfl
  obtain ⟨hk', heq⟩ := List.getElem?_eq_some_iff.mp hitem
  have hone := hread k hk' hk
  rw [List.get_eq_getElem, List.get_eq_getElem, heq] at hone
  exact hone

end Fault
end EnergyStorage
