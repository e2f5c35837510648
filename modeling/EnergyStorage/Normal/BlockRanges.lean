import EnergyStorage.Normal.NormalHmiWriter

/-! # The registers of a block

The loader counts the items of a block, not their registers.  The items keep apart exactly
when each that another one follows takes one register. -/

namespace EnergyStorage
namespace Normal

open Lib (Json)

/-! ### What the loader makes of a block -/

/-- What holds of the item at place `i` of a block that starts with this base. -/
structure ItemRead (known : Bool) (start i : Nat) (it : HmiMapItem) : Prop where
  index : it.itemIndex = i
  hasBase : it.blockHasBase = known
  base : it.blockBase = start
  words : 0 < it.words
  addr : it.hasAddr = true → it.addr ≤ 0xFFFF
  missing : known = true → it.hasAddr = false → 0xFFFF < start + i

theorem readU16Any_le {j : Json} {keys : List String} {n : Nat} (h : readU16Any j keys = some n) :
    n ≤ 0xFFFF := by
  obtain ⟨key, -, hkey⟩ := List.exists_of_findSome?_eq_some h
  obtain ⟨v, -, hv⟩ := Option.bind_eq_some_iff.mp hkey
  exact of_decide_eq_true (Option.filter_eq_some_iff.mp hv).2

theorem explicitAddr_le {one : Json} {n : Nat} (h : explicitAddr one = some n) : n ≤ 0xFFFF := by
  unfold explicitAddr at h
  split at h
  · exact readU16Any_le h
  · cases h

theorem readItem_spec {blk : HmiMapBlock} {b i : Nat} {one : Json} {it : HmiMapItem}
    (h : readItem blk b i one = .ok it) : ItemRead blk.hasBase blk.base i it := by
  have hwords : ∀ n : Nat, 0 < if n = 0 then 1 else n := by
    intro n
    split <;> omega
  unfold readItem at h
  dsimp only at h
  split at h
  · split at h
    · rename_i addr haddr
      cases h
      exact ⟨rfl, rfl, rfl, hwords _, fun _ => explicitAddr_le haddr, nofun⟩
    · split at h
      · rename_i hbase
        cases h
        refine ⟨rfl, rfl, rfl, hwords _, nofun, ?_⟩
        intro hhas
        rw [hhas] at hbase
        cases hbase
      · split at h
        · cases h
        · rename_i hfits
          cases h
          exact ⟨rfl, rfl, rfl, hwords _, fun _ => Nat.le_of_not_lt hfits, nofun⟩
  · split at h
    · rename_i hfits
      cases h
      rw [Bool.and_eq_true, decide_eq_true_eq] at hfits
      exact ⟨rfl, rfl, rfl, Nat.one_pos, fun _ => hfits.2, nofun⟩
    · rename_i hbeyond
      cases h
      refine ⟨rfl, rfl, rfl, Nat.one_pos, nofun, ?_⟩
      intro hhas _
      rw [hhas, Bool.true_and, decide_eq_true_eq] at hbeyond
      show 0xFFFF < blk.base + i
      omega

/-- The items of a block stand one after the other in the map, in its order. -/
def BlockRead (items : List HmiMapItem) (blk : HmiMapBlock) : Prop :=
  ∃ pre new post, items = pre ++ new ++ post ∧
    blk.itemIndexes = List.range' pre.length new.length ∧
    ∃ hasBase base, ∀ i it, new[i]? = some it → ItemRead hasBase base i it

theorem BlockRead.append {items : List HmiMapItem} {blk : HmiMapBlock} (h : BlockRead items blk)
    (more : List HmiMapItem) : BlockRead (items ++ more) blk := by
  obtain ⟨pre, new, post, rfl, hindexes, hread⟩ := h
  exact ⟨pre, new, post ++ more, List.append_assoc _ post more, hindexes, hread⟩

theorem loadItems_spec {i : Nat} {arr : List Json} {blk blk' : HmiMapBlock} {m m' : HmiMapModel}
    (h : loadItems i arr blk m = .ok (blk', m')) :
    m'.blocks = m.blocks ∧ ∃ new, m'.items = m.items ++ new ∧
      blk'.itemIndexes = blk.itemIndexes ++ List.range' m.items.length new.length ∧
      ∀ k it, new[k]? = some it → ItemRead blk.hasBase blk.base (i + k) it := by
  induction arr generalizing i blk m with
  | nil =>
    cases h
    exact ⟨rfl, [], (List.append_nil _).symm, (List.append_nil _).symm, nofun⟩
  | cons one rest ih =>
    rw [loadItems] at h
    cases hitem : readItem blk m.blocks.length i one with
    | error e =>
      rw [hitem] at h
      cases h
    | ok it =>
      rw [hitem] at h
      obtain ⟨hblocks, new, hitems, hindexes, hread⟩ := ih h
      refine ⟨hblocks, it :: new, ?_, ?_, ?_⟩
      · rw [hitems]
        exact List.append_assoc m.items [it] new
      · rw [hindexes]
        show blk.itemIndexes ++ [m.items.length] ++
          List.range' (m.items ++ [it]).length new.length = _
        rw [List.length_append, List.append_assoc]
        rfl
      · intro k x hx
        cases k with
        | zero =>
          cases hx
          exact readItem_spec hitem
        | succ k =>
          have hnext := hread k x hx
          rw [Nat.add_right_comm] at hnext
          exact hnext

/-- Every block of the map was read from one line. -/
def BlocksRead (m : HmiMapModel) : Prop := ∀ blk ∈ m.blocks, BlockRead m.items blk

theorem itemIndexes_backfillBase (arr : List Json) (blk : HmiMapBlock) :
    (backfillBase arr blk).itemIndexes = blk.itemIndexes := by
  unfold backfillBase
  split
  · rfl
  · split <;> rfl

theorem BlocksRead.loadBlock {lineNo : Nat} {j : Json} {m m' : HmiMapModel} (hm : BlocksRead m)
    (h : loadBlock lineNo j m = .ok m') : BlocksRead m' := by
  unfold Normal.loadBlock at h
  dsimp only at h
  split at h
  · cases h
  split at h
  · cases h
  split at h
  · cases h
  split at h
  · rename_i arr _
    split at h
    · cases h
    · rename_i blk m₁ hload
      cases h
      obtain ⟨hblocks, new, hitems, hindexes, hread⟩ := loadItems_spec hload
      intro blk' hblk'
      rw [hblocks] at hblk'
      obtain hold | hnew := List.mem_append.mp hblk'
      · show BlockRead m₁.items blk'
        rw [hitems]
        exact (hm blk' hold).append new
      · rw [List.mem_singleton.mp hnew]
        refine ⟨m.items, new, [], ?_, ?_, ?_⟩
        · rw [List.append_nil]
          exact hitems
        · rw [itemIndexes_backfillBase, hindexes]
          rfl
        · simp only [Nat.zero_add] at hread
          exact ⟨_, _, hread⟩
  · cases h

theorem BlocksRead.loadLines {parse : String → Except String Json} {lineNo : Nat}
    {lines : List String} {m m' : HmiMapModel} (hm : BlocksRead m)
    (h : loadLines parse lineNo lines m = .ok m') : BlocksRead m' := by
  induction lines generalizing lineNo m with
  | nil =>
    cases h
    exact hm
  | cons line rest ih =>
    rw [Normal.loadLines] at h
    split at h
    · exact ih hm h
    · split at h
      · cases h
      · split at h
        · cases h
        · rename_i m₁ hblock
          exact ih (hm.loadBlock hblock) h

theorem blocksRead_of_loadJsonl {parse : String → Except String Json} {path : String}
    {file : Option (List String)} {m : HmiMapModel} (h : loadJsonl parse path file = .ok m) :
    BlocksRead m := by
  cases file with
  | none => cases h
  | some lines =>
    have hempty : BlocksRead {} := by
      intro blk hblk
      cases hblk
    exact hempty.loadLines h

/-! ### The items of a block -/

def HmiMapModel.blockItems (m : HmiMapModel) (blk : HmiMapBlock) : List HmiMapItem :=
  blk.itemIndexes.filterMap m.itemAt

theorem filterMap_getElem?_range' {α : Type*} (pre new post : List α) :
    (List.range' pre.length new.length).filterMap (fun i => (pre ++ new ++ post)[i]?) = new := by
  induction new generalizing pre with
  | nil => rfl
  | cons x new ih =>
    have hfirst : (pre ++ x :: new ++ post)[pre.length]? = some x := by simp
    have hnext := ih (pre ++ [x])
    rw [List.length_append, List.append_assoc pre [x] new] at hnext
    rw [List.length_cons, List.range'_succ, List.filterMap_cons_some hfirst]
    exact congrArg (x :: ·) hnext

/-- The items of a block take their addresses from its base. -/
def HmiMapModel.TakesBase (m : HmiMapModel) (blk : HmiMapBlock) : Prop :=
  ∀ it ∈ m.blockItems blk, it.blockHasBase = true ∧
    (it.hasAddr = true → it.addr = it.blockBase + it.itemIndex)

/-- Items counted from a base; those that lie beyond the last register have no address. -/
structure Counted (base : Nat) (its : List HmiMapItem) : Prop where
  words : ∀ (i : Nat) (x : HmiMapItem), its[i]? = some x → 0 < x.words
  addr : ∀ (i : Nat) (x : HmiMapItem), its[i]? = some x → x.hasAddr = true →
    x.addr = base + i ∧ base + i ≤ 0xFFFF
  missing : ∀ (i : Nat) (x : HmiMapItem), its[i]? = some x → x.hasAddr = false →
    0xFFFF < base + i

theorem counted_of_takesBase {m : HmiMapModel} {blk : HmiMapBlock} (hread : BlockRead m.items blk)
    (hbase : m.TakesBase blk) : ∃ base, Counted base (m.blockItems blk) := by
  obtain ⟨pre, new, post, hitems, hindexes, hasBase, base, hnew⟩ := hread
  have hblock : m.blockItems blk = new := by
    rw [HmiMapModel.blockItems, hindexes]
    unfold HmiMapModel.itemAt
    rw [hitems]
    exact filterMap_getElem?_range' pre new post
  have htakes : ∀ i x, new[i]? = some x → hasBase = true ∧ (x.hasAddr = true → x.addr = base + i)
      := by
    intro i x hx
    have hspec := hnew i x hx
    obtain ⟨hhas, haddr⟩ := hbase x (by rw [hblock]; exact List.mem_of_getElem? hx)
    rw [hspec.hasBase] at hhas
    rw [hspec.base, hspec.index] at haddr
    exact ⟨hhas, haddr⟩
  rw [hblock]
  refine ⟨base, ⟨?_, ?_, ?_⟩⟩
  · exact fun i x hx => (hnew i x hx).words
  · intro i x hx hhas
    have heq := (htakes i x hx).2 hhas
    exact ⟨heq, heq ▸ (hnew i x hx).addr hhas⟩
  · exact fun i x hx => (hnew i x hx).missing (htakes i x hx).1

/-! ### Keeping apart -/

/-- The register belongs to the item. -/
def HmiMapItem.Covers (it : HmiMapItem) (r : Nat) : Prop :=
  it.hasAddr = true ∧ it.addr ≤ r ∧ r < it.addr + it.words

/-- No register belongs to two items, none lies outside the sixteen bits, and nothing is
written for one item to a register of another. -/
structure Separate (its : List HmiMapItem) : Prop where
  disjoint : ∀ (i j : Nat) (x y : HmiMapItem), i ≠ j → its[i]? = some x → its[j]? = some y →
    ∀ r, ¬ (x.Covers r ∧ y.Covers r)
  inside : ∀ x ∈ its, ∀ r, x.Covers r → r < 2 ^ 16
  written : ∀ (i j : Nat) (x y : HmiMapItem), i ≠ j → its[i]? = some x → its[j]? = some y →
    ∀ v, ∀ c ∈ writeItem x v, ¬ y.Covers c.addr.toNat

/-- An item that another one follows takes one register, and is written as one. -/
structure OneRegisterEach (its : List HmiMapItem) : Prop where
  single : ∀ (i : Nat) (x y : HmiMapItem), its[i]? = some x → its[i + 1]? = some y →
    y.hasAddr = true → x.words = 1 ∧ writesTwo x = false
  inside : ∀ x ∈ its, x.hasAddr = true → x.addr + x.words ≤ 2 ^ 16
  /-- Behind the last register the first one comes again. -/
  around : ∀ x ∈ its, x.hasAddr = true → x.addr = 0xFFFF → writesTwo x = true →
    ∀ y ∈ its, y.hasAddr = true → y.addr ≠ 0

section

variable {base : Nat} {its : List HmiMapItem} {i j : Nat} {x y : HmiMapItem}

/-- What comes before an item with an address has one as well. -/
theorem Counted.hasAddr_of_lt (h : Counted base its) (hx : its[i]? = some x)
    (hy : its[j]? = some y) (hij : i < j) (hhas : y.hasAddr = true) : x.hasAddr = true := by
  by_contra hnone
  have hbeyond := h.missing i x hx (Bool.eq_false_iff.mpr hnone)
  have hlast := (h.addr j y hy hhas).2
  omega

theorem Counted.single_of_lt (h : Counted base its) (hone : OneRegisterEach its)
    (hx : its[i]? = some x) (hy : its[j]? = some y) (hij : i < j) (hhas : y.hasAddr = true) :
    x.words = 1 ∧ writesTwo x = false := by
  have hlen : i + 1 < its.length := by
    have hj := (List.getElem?_eq_some_iff.mp hy).1
    omega
  have hz : its[i + 1]? = some its[i + 1] := List.getElem?_eq_getElem hlen
  apply hone.single i x _ hx hz
  obtain hlt | rfl := Nat.lt_or_eq_of_le (Nat.succ_le_of_lt hij)
  · exact h.hasAddr_of_lt hz hy hlt hhas
  · rw [hy] at hz
    rw [← Option.some_inj.mp hz]
    exact hhas

theorem toNat_addr (h : Counted base its) (hx : its[i]? = some x) (hhas : x.hasAddr = true) :
    (BitVec.ofNat 16 x.addr : Word).toNat = base + i := by
  obtain ⟨heq, hle⟩ := h.addr i x hx hhas
  rw [BitVec.toNat_ofNat, heq]
  omega

theorem hasAddr_of_mem_writeItem {v : ItemValue} {c : HmiCall} (hc : c ∈ writeItem x v) :
    x.hasAddr = true := by
  by_contra hnone
  rw [writeItem, isWritten, Bool.eq_false_iff.mpr hnone] at hc
  cases hc

theorem separate_of_oneRegisterEach (h : Counted base its) (hone : OneRegisterEach its) :
    Separate its := by
  have hapart : ∀ (i j : Nat) (x y : HmiMapItem), i < j → its[i]? = some x → its[j]? = some y →
      ∀ r, ¬ (x.Covers r ∧ y.Covers r) := by
    rintro i j x y hij hx hy r ⟨hxr, hyr⟩
    obtain ⟨hwords, -⟩ := h.single_of_lt hone hx hy hij hyr.1
    have hxa := (h.addr i x hx hxr.1).1
    have hya := (h.addr j y hy hyr.1).1
    have hlt := hxr.2.2
    have hle := hyr.2.1
    omega
  refine ⟨?_, ?_, ?_⟩
  · intro i j x y hij hx hy r hboth
    obtain hlt | hgt := Nat.lt_or_gt_of_ne hij
    · exact hapart i j x y hlt hx hy r hboth
    · exact hapart j i y x hgt hy hx r hboth.symm
  · intro x hx r hr
    have hend := hone.inside x hx hr.1
    have hlt := hr.2.2
    omega
  · intro i j x y hij hx hy v c hc hcover
    have hxhas := hasAddr_of_mem_writeItem hc
    obtain ⟨hxa, hxle⟩ := h.addr i x hx hxhas
    obtain ⟨hya, -⟩ := h.addr j y hy hcover.1
    have hle := hcover.2.1
    have hlt := hcover.2.2
    -- an item before the written one takes one register
    have hbefore : j < i → y.words = 1 := fun hji => (h.single_of_lt hone hy hx hji hxhas).1
    obtain haddr | ⟨htwo, haddr⟩ := addr_of_mem_writeItem hc
    · rw [haddr, toNat_addr h hx hxhas] at hle hlt
      have hji : j < i := by omega
      have hwords := hbefore hji
      omega
    · have hlast : ¬ i < j := by
        intro hlt'
        rw [(h.single_of_lt hone hx hy hlt' hcover.1).2] at htwo
        cases htwo
      have hwords := hbefore (by omega)
      rw [haddr, BitVec.toNat_add, toNat_addr h hx hxhas] at hle hlt
      by_cases hmax : base + i = 0xFFFF
      · have hzero : y.addr = 0 := by
          rw [hmax] at hle
          exact Nat.le_zero.mp hle
        exact hone.around x (List.mem_of_getElem? hx) hxhas (by omega) htwo y
          (List.mem_of_getElem? hy) hcover.1 hzero
      · have hone' : (1 : Word).toNat = 1 := rfl
        rw [hone', Nat.mod_eq_of_lt (by omega)] at hle hlt
        omega

theorem oneRegisterEach_of_separate (h : Counted base its) (hsep : Separate its) :
    OneRegisterEach its := by
  have hown : ∀ (i : Nat) (x : HmiMapItem), its[i]? = some x → x.hasAddr = true →
      x.Covers x.addr := by
    intro i x hx hhas
    have hpos := h.words i x hx
    exact ⟨hhas, Nat.le_refl _, by omega⟩
  refine ⟨?_, ?_, ?_⟩
  · intro i x y hx hy hhas
    have hxhas := h.hasAddr_of_lt hx hy (Nat.lt_succ_self i) hhas
    have hxa := (h.addr i x hx hxhas).1
    obtain ⟨hya, hyle⟩ := h.addr (i + 1) y hy hhas
    constructor
    · by_contra hwide
      have hpos := h.words i x hx
      exact hsep.disjoint i (i + 1) x y (by omega) hx hy y.addr
        ⟨⟨hxhas, by omega, by omega⟩, hown _ y hy hhas⟩
    · by_contra htwo
      obtain ⟨v, c, hc, haddr⟩ := exists_second_call (Bool.eq_true_of_not_eq_false htwo)
      apply hsep.written i (i + 1) x y (by omega) hx hy v c hc
      have hnext : c.addr.toNat = y.addr := by
        have hone : (1 : Word).toNat = 1 := rfl
        rw [haddr, BitVec.toNat_add, toNat_addr h hx hxhas, hone, Nat.mod_eq_of_lt (by omega)]
        omega
      rw [hnext]
      exact hown _ y hy hhas
  · intro x hx hhas
    obtain ⟨i, hi⟩ := List.getElem?_of_mem hx
    have hpos := h.words i x hi
    have hlt := hsep.inside x hx (x.addr + x.words - 1) ⟨hhas, by omega, by omega⟩
    omega
  · intro x hx hhas hmax htwo y hy hyhas hzero
    obtain ⟨i, hi⟩ := List.getElem?_of_mem hx
    obtain ⟨j, hj⟩ := List.getElem?_of_mem hy
    have hij : i ≠ j := by
      rintro rfl
      rw [hi] at hj
      rw [Option.some_inj.mp hj] at hmax
      omega
    obtain ⟨v, c, hc, haddr⟩ := exists_second_call htwo
    apply hsep.written i j x y hij hi hj v c hc
    have hwrap : c.addr.toNat = y.addr := by
      rw [haddr, hmax, hzero]
      rfl
    rw [hwrap]
    exact hown j y hj hyhas

end

/-- The items of a block of a loaded map that take their addresses from its base keep apart
exactly when each that another one follows takes one register. -/
theorem separate_iff {parse : String → Except String Json} {path : String}
    {file : Option (List String)} {m : HmiMapModel} (h : loadJsonl parse path file = .ok m)
    {blk : HmiMapBlock} (hblk : blk ∈ m.blocks) (hbase : m.TakesBase blk) :
    Separate (m.blockItems blk) ↔ OneRegisterEach (m.blockItems blk) := by
  obtain ⟨base, hcounted⟩ := counted_of_takesBase (blocksRead_of_loadJsonl h blk hblk) hbase
  exact ⟨oneRegisterEach_of_separate hcounted, separate_of_oneRegisterEach hcounted⟩

instance (m : HmiMapModel) (blk : HmiMapBlock) : Decidable (m.TakesBase blk) :=
  inferInstanceAs (Decidable (∀ it ∈ m.blockItems blk, _ ∧ _))

/-- A block of two items, the first with the given words. -/
def socLine (words : Nat) : String :=
  "\x7b\"type\":\"u16\",\"base\":16384,\"items\":[\x7b\"path\":\"soc\",\"words\":" ++
    toString words ++ "\x7d,\x7b\"path\":\"soh\"\x7d]\x7d"

def socBlock (words : Nat) : Json :=
  .object [("type", .string "u16"), ("base", .unsigned 16384),
    ("items", .array [.object [("path", .string "soc"), ("words", .unsigned words)],
      .object [("path", .string "soh")]])]

/-- The parser, as far as these two blocks go. -/
def parseSoc (line : String) : Except String Json :=
  if line = socLine 1 then .ok (socBlock 1)
  else if line = socLine 2 then .ok (socBlock 2)
  else .error "syntax error"

theorem separate_iff_soc :
    ∃ m, loadJsonl parseSoc "normal_map_logic.jsonl" (some [socLine 1]) = .ok m ∧
      ∃ blk ∈ m.blocks, m.TakesBase blk ∧
        (Separate (m.blockItems blk) ↔ OneRegisterEach (m.blockItems blk)) := by
  refine ⟨_, rfl, _, List.mem_cons_self, by decide, ?_⟩
  exact @separate_iff parseSoc "normal_map_logic.jsonl" (some [socLine 1]) _ rfl _
    List.mem_cons_self (by decide)

/-- A state of charge of two registers: the second one is the state of health's. -/
theorem wide_item_overlaps :
    ∃ m, loadJsonl parseSoc "normal_map_logic.jsonl" (some [socLine 2]) = .ok m ∧
      ∃ blk ∈ m.blocks, m.TakesBase blk ∧ ¬ Separate (m.blockItems blk) := by
  refine ⟨_, rfl, _, List.mem_cons_self, by decide, ?_⟩
  intro h
  exact h.disjoint 0 1 _ _ (by decide) rfl rfl 0x4001 ⟨⟨rfl, by decide, by decide⟩,
    ⟨rfl, by decide, by decide⟩⟩

end Normal
end EnergyStorage
