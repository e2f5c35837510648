import EnergyStorage.Lib.Positions
import EnergyStorage.Normal.BlockRanges

/-! # The indexes of the loaded map

The loader keeps, beside the items, lists of the positions of some of them.  A property of the
map holds after loading if it holds of the empty one and each item that is read keeps it. -/

namespace EnergyStorage
namespace Normal

open Lib

section Loading

variable {P : HmiMapModel → Prop}
  (hblocks : ∀ m blocks, P m → P { m with blocks })
  (happend : ∀ m blk b i one it, P m → readItem blk b i one = .ok it → P (m.appendItemToModel it))

include happend in
theorem loadItems_keeps {i : Nat} {arr : List Json} {blk blk' : HmiMapBlock} {m m' : HmiMapModel}
    (h : loadItems i arr blk m = .ok (blk', m')) (hm : P m) : P m' := by
  induction arr generalizing i blk m with
  | nil =>
    cases h
    exact hm
  | cons one rest ih =>
    rw [loadItems] at h
    cases hitem : readItem blk m.blocks.length i one with
    | error e =>
      rw [hitem] at h
      cases h
    | ok it =>
      rw [hitem] at h
      exact ih h (happend m _ _ _ _ it hm hitem)

include hblocks happend

theorem loadBlock_keeps {lineNo : Nat} {j : Json} {m m' : HmiMapModel}
    (h : loadBlock lineNo j m = .ok m') (hm : P m) : P m' := by
  unfold loadBlock at h
  dsimp only at h
  split at h
  · cases h
  split at h
  · cases h
  split at h
  · cases h
  split at h
  · split at h
    · cases h
    · rename_i hload
      cases h
      exact hblocks _ _ (loadItems_keeps happend hload hm)
  · cases h

theorem loadLines_keeps {parse : String → Except String Json} {lineNo : Nat} {lines : List String}
    {m m' : HmiMapModel} (h : loadLines parse lineNo lines m = .ok m') (hm : P m) : P m' := by
  induction lines generalizing lineNo m with
  | nil =>
    cases h
    exact hm
  | cons line rest ih =>
    rw [loadLines] at h
    split at h
    · exact ih h hm
    · split at h
      · cases h
      · split at h
        · cases h
        · rename_i hblock
          exact ih h (loadBlock_keeps hblocks happend hblock hm)

theorem loadJsonl_keeps {parse : String → Except String Json} {path : String}
    {file : Option (List String)} {m : HmiMapModel} (h : loadJsonl parse path file = .ok m)
    (hempty : P {}) : P m := by
  cases file with
  | none => cases h
  | some lines => exact loadLines_keeps hblocks happend h hempty

end Loading

/-! ### The lists -/

namespace HmiMapModel

/-- The lists that the fault pages use hold what their names say, and no item is empty or lies
beyond the last address. -/
structure Indexed (m : HmiMapModel) : Prop where
  faultNum : Positions (fun it => it.classifyItem = .faultNum) m.items m.faultNumItems
  byPath : ∀ path, Positions (fun it => it.hasPath = true ∧ it.path = path) m.items
    ((m.byPath.get path).getD [])
  words : ∀ it ∈ m.items, 0 < it.words
  addr : ∀ it ∈ m.items, it.hasAddr = true → it.addr ≤ 0xFFFF

theorem indexed_empty : Indexed {} where
  faultNum := Positions.nil _
  byPath _ := Positions.nil _
  words := nofun
  addr := nofun

theorem Indexed.append {m : HmiMapModel} (hm : m.Indexed) {it : HmiMapItem} (hwords : 0 < it.words)
    (haddr : it.hasAddr = true → it.addr ≤ 0xFFFF) : (m.appendItemToModel it).Indexed where
  faultNum := by
    show Positions _ (m.items ++ [it]) (if it.classifyItem = .faultNum then _ else _)
    split
    · rename_i hkind
      exact hm.faultNum.snoc hkind
    · rename_i hkind
      exact hm.faultNum.snoc_of_not hkind
  byPath path := by
    show Positions _ (m.items ++ [it])
      (((if it.hasPath then addIndex m.byPath it.path m.items.length
        else m.byPath).get path).getD [])
    by_cases hpath : it.hasPath = true
    · rw [if_pos hpath, addIndex]
      by_cases heq : it.path = path
      · rw [heq, Dict.get_insert_self]
        exact (hm.byPath path).snoc ⟨hpath, heq⟩
      · rw [Dict.get_insert_of_ne _ (Ne.symm heq)]
        exact (hm.byPath path).snoc_of_not fun h => heq h.2
    · rw [if_neg hpath]
      exact (hm.byPath path).snoc_of_not fun h => hpath h.1
  words x hx := by
    obtain hx | hx := List.mem_append.mp hx
    · exact hm.words x hx
    · rw [List.mem_singleton.mp hx]
      exact hwords
  addr x hx := by
    obtain hx | hx := List.mem_append.mp hx
    · exact hm.addr x hx
    · rw [List.mem_singleton.mp hx]
      exact haddr

theorem indexed_of_loadJsonl {parse : String → Except String Json} {path : String}
    {file : Option (List String)} {m : HmiMapModel} (h : loadJsonl parse path file = .ok m) :
    m.Indexed := by
  refine loadJsonl_keeps ?_ ?_ h indexed_empty
  · exact fun m blocks hm => ⟨hm.faultNum, hm.byPath, hm.words, hm.addr⟩
  · intro m blk b i one it hm hitem
    have hread := readItem_spec hitem
    exact hm.append hread.words hread.addr

end HmiMapModel
end Normal
end EnergyStorage
