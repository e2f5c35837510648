import EnergyStorage.Modbus.Crc
import EnergyStorage.Normal.HmiMapLoader

/-! # The registers of the normal pages

The writer of the normal pages goes through the items of the map and sets the registers of
each.  Whether the items of a block keep out of each other's registers depends on how wide
they are, since the loader gives them one register each. -/

namespace EnergyStorage
namespace Normal

open Lib (Json)
open Logic (HmiMapType)

/-! ### What is written for an item -/

def lowerAscii (s : String) : List Char := s.toList.map Char.toLower

def valueTypeContains (it : HmiMapItem) (key : String) : Bool :=
  decide (lowerAscii key <:+: lowerAscii it.valueType)

def isDwordMapItem (it : HmiMapItem) : Bool :=
  decide (2 ≤ it.words) ||
    ["uint32", "int32", "udint", "dint", "u32", "s32", "dword"].any (valueTypeContains it)

def isFaultOwnedPath (path : String) : Bool := path.startsWith "hmi.fault."

/-- What the writer asks of the slave. -/
inductive HmiCall where
  | setBoolRead (addr : Word) (v : Bool)
  | setIntRead (addr v : Word)

def HmiCall.addr : HmiCall → Word
  | setBoolRead a _ => a
  | setIntRead a _ => a

/-- The value that the display model has for an item, in each of the forms it may be written
in; the pair is the two halves that a path ending in `_hi` names. -/
structure ItemValue where
  bit : Bool := false
  word : Word := 0
  dword : BitVec 32 := 0
  pair : Option (Word × Word) := none

def writeU32ToHmi (addr : Word) (value : BitVec 32) : List HmiCall :=
  [.setIntRead addr (value.extractLsb' 16 16), .setIntRead (addr + 1) (value.extractLsb' 0 16)]

def tryWriteHiLoPair (it : HmiMapItem) (addr : Word) (v : ItemValue) : Option (List HmiCall) :=
  if it.words < 2 then none
  else if !it.path.endsWith "_hi" then none
  else v.pair.map fun p => [.setIntRead addr p.1, .setIntRead (addr + 1) p.2]

/-- An item that the loop does not skip. -/
def isWritten (it : HmiMapItem) : Bool :=
  it.hasAddr && it.hasPath && !isFaultOwnedPath it.path && !isRwMapType it.type

def writeItem (it : HmiMapItem) (v : ItemValue) : List HmiCall :=
  let addr : Word := BitVec.ofNat 16 it.addr
  if !isWritten it then []
  else if it.type = .boolRead ∨ it.type = .bit then [.setBoolRead addr v.bit]
  else
    match tryWriteHiLoPair it addr v with
    | some calls => calls
    | none =>
      if isDwordMapItem it then writeU32ToHmi addr v.dword else [.setIntRead addr v.word]

/-- The item is written as a double word, whatever width it states. -/
def writesTwo (it : HmiMapItem) : Bool :=
  isWritten it && !(it.type = .boolRead || it.type = .bit) && isDwordMapItem it

theorem isDwordMapItem_of_wide {it : HmiMapItem} (h : 2 ≤ it.words) : isDwordMapItem it = true := by
  rw [isDwordMapItem, decide_eq_true h, Bool.true_or]

/-- A call is for the item's own register, or the one behind it. -/
theorem addr_of_mem_writeItem {it : HmiMapItem} {v : ItemValue} {c : HmiCall}
    (hc : c ∈ writeItem it v) :
    c.addr = BitVec.ofNat 16 it.addr ∨
      writesTwo it = true ∧ c.addr = BitVec.ofNat 16 it.addr + 1 := by
  unfold writeItem at hc
  dsimp only at hc
  split at hc
  · cases hc
  · rename_i hwritten
    rw [Bool.not_eq_true', Bool.not_eq_false] at hwritten
    split at hc
    · exact Or.inl (congrArg HmiCall.addr (List.mem_singleton.mp hc))
    · rename_i hint
      have htwo : isDwordMapItem it = true → writesTwo it = true := by
        intro hdword
        rw [not_or] at hint
        simp [writesTwo, hwritten, hdword, hint.1, hint.2]
      have hpair : ∀ a b : Word, c ∈ [HmiCall.setIntRead (BitVec.ofNat 16 it.addr) a,
          .setIntRead (BitVec.ofNat 16 it.addr + 1) b] → isDwordMapItem it = true →
          c.addr = BitVec.ofNat 16 it.addr ∨
            writesTwo it = true ∧ c.addr = BitVec.ofNat 16 it.addr + 1 := by
        intro a b hmem hdword
        obtain rfl | hmem := List.mem_cons.mp hmem
        · exact Or.inl rfl
        · exact Or.inr ⟨htwo hdword, congrArg HmiCall.addr (List.mem_singleton.mp hmem)⟩
      cases hhilo : tryWriteHiLoPair it (BitVec.ofNat 16 it.addr) v with
      | some calls =>
        rw [hhilo] at hc
        unfold tryWriteHiLoPair at hhilo
        split at hhilo
        · cases hhilo
        · rename_i hwide
          split at hhilo
          · cases hhilo
          · obtain ⟨p, -, rfl⟩ := Option.map_eq_some_iff.mp hhilo
            exact hpair p.1 p.2 hc (isDwordMapItem_of_wide (by omega))
      | none =>
        rw [hhilo] at hc
        dsimp only at hc
        split at hc
        · rename_i hdword
          exact hpair _ _ hc hdword
        · exact Or.inl (congrArg HmiCall.addr (List.mem_singleton.mp hc))

/-- A double word has a call for the second register. -/
theorem exists_second_call {it : HmiMapItem} (h : writesTwo it = true) :
    ∃ v, ∃ c ∈ writeItem it v, c.addr = BitVec.ofNat 16 it.addr + 1 := by
  rw [writesTwo, Bool.and_eq_true, Bool.and_eq_true] at h
  obtain ⟨⟨hwritten, hint⟩, hdword⟩ := h
  have hnone : tryWriteHiLoPair it (BitVec.ofNat 16 it.addr) {} = none := by
    unfold tryWriteHiLoPair
    split
    · rfl
    · split <;> rfl
  refine ⟨{}, .setIntRead (BitVec.ofNat 16 it.addr + 1) 0, ?_, rfl⟩
  have hint' : ¬ (it.type = .boolRead ∨ it.type = .bit) := by simpa using hint
  rw [writeItem]
  dsimp only
  rw [hwritten, if_neg (by decide), if_neg hint', hnone]
  dsimp only
  rw [if_pos hdword]
  exact List.mem_cons_of_mem _ List.mem_cons_self

end Normal
end EnergyStorage
