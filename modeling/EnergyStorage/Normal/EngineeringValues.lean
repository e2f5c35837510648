import EnergyStorage.Lib.Rounding
import EnergyStorage.Normal.NormalHmiWriter

/-! # Engineering values in registers

An item of integers shows a value through a scale and an offset.  The writer has one branch for
a value of the display model and one for the default where the model has none. -/

namespace EnergyStorage
namespace Normal

open Lib (Json)
open Lib.Rounding
open Logic (HmiMapType)

/-- An item with what its values are computed from. -/
structure ScaledItem extends toItem : HmiMapItem where
  dflt : Option ℚ := none
  scale : Option ℚ := none
  offset : Option ℚ := none
  minv : Option ℚ := none
  maxv : Option ℚ := none

def isSignedMapItem (it : HmiMapItem) : Bool :=
  if it.type = .s16 then true
  else if ["uint", "udint", "u16", "u32"].any (valueTypeContains it) then false
  else ["int16", "s16", "int32", "s32", "dint"].any (valueTypeContains it)

def toNumber : Json → Option ℚ
  | .unsigned n => some n
  | .integer i => some i
  | .float q => some q
  | .boolean b => some (if b then 1 else 0)
  | .null | .string _ | .array _ | .object _ => none

section Writer

-- What `llround` gives where the result does not fit 64 bits.
variable (unspec : Int)

def llround (x : ℚ) : Int :=
  if -2 ^ 63 ≤ nearest x ∧ nearest x < 2 ^ 63 then nearest x else unspec

/-- The bounds are compared as floating-point numbers, where the upper one is `2 ^ 63`. -/
def roundToI64 (x : ℚ) : Int :=
  if 2 ^ 63 < x then 2 ^ 63 - 1
  else if x < -2 ^ 63 then -2 ^ 63
  else llround unspec x

def limited (it : ScaledItem) (v : ℚ) : ℚ :=
  let v := match it.minv with
    | some m => if v < m then m else v
    | none => v
  match it.maxv with
  | some m => if m < v then m else v
  | none => v

/-- A scale too near zero counts as none. -/
def usedScale (it : ScaledItem) : ℚ :=
  let scale := it.scale.getD 1
  if |scale| < 1 / 10 ^ 12 then 1 else scale

/-- The value in units of the register, before it is rounded. -/
def rawValue (it : ScaledItem) (v : ℚ) : ℚ := (limited it v - it.offset.getD 0) / usedScale it

def engineeringToHmiRaw (v : ℚ) (it : ScaledItem) : Int := roundToI64 unspec (rawValue it v)

def packRawU16 (raw : Int) : Word :=
  if raw < 0 then 0 else if 65535 < raw then 65535 else BitVec.ofInt 16 raw

def packRawS16 (raw : Int) : Word :=
  let raw := if raw < -32768 then -32768 else raw
  let raw := if 32767 < raw then 32767 else raw
  BitVec.ofInt 16 raw

def packRawU32 (raw : Int) : BitVec 32 :=
  if raw ≤ 0 then 0 else if 0xFFFFFFFF ≤ raw then 0xFFFFFFFF else BitVec.ofInt 32 raw

def packRawS32 (raw : Int) : BitVec 32 :=
  let raw := if raw < -2 ^ 31 then -2 ^ 31 else raw
  let raw := if 2 ^ 31 - 1 < raw then 2 ^ 31 - 1 else raw
  BitVec.ofInt 32 raw

def int16ByMap (it : ScaledItem) (raw : Int) : Word :=
  if isSignedMapItem it.toItem then packRawS16 raw else packRawU16 raw

/-- The path of the low half, for a path that ends in `_hi`. -/
def loPath (path : String) : String :=
  String.ofList (path.toList.take (path.length - 3) ++ ['_', 'l', 'o'])

def hiLoPair (resolve : String → Option Json) (it : ScaledItem) (hiNode : Json) :
    Option (Word × Word) :=
  (toNumber hiNode).bind fun hi =>
    ((resolve (loPath it.path)).bind toNumber).map fun lo =>
      (packRawU16 (roundToI64 unspec hi), packRawU16 (roundToI64 unspec lo))

/-- The value of an item that is no coil; `resolve` finds the nodes of the display model. -/
def intValue (resolve : String → Option Json) (it : ScaledItem) : ItemValue :=
  match resolve it.path with
  | none =>
    let raw := engineeringToHmiRaw unspec (it.dflt.getD 0) it
    { word := int16ByMap it raw
      -- a signed double word is cast, not limited
      dword := if isSignedMapItem it.toItem then BitVec.ofInt 32 raw else packRawU32 raw }
  | some node =>
    let raw := engineeringToHmiRaw unspec ((toNumber node).getD (it.dflt.getD 0)) it
    { word := int16ByMap it raw
      dword := if isSignedMapItem it.toItem then packRawS32 raw else packRawU32 raw
      pair := hiLoPair unspec resolve it node }

def writeInt (resolve : String → Option Json) (it : ScaledItem) : List HmiCall :=
  writeItem it.toItem (intValue unspec resolve it)

end Writer

/-! ### Reading back -/

/-- The last word that was asked to be set at an address. -/
def wordSet (calls : List HmiCall) (a : Word) : Option Word :=
  calls.reverse.findSome? fun
    | .setIntRead b v => if b = a then some v else none
    | .setBoolRead _ _ => none

/-- A number in registers, the high word first. -/
def readBack (it : HmiMapItem) (calls : List HmiCall) : Option Int :=
  let addr : Word := BitVec.ofNat 16 it.addr
  if isDwordMapItem it then
    (wordSet calls addr).bind fun hi => (wordSet calls (addr + 1)).map fun lo =>
      if isSignedMapItem it then (hi ++ lo).toInt else ((hi ++ lo).toNat : Int)
  else
    (wordSet calls addr).map fun w => if isSignedMapItem it then w.toInt else (w.toNat : Int)

/-- The least and the greatest number that fit the registers of an item. -/
def registerRange (it : HmiMapItem) : Int × Int :=
  match isDwordMapItem it, isSignedMapItem it with
  | true, true => (-2 ^ 31, 2 ^ 31 - 1)
  | true, false => (0, 2 ^ 32 - 1)
  | false, true => (-2 ^ 15, 2 ^ 15 - 1)
  | false, false => (0, 2 ^ 16 - 1)

/-- What an item should show for a value. -/
def shownFor (it : ScaledItem) (v : ℚ) : Int :=
  saturate (registerRange it.toItem).1 (registerRange it.toItem).2
    (nearest (rawValue it v))

/-- The value is written by the two halves that the model has, not by the scale. -/
def HasLowHalf (resolve : String → Option Json) (it : ScaledItem) : Prop :=
  2 ≤ it.words ∧ it.path.endsWith "_hi" = true ∧
    ∃ v, (resolve (loPath it.path)).bind toNumber = some v

/-- Rounding gives `2 ^ 63`, which does not fit 64 bits, and passes the check before it. -/
def AtBorder (x : ℚ) : Prop := 2 ^ 63 - 1 / 2 ≤ x ∧ x ≤ 2 ^ 63

section

variable {unspec : Int} {it : ScaledItem} {resolve : String → Option Json}

theorem roundToI64_eq {x : ℚ} (h : ¬ AtBorder x) :
    roundToI64 unspec x = saturate (-2 ^ 63) (2 ^ 63 - 1) (nearest x) := by
  have htop : ((2 ^ 63 : ℤ) : ℚ) = 2 ^ 63 := by norm_num
  have hbottom : ((-2 ^ 63 : ℤ) : ℚ) = -2 ^ 63 := by norm_num
  rw [roundToI64]
  by_cases hover : 2 ^ 63 < x
  · have hle : 2 ^ 63 ≤ nearest x := le_nearest (by rw [htop]; exact hover.le)
    rw [if_pos hover, saturate, if_neg (by omega), if_pos (by omega)]
  · rw [if_neg hover]
    by_cases hunder : x < -2 ^ 63
    · have hle : nearest x ≤ -2 ^ 63 := nearest_le_of_le (by rw [hbottom]; exact hunder.le)
      rw [if_pos hunder, saturate]
      split_ifs <;> omega
    · have hlo : -2 ^ 63 ≤ nearest x := le_nearest (by rw [hbottom]; exact not_lt.mp hunder)
      have hhi : nearest x < 2 ^ 63 := by
        by_cases h0 : 0 ≤ x
        · refine nearest_lt h0 ?_
          rw [htop]
          exact not_le.mp fun hle => h ⟨hle, not_lt.mp hover⟩
        · have hzero : nearest x ≤ 0 := nearest_le_of_le (by simpa using (not_le.mp h0).le)
          omega
      rw [if_neg hunder, llround, if_pos ⟨hlo, hhi⟩, saturate_of_mem hlo (by omega)]

theorem roundToI64_cast {n : ℤ} (hlo : -2 ^ 63 ≤ n) (hhi : n < 2 ^ 63) :
    roundToI64 unspec (n : ℚ) = n := by
  have hborder : ¬ AtBorder (n : ℚ) := by
    intro h
    have hle : (n : ℚ) ≤ 2 ^ 63 - 1 := by exact_mod_cast (by omega : n ≤ 2 ^ 63 - 1)
    linarith [h.1]
  rw [roundToI64_eq hborder, nearest_cast, saturate_of_mem hlo (by omega)]

theorem toNat_ofInt_of_mem {w : Nat} {n : Int} (h0 : 0 ≤ n) (h : n < 2 ^ w) :
    ((BitVec.ofInt w n).toNat : Int) = n := by
  rw [BitVec.toNat_ofInt, Int.emod_eq_of_lt h0 (by exact_mod_cast h), Int.toNat_of_nonneg h0]

theorem toNat_packRawU16 (raw : Int) : ((packRawU16 raw).toNat : Int) = saturate 0 65535 raw := by
  unfold packRawU16 saturate
  split
  · rfl
  · split
    · rfl
    · exact toNat_ofInt_of_mem (by omega) (by omega)

theorem toNat_packRawU32 (raw : Int) :
    ((packRawU32 raw).toNat : Int) = saturate 0 0xFFFFFFFF raw := by
  by_cases hlo : raw ≤ 0
  · rw [packRawU32, if_pos hlo, saturate]
    split_ifs with h
    · rfl
    · omega
    · rw [show raw = 0 by omega]
      rfl
  · by_cases hhi : 0xFFFFFFFF ≤ raw
    · rw [packRawU32, if_neg hlo, if_pos hhi, saturate]
      split_ifs
      · omega
      · rfl
      · rw [show raw = 0xFFFFFFFF by omega]
        rfl
    · rw [packRawU32, if_neg hlo, if_neg hhi, saturate_of_mem (by omega) (by omega)]
      exact toNat_ofInt_of_mem (by omega) (by omega)

/-- The limits are taken one after the other. -/
theorem limits_eq {lo hi : Int} (h : lo ≤ hi) (raw : Int) :
    (let raw := if raw < lo then lo else raw
      if hi < raw then hi else raw) = saturate lo hi raw := by
  unfold saturate
  dsimp only
  split_ifs <;> omega

theorem toInt_packRawS16 (raw : Int) : (packRawS16 raw).toInt = saturate (-32768) 32767 raw := by
  have hle : (-32768 : Int) ≤ 32767 := by decide
  have hmem := saturate_mem hle raw
  have hpack : packRawS16 raw = BitVec.ofInt 16 (saturate (-32768) 32767 raw) := by
    rw [← limits_eq hle]
    rfl
  rw [hpack]
  exact BitVec.toInt_ofInt_eq_self (by decide) hmem.1 (by omega)

theorem packRawS32_eq (raw : Int) :
    packRawS32 raw = BitVec.ofInt 32 (saturate (-2 ^ 31) (2 ^ 31 - 1) raw) := by
  rw [← limits_eq (by decide)]
  rfl

theorem toInt_packRawS32 (raw : Int) :
    (packRawS32 raw).toInt = saturate (-2 ^ 31) (2 ^ 31 - 1) raw := by
  have hle : (-2 ^ 31 : Int) ≤ 2 ^ 31 - 1 := by decide
  have hmem := saturate_mem hle raw
  rw [packRawS32_eq]
  exact BitVec.toInt_ofInt_eq_self (by decide) hmem.1 (by omega)

/-! ### The registers of an item -/

theorem words_append (v : BitVec 32) : v.extractLsb' 16 16 ++ v.extractLsb' 0 16 = v := by
  apply BitVec.eq_of_toNat_eq
  rw [BitVec.toNat_append, BitVec.extractLsb'_toNat, BitVec.extractLsb'_toNat,
    ← Nat.shiftLeft_add_eq_or_of_lt (Nat.mod_lt _ (by decide)), Nat.shiftLeft_eq,
    Nat.shiftRight_eq_div_pow, Nat.shiftRight_zero]
  have hlt := v.isLt
  omega

theorem wordSet_single (a w : Word) : wordSet [.setIntRead a w] a = some w := by
  simp [wordSet]

theorem wordSet_writeU32ToHmi (a : Word) (v : BitVec 32) :
    wordSet (writeU32ToHmi a v) a = some (v.extractLsb' 16 16) ∧
      wordSet (writeU32ToHmi a v) (a + 1) = some (v.extractLsb' 0 16) := by
  constructor
  · simp [wordSet, writeU32ToHmi]
  · simp [wordSet, writeU32ToHmi]

/-- An item of integers that the writer does not pass over. -/
structure IsShownInt (it : HmiMapItem) : Prop where
  written : isWritten it = true
  int : ¬ (it.type = .boolRead ∨ it.type = .bit)

theorem writeItem_of_no_pair {it : HmiMapItem} {v : ItemValue} (h : IsShownInt it)
    (hpair : tryWriteHiLoPair it (BitVec.ofNat 16 it.addr) v = none) :
    writeItem it v =
      if isDwordMapItem it then writeU32ToHmi (BitVec.ofNat 16 it.addr) v.dword
      else [.setIntRead (BitVec.ofNat 16 it.addr) v.word] := by
  rw [writeItem, h.written, if_neg (by decide), if_neg h.int, hpair]

theorem readBack_writeItem {it : HmiMapItem} {v : ItemValue} (h : IsShownInt it)
    (hpair : tryWriteHiLoPair it (BitVec.ofNat 16 it.addr) v = none) :
    readBack it (writeItem it v) = some (
      if isDwordMapItem it then
        if isSignedMapItem it then v.dword.toInt else (v.dword.toNat : Int)
      else if isSignedMapItem it then v.word.toInt else (v.word.toNat : Int)) := by
  rw [writeItem_of_no_pair h hpair, readBack]
  by_cases hdword : isDwordMapItem it = true
  · have hset := wordSet_writeU32ToHmi (BitVec.ofNat 16 it.addr) v.dword
    rw [if_pos hdword, if_pos hdword, if_pos hdword, hset.1, hset.2, Option.bind_some,
      Option.map_some, words_append]
  · rw [if_neg hdword, if_neg hdword, if_neg hdword, wordSet_single, Option.map_some]

theorem loPath_ne {path : String} (h : path.endsWith "_hi" = true) : loPath path ≠ path := by
  intro heq
  have hsuffix : ['_', 'h', 'i'] <:+ path.toList := by
    rw [String.endsWith_eq_endsWith_toSlice, String.Slice.endsWith_string_iff] at h
    simpa using h
  have hlo : ['_', 'l', 'o'] <:+ path.toList := by
    rw [← heq, loPath, String.toList_ofList]
    exact List.suffix_append _ _
  have hsame := List.suffix_of_suffix_length_le hsuffix hlo (le_refl _)
  exact absurd (hsame.eq_of_length rfl) (by decide)

/-- The low half is another node. -/
theorem no_half_update (h : ¬ HasLowHalf resolve it) (node : Json) :
    ¬ HasLowHalf (Function.update resolve it.path (some node)) it := by
  intro ⟨hwide, hends, hlow⟩
  rw [Function.update_of_ne (loPath_ne hends)] at hlow
  exact h ⟨hwide, hends, hlow⟩

theorem no_pair_of_no_half (h : ¬ HasLowHalf resolve it) :
    tryWriteHiLoPair it.toItem (BitVec.ofNat 16 it.addr) (intValue unspec resolve it) = none := by
  unfold tryWriteHiLoPair
  split
  · rfl
  · split
    · rfl
    · rename_i hwide hends
      have hlow : (resolve (loPath it.path)).bind toNumber = none := by
        by_contra hsome
        exact h ⟨by omega, by simpa using hends, Option.ne_none_iff_exists'.mp hsome⟩
      unfold intValue
      split
      · rfl
      · rename_i node _
        rw [hiLoPair, hlow]
        cases toNumber node <;> rfl

theorem no_pair_of_missing {a : Word} (h : resolve it.path = none) :
    tryWriteHiLoPair it.toItem a (intValue unspec resolve it) = none := by
  have hpair : (intValue unspec resolve it).pair = none := by
    rw [intValue, h]
  rw [tryWriteHiLoPair, hpair]
  split_ifs <;> rfl

/-- A value in range of the check is shown, rounded and limited to the registers. -/
theorem shown_of_present {node : Json} {v : ℚ} (h : IsShownInt it.toItem)
    (hnode : resolve it.path = some node) (hv : toNumber node = some v)
    (hhalf : ¬ HasLowHalf resolve it) (hborder : ¬ AtBorder (rawValue it v)) :
    readBack it.toItem (writeInt unspec resolve it) = some (shownFor it v) := by
  rw [writeInt, readBack_writeItem h (no_pair_of_no_half hhalf), intValue, hnode]
  dsimp only
  rw [hv, Option.getD_some, engineeringToHmiRaw, roundToI64_eq hborder, int16ByMap, shownFor,
    registerRange]
  congr 1
  cases hdword : isDwordMapItem it.toItem <;> cases hsigned : isSignedMapItem it.toItem
  · simp [toNat_packRawU16, saturate_saturate]
  · simp [toInt_packRawS16, saturate_saturate]
  · simp [toNat_packRawU32, saturate_saturate]
  · simp [toInt_packRawS32, saturate_saturate]

/-- Two halves are written as they are, whatever the scale and the limits. -/
theorem writeInt_of_half {node lo : Json} {hi lov : ℚ} (h : IsShownInt it.toItem)
    (hwide : 2 ≤ it.words) (hends : it.path.endsWith "_hi" = true)
    (hnode : resolve it.path = some node) (hhi : toNumber node = some hi)
    (hlo : resolve (loPath it.path) = some lo) (hlov : toNumber lo = some lov) :
    writeInt unspec resolve it =
      [.setIntRead (BitVec.ofNat 16 it.addr) (packRawU16 (roundToI64 unspec hi)),
        .setIntRead (BitVec.ofNat 16 it.addr + 1) (packRawU16 (roundToI64 unspec lov))] := by
  rw [writeInt, writeItem, h.written, if_neg (by decide), if_neg h.int, tryWriteHiLoPair,
    if_neg (by omega), hends, if_neg (by decide), intValue, hnode]
  dsimp only
  rw [hiLoPair, hhi, hlo, Option.bind_some, Option.bind_some, hlov]
  rfl

/-- The default is not limited to a signed double word. -/
def FitsDword (it : ScaledItem) : Prop :=
  isDwordMapItem it.toItem = true → isSignedMapItem it.toItem = true →
    -2 ^ 31 ≤ nearest (rawValue it (it.dflt.getD 0)) ∧
      nearest (rawValue it (it.dflt.getD 0)) < 2 ^ 31

theorem engineeringToHmiRaw_of_fits
    (h : -2 ^ 31 ≤ nearest (rawValue it (it.dflt.getD 0)) ∧
      nearest (rawValue it (it.dflt.getD 0)) < 2 ^ 31) :
    engineeringToHmiRaw unspec (it.dflt.getD 0) it = nearest (rawValue it (it.dflt.getD 0)) := by
  have hborder : ¬ AtBorder (rawValue it (it.dflt.getD 0)) := by
    intro hb
    have hle : 2 ^ 63 - 1 ≤ nearest (rawValue it (it.dflt.getD 0)) := by
      refine le_nearest ?_
      push_cast
      linarith [hb.1]
    omega
  rw [engineeringToHmiRaw, roundToI64_eq hborder, saturate_of_mem (by omega) (by omega)]

/-- Without halves the default is written as a value of the model would be. -/
theorem writeInt_default {node : Json} (h : IsShownInt it.toItem)
    (hmissing : resolve it.path = none) (hnode : toNumber node = some (it.dflt.getD 0))
    (hhalf : ¬ HasLowHalf resolve it) (hfits : FitsDword it) :
    writeInt unspec resolve it =
      writeInt unspec (Function.update resolve it.path (some node)) it := by
  rw [writeInt, writeInt, writeItem_of_no_pair h (no_pair_of_no_half hhalf),
    writeItem_of_no_pair h (no_pair_of_no_half (no_half_update hhalf node)), intValue, intValue,
    hmissing, Function.update_self]
  dsimp only
  rw [hnode, Option.getD_some]
  by_cases hdword : isDwordMapItem it.toItem = true
  · rw [if_pos hdword, if_pos hdword]
    by_cases hsigned : isSignedMapItem it.toItem = true
    · have hmem := hfits hdword hsigned
      rw [if_pos hsigned, if_pos hsigned, engineeringToHmiRaw_of_fits hmem, packRawS32_eq,
        saturate_of_mem hmem.1 (by omega)]
    · rw [if_neg hsigned, if_neg hsigned]
  · rw [if_neg hdword, if_neg hdword]

/-- What the registers of an item of integers show, for a value and for the default, unless the
model has the low half of a path that ends in `_hi`. -/
theorem integer_items_shown (unspec : Int) (it : ScaledItem) (resolve : String → Option Json)
    (h : IsShownInt it.toItem) (hhalf : ¬ HasLowHalf resolve it) :
    (∀ node v, resolve it.path = some node → toNumber node = some v →
      ¬ AtBorder (rawValue it v) →
        readBack it.toItem (writeInt unspec resolve it) = some (shownFor it v)) ∧
    (resolve it.path = none → FitsDword it →
      (∀ node, toNumber node = some (it.dflt.getD 0) →
        writeInt unspec resolve it =
          writeInt unspec (Function.update resolve it.path (some node)) it) ∧
      (¬ AtBorder (rawValue it (it.dflt.getD 0)) →
        readBack it.toItem (writeInt unspec resolve it) =
          some (shownFor it (it.dflt.getD 0)))) := by
  refine ⟨fun node v hnode hv => shown_of_present h hnode hv hhalf, fun hmissing hfits => ?_⟩
  have hsame : ∀ node, toNumber node = some (it.dflt.getD 0) → writeInt unspec resolve it =
      writeInt unspec (Function.update resolve it.path (some node)) it :=
    fun node hnode => writeInt_default h hmissing hnode hhalf hfits
  refine ⟨hsame, fun hborder => ?_⟩
  rw [hsame (.float (it.dflt.getD 0)) rfl]
  exact shown_of_present h (Function.update_self _ _ _) rfl (no_half_update hhalf _) hborder

end

/-- A temperature of a tenth of a degree from 40 degrees below zero. -/
def ambientItem : ScaledItem :=
  { type := .intRead, hasAddr := true, addr := 0x4010, path := "system.logic_view.ambient"
    valueType := "INT16", dflt := some 25, scale := some (1 / 10), offset := some (-40) }

theorem rawValue_ambient : rawValue ambientItem 25 = (650 : ℤ) := by
  norm_num [rawValue, limited, usedScale, ambientItem, abs_of_pos]

theorem integer_items_shown_ambient :
    readBack ambientItem.toItem (writeInt 0 (fun _ => none) ambientItem) =
      some (shownFor ambientItem 25) := by
  have hborder : ¬ AtBorder (rawValue ambientItem 25) := by
    rw [rawValue_ambient, AtBorder]
    norm_num
  exact ((integer_items_shown 0 ambientItem (fun _ => none) ⟨by decide +kernel, by decide⟩
    fun h => absurd h.1 (by decide)).2 rfl fun h => absurd h (by decide)).2 hborder

/-- The time the battery lasts, by its high half. -/
def remainItem : ScaledItem :=
  { type := .intRead, hasAddr := true, addr := 0x4020, words := 2
    path := "system.logic_view.ups_battery_remain_sec_hi", dflt := some 0 }

def remainNode (path : String) : Option Json :=
  if path = "system.logic_view.ups_battery_remain_sec_lo" then some (.unsigned 60) else none

/-- The low half is shown with a high half of 0, and not with none and the default 0. -/
theorem low_half_left_out :
    writeInt 0 remainNode remainItem ≠
      writeInt 0 (Function.update remainNode remainItem.path (some (.unsigned 0))) remainItem := by
  have hshown : IsShownInt remainItem.toItem := ⟨by decide +kernel, by decide⟩
  have hends : remainItem.path.endsWith "_hi" = true := by decide +kernel
  have hlo : loPath remainItem.path = "system.logic_view.ups_battery_remain_sec_lo" := by decide
  have hraw : engineeringToHmiRaw 0 0 remainItem = 0 := by
    have hcast : rawValue remainItem 0 = (0 : ℤ) := by
      norm_num [rawValue, limited, usedScale, remainItem]
    rw [engineeringToHmiRaw, hcast, roundToI64_cast (by decide) (by decide)]
  have hsixty : roundToI64 0 ((60 : ℤ) : ℚ) = 60 := roundToI64_cast (by decide) (by decide)
  have hpresent := @writeInt_of_half 0 remainItem _ (.unsigned 0) (.unsigned 60) 0 (60 : ℤ) hshown
    (by decide) hends (Function.update_self remainItem.path (some (.unsigned 0)) remainNode) rfl
    (by rw [Function.update_of_ne (loPath_ne hends), hlo]; rfl) rfl
  have hmissing : writeInt 0 remainNode remainItem = writeU32ToHmi 0x4020 0 := by
    have hnone : remainNode remainItem.path = none := by decide
    have hdflt : remainItem.dflt.getD 0 = 0 := rfl
    rw [writeInt, writeItem_of_no_pair hshown (no_pair_of_missing hnone), if_pos (by decide),
      intValue, hnone]
    dsimp only
    rw [hdflt, hraw, if_neg (by decide)]
    rfl
  intro h
  rw [hmissing, hpresent, hsixty, writeU32ToHmi] at h
  have hlow := HmiCall.setIntRead.inj (List.cons.inj (List.cons.inj h).2).1
  exact absurd hlow.2 (by decide)

end Normal
end EnergyStorage
