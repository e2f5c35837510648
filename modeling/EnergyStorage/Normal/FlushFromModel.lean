import EnergyStorage.Normal.EngineeringValues

/-! # The flush of the normal pages

A flush hangs the view of the logic into the model of the snapshot, derives two fields, and asks
for the registers of each item with the value that its path leads to. -/

namespace EnergyStorage
namespace Normal

open Lib (Json)
open Logic (HmiMapType)

/-! ### The display model -/

/-- Assigns a key of an object. -/
def setKey : Json → String → Json → Json
  | .object fields, key, v => .object ((key, v) :: fields.filter fun f => f.1 ≠ key)
  | j, _, _ => j

/-- `j["system"]` is made an object if it is none. -/
def withSystem (j : Json) : Json :=
  match j.find "system" with
  | some (.object _) => j
  | _ => setKey j "system" (.object [])

def system (j : Json) : Json := (j.find "system").getD .null

def toBool : Json → Option Bool
  | .boolean b => some b
  | j => (toNumber j).map fun x => decide (x ≠ 0)

def getBool (sys : Json) (key : String) : Bool := ((sys.find key).bind toBool).getD false

def alarmBits (sys : Json) : Word :=
  (if getBool sys "gas_alarm" then 1 <<< 0 else 0) |||
    (if getBool sys "smoke_alarm" then 1 <<< 1 else 0) |||
    (if getBool sys "ac_alarm" then 1 <<< 2 else 0) |||
    (if getBool sys "bms_alarm_any" then 1 <<< 3 else 0)

/-- The model with the derived fields, and the sequence number after it. -/
def injectDerivedFields (j : Json) (seq : BitVec 32) : Json × BitVec 32 :=
  if !j.isObject then (j, seq)
  else
    let j := withSystem j
    let seq := seq + 1
    let sys := setKey (system j) "alarm_bits" (.unsigned (alarmBits (system j)).toNat)
    (setKey j "system" (setKey sys "normal_seq" (.unsigned seq.toNat)), seq)

def displayModel (snapshot logicView : Json) (seq : BitVec 32) : Json × BitVec 32 :=
  let j := withSystem (if snapshot.isObject then snapshot else .object [])
  let view := if logicView.isObject then logicView else .object []
  injectDerivedFields (setKey j "system" (setKey (system j) "logic_view" view)) seq

/-! ### Paths -/

def pathTokens (path : String) : List String :=
  ((path.toList.splitOn '.').filter fun cs => cs ≠ []).map String.ofList

/-- Where a token is no key, the rest of the path together may be one. -/
def resolveTokens (node : Json) : List String → Option Json
  | [] => some node
  | tk :: rest =>
    match node.find tk with
    | some child => resolveTokens child rest
    | none => node.find (rest.foldl (fun joined t => joined ++ "." ++ t) tk)

def resolvePathCompat (root : Json) (path : String) : Option Json :=
  resolveTokens root (pathTokens path)

/-! ### The values of the items -/

/-- An item with what its bits are computed from. -/
structure DisplayItem extends toScaled : ScaledItem where
  src : String := ""
  bitIndex : Option Int := none
  eq : Option ℚ := none
  gt : Option ℚ := none
  ge : Option ℚ := none
  lt : Option ℚ := none
  le : Option ℚ := none

/-- An equation takes precedence; the bounds have to hold all. -/
def evalCompare (x : ℚ) (it : DisplayItem) : Option Bool :=
  match it.eq with
  | some b => some (decide (x = b))
  | none =>
    let tests := [it.gt.map fun b => decide (b < x), it.ge.map fun b => decide (b ≤ x),
      it.lt.map fun b => decide (x < b), it.le.map fun b => decide (x ≤ b)].reduceOption
    if tests = [] then none else some (tests.all id)

def defaultBit (it : DisplayItem) : Bool :=
  match it.dflt with
  | some d => decide (d ≠ 0)
  | none => false

def boolValue (node : Option Json) (it : DisplayItem) : Bool :=
  match node with
  | none => defaultBit it
  | some node =>
    match toNumber node with
    | some x => (evalCompare x it).getD (decide (x ≠ 0))
    | none => (toBool node).getD (defaultBit it)

section Flush

-- What a conversion gives where the result does not fit, and a shift by no number of bits.
variable (unspec : Int) (beyond : BitVec 32 → Int → BitVec 32)

def truncI64 (x : ℚ) : Int :=
  let n := x.num.tdiv x.den
  if -2 ^ 63 ≤ n ∧ n < 2 ^ 63 then n else unspec

def shiftRight (u : BitVec 32) (bit : Int) : BitVec 32 :=
  if 0 ≤ bit ∧ bit < 32 then u >>> bit.toNat else beyond u bit

def bitValue (node : Option Json) (it : DisplayItem) : Bool :=
  match node.bind toNumber with
  | none => defaultBit it
  | some x =>
    let u := BitVec.ofInt 32 (truncI64 unspec x)
    (shiftRight beyond u (it.bitIndex.getD 0)).getLsbD 0

/-- A bit may be one of another field. -/
def itemNode (j : Json) (it : DisplayItem) : Option Json :=
  resolvePathCompat j (if it.type = .bit ∧ it.src ≠ "" then it.src else it.path)

def itemValue (j : Json) (it : DisplayItem) : ItemValue :=
  match it.type with
  | .boolRead => { bit := boolValue (itemNode j it) it }
  | .bit => { bit := bitValue unspec beyond (itemNode j it) it }
  | _ => intValue unspec (resolvePathCompat j) it.toScaled

def itemCalls (j : Json) (it : DisplayItem) : List HmiCall :=
  writeItem it.toItem (itemValue unspec beyond j it)

/-! ### The flush -/

structure DisplayMap where
  items : List DisplayItem
  normalItems : List Nat

/-- The items in the order in which a flush takes them. -/
def DisplayMap.shown (m : DisplayMap) : List DisplayItem :=
  m.normalItems.filterMap fun i => m.items[i]?

/-- The writer, with the map if one is bound. -/
structure NormalHmiWriter where
  hmiMap : Option DisplayMap := none
  seq : BitVec 32 := 0

def NormalHmiWriter.bindMap (w : NormalHmiWriter) :
    Option DisplayMap → NormalHmiWriter × Except String Unit
  | none => ({ w with hmiMap := none }, .error "null HmiMapModel")
  | some m =>
    if m.items.isEmpty then ({ w with hmiMap := none }, .error "empty HmiMapModel")
    else ({ w with hmiMap := some m }, .ok ())

def NormalHmiWriter.flushFromModel (w : NormalHmiWriter) (snapshot logicView : Json) :
    NormalHmiWriter × List HmiCall :=
  match w.hmiMap with
  | none => (w, [])
  | some m =>
    let d := displayModel snapshot logicView w.seq
    ({ w with seq := d.2 }, m.shown.flatMap (itemCalls unspec beyond d.1))

end Flush

/-! ### The sequence number -/

theorem isObject_setKey (j : Json) (key : String) (v : Json) :
    (setKey j key v).isObject = j.isObject := by
  cases j <;> rfl

theorem isObject_withSystem (j : Json) : (withSystem j).isObject = j.isObject := by
  rw [withSystem]
  split
  · rfl
  · exact isObject_setKey j "system" _

/-- Each flush counts. -/
theorem seq_displayModel (snapshot logicView : Json) (seq : BitVec 32) :
    (displayModel snapshot logicView seq).2 = seq + 1 := by
  have hobject : ((if snapshot.isObject then snapshot else .object []) : Json).isObject = true := by
    split_ifs with h
    · exact h
    · rfl
  rw [displayModel, injectDerivedFields, isObject_setKey, isObject_withSystem, hobject]
  rfl

/-! ### What a flush asks for -/

/-- The registers that an item is written to. -/
def registers (it : HmiMapItem) : List Word :=
  let addr : Word := BitVec.ofNat 16 it.addr
  if writesTwo it then [addr, addr + 1] else [addr]

/-- One of the two tables that are asked to be set: what a call sets at an address of it. -/
structure ReadTable (α : Type) where
  setBy : HmiCall → Word → Option α
  setBy_of_ne : ∀ c a, c.addr ≠ a → setBy c a = none

def bitTable : ReadTable Bool where
  setBy
    | .setBoolRead b v, a => if b = a then some v else none
    | .setIntRead _ _, _ => none
  setBy_of_ne
    | .setBoolRead _ _, _, h => if_neg h
    | .setIntRead _ _, _, _ => rfl

def wordTable : ReadTable Word where
  setBy
    | .setBoolRead _ _, _ => none
    | .setIntRead b v, a => if b = a then some v else none
  setBy_of_ne
    | .setBoolRead _ _, _, _ => rfl
    | .setIntRead _ _, _, h => if_neg h

theorem addr_mem_registers {it : HmiMapItem} {v : ItemValue} {c : HmiCall}
    (hc : c ∈ writeItem it v) : c.addr ∈ registers it := by
  rw [registers]
  rcases addr_of_mem_writeItem hc with haddr | ⟨htwo, haddr⟩
  · rw [haddr]
    split_ifs <;> exact List.mem_cons_self
  · rw [haddr, if_pos htwo]
    exact List.mem_cons_of_mem _ List.mem_cons_self

namespace ReadTable

variable {α : Type} (T : ReadTable α)

/-- What the last of the calls for an address sets. -/
def lastSet (calls : List HmiCall) (a : Word) : Option α :=
  calls.reverse.findSome? fun c => T.setBy c a

theorem lastSet_append (xs ys : List HmiCall) (a : Word) :
    T.lastSet (xs ++ ys) a = (T.lastSet ys a).or (T.lastSet xs a) := by
  rw [lastSet, List.reverse_append, List.findSome?_append]
  rfl

theorem lastSet_of_ne {calls : List HmiCall} {a : Word} (h : ∀ c ∈ calls, c.addr ≠ a) :
    T.lastSet calls a = none := by
  rw [lastSet, List.findSome?_eq_none_iff]
  intro c hc
  exact T.setBy_of_ne c a (h c (List.mem_reverse.mp hc))

/-- An item that no later one overwrites has its registers as it was written. -/
theorem lastSet_flush {unspec : Int} {beyond : BitVec 32 → Int → BitVec 32} {j : Json}
    {pre post : List DisplayItem} {it : DisplayItem}
    (hlast : ∀ x ∈ post, ∀ a ∈ registers x.toItem, a ∉ registers it.toItem) {a : Word}
    (ha : a ∈ registers it.toItem) {v : α}
    (hset : T.lastSet (itemCalls unspec beyond j it) a = some v) :
    T.lastSet ((pre ++ it :: post).flatMap (itemCalls unspec beyond j)) a = some v := by
  have hlater : T.lastSet (post.flatMap (itemCalls unspec beyond j)) a = none := by
    apply T.lastSet_of_ne
    intro c hc heq
    obtain ⟨x, hx, hcx⟩ := List.mem_flatMap.mp hc
    exact hlast x hx a (heq ▸ addr_mem_registers hcx) ha
  rw [List.flatMap_append, List.flatMap_cons, lastSet_append, lastSet_append, hlater, hset]
  rfl

end ReadTable

theorem lastSet_wordTable (calls : List HmiCall) (a : Word) :
    wordTable.lastSet calls a = wordSet calls a := by
  rw [ReadTable.lastSet, wordSet]
  congr 1
  funext c
  cases c <;> rfl

end Normal
end EnergyStorage
