import EnergyStorage.Fault.Tokens
import EnergyStorage.Lib.Json
import EnergyStorage.Lib.Numeral
import EnergyStorage.Logic.Context

/-! # Loading the map of the operator panel

Each line of the file is a block of items.  An item stands at its own address, or as many
registers behind the block's base as items come before it. -/

namespace EnergyStorage
namespace Normal

open Lib (Json Dict)
open Fault (trim)
open Logic (HmiMapType)

/-! ### Reading values -/

/-- `std::to_string` of a floating-point number: six decimals, halves to even. -/
def fixed6 (q : ℚ) : String :=
  let scaled := (if q < 0 then -q else q) * 10 ^ 6
  let floor : Nat := scaled.floor.toNat
  let rest : ℚ := scaled - (floor : ℚ)
  let up := decide (1 / 2 < rest) || decide (rest = 1 / 2 ∧ floor % 2 = 1)
  let n := if up then floor + 1 else floor
  let digits := toString (n % 10 ^ 6)
  (if q < 0 then "-" else "") ++ toString (n / 10 ^ 6) ++ "." ++
    String.ofList (List.replicate (6 - digits.length) '0') ++ digits

def jsonToString : Json → Option String
  | .string s => some s
  | .boolean b => some (if b then "1" else "0")
  | .unsigned n => some (toString (BitVec.ofNat 64 n).toInt)
  | .integer i => some (toString i)
  | .float q => some (fixed6 q)
  | .null | .array _ | .object _ => none

def readStringAny (j : Json) (keys : List String) : Option String :=
  (j.readAny jsonToString keys).map trim

def parseU32Any : Json → Option Nat
  | .unsigned n => some (n % 2 ^ 32)
  | .integer i => if i < 0 then none else some (i.toNat % 2 ^ 32)
  | .float q => if q < 0 ∨ 4294967295 < q then none else some q.floor.toNat
  | .string s => (Lib.Numeral.strtoulAll (trim s)).map (· % 2 ^ 32)
  | .null | .boolean _ | .array _ | .object _ => none

def parseU16Any (v : Json) : Option Nat := (parseU32Any v).filter fun x => x ≤ 0xFFFF

def readU16Any (j : Json) (keys : List String) : Option Nat := j.readAny parseU16Any keys

def lower (s : String) : String := String.ofList (s.toList.map Char.toLower)

def parseType (s : String) : HmiMapType :=
  let t := lower (trim s)
  if t ∈ ["bool_read", "bool", "di"] then .boolRead
  else if t ∈ ["bool_rw", "coil", "do"] then .boolRw
  else if t ∈ ["int_read", "input_register", "input_reg"] then .intRead
  else if t ∈ ["int_rw", "holding_register", "holding_reg"] then .intRw
  else if t ∈ ["u16", "uint16"] then .u16
  else if t ∈ ["s16", "int16"] then .s16
  else if t = "bit" then .bit
  else .unknown

/-! ### The loaded map -/

inductive HmiMapItemKind
  | empty | normal | faultNum | faultButton | rw | otherHmi
  deriving DecidableEq, Repr

structure HmiMapItem extends Logic.HmiMapItem where
  blockIndex : Nat := 0
  itemIndex : Nat := 0
  lineNo : Nat := 0
  blockHasBase : Bool := false
  blockBase : Nat := 0
  src : String := ""

structure HmiMapBlock where
  type : HmiMapType
  typeText : String
  hasBase : Bool := false
  base : Nat := 0
  src : String := ""
  lineNo : Nat
  itemIndexes : List Nat := []

/-- The indexes point into `items`. -/
structure HmiMapModel where
  blocks : List HmiMapBlock := []
  items : List HmiMapItem := []
  normalItems : List Nat := []
  faultNumItems : List Nat := []
  faultButtonItems : List Nat := []
  rwItems : List Nat := []
  byPath : Dict String (List Nat) := Dict.empty
  byAddr : Dict Nat (List Nat) := Dict.empty

def isRwMapType (t : HmiMapType) : Bool := t = .boolRw || t = .intRw

def isReadOutputMapType (t : HmiMapType) : Bool :=
  t = .boolRead || t = .intRead || t = .u16 || t = .s16 || t = .bit

namespace HmiMapItem

def hasPath (it : HmiMapItem) : Bool := it.path ≠ "" && it.path ≠ "_"

def classifyItem (it : HmiMapItem) : HmiMapItemKind :=
  if !it.hasPath then .empty
  else if it.path.startsWith "hmi.fault.num." then .faultNum
  else if it.path.startsWith "hmi.fault.btn." then .faultButton
  else if isRwMapType it.type then .rw
  else if it.path.startsWith "hmi." then .otherHmi
  else .normal

/-- Written by the writer of the normal pages; the fault pages are another's. -/
def isNormal (it : HmiMapItem) : Bool :=
  it.hasPath && isReadOutputMapType it.type && it.classifyItem ≠ .faultNum

end HmiMapItem

namespace HmiMapModel

def itemAt (m : HmiMapModel) (idx : Nat) : Option HmiMapItem := m.items[idx]?

/-- Adds an index to the entry of the key. -/
def addIndex {κ : Type} [DecidableEq κ] (d : Dict κ (List Nat)) (k : κ) (idx : Nat) :
    Dict κ (List Nat) :=
  d.insert k ((d.get k).getD [] ++ [idx])

def appendItemToModel (m : HmiMapModel) (it : HmiMapItem) : HmiMapModel :=
  let idx := m.items.length
  { m with
    items := m.items ++ [it]
    byPath := if it.hasPath then addIndex m.byPath it.path idx else m.byPath
    byAddr := if it.hasAddr then addIndex m.byAddr it.addr idx else m.byAddr
    faultNumItems := if it.classifyItem = .faultNum then m.faultNumItems ++ [idx]
      else m.faultNumItems
    faultButtonItems := if it.classifyItem = .faultButton then m.faultButtonItems ++ [idx]
      else m.faultButtonItems
    rwItems := if isRwMapType it.type then m.rwItems ++ [idx] else m.rwItems
    normalItems := if it.isNormal then m.normalItems ++ [idx] else m.normalItems }

/-- What the writes of the panel are looked up in. -/
def toLogic (m : HmiMapModel) : Logic.HmiMapModel where
  items := m.items.map (·.toHmiMapItem)
  rwItems := m.rwItems
  byAddr := m.byAddr

end HmiMapModel

/-! ### Loading -/

/-- The address that an item states itself. -/
def explicitAddr (one : Json) : Option Nat :=
  if one.isObject then readU16Any one ["地址hex", "addr", "address", "地址"] else none

/-- Only an object may not lie beyond the last address; other values keep a place. -/
def readItem (blk : HmiMapBlock) (blockIndex i : Nat) (one : Json) : Except String HmiMapItem :=
  let item : HmiMapItem :=
    { type := blk.type, blockIndex := blockIndex, itemIndex := i, lineNo := blk.lineNo
      blockHasBase := blk.hasBase, blockBase := blk.base, src := blk.src }
  if one.isObject then
    let words := (readU16Any one ["长度/int16", "words", "length", "长度"]).getD 1
    let item :=
      { item with
        path := (readStringAny one ["path"]).getD ""
        name := (readStringAny one ["变量描述", "name", "desc", "description"]).getD ""
        valueType := (readStringAny one ["变量类型", "var_type", "value_type", "type_name"]).getD ""
        words := if words = 0 then 1 else words }
    match explicitAddr one with
    | some addr => .ok { item with hasAddr := true, addr := addr }
    | none =>
      if !blk.hasBase then .ok item
      else if 0xFFFF < blk.base + i then
        .error ("line " ++ toString blk.lineNo ++ " item address overflow at index " ++ toString i)
      else .ok { item with hasAddr := true, addr := blk.base + i }
  else
    let item := { item with path := "_", words := 1 }
    if blk.hasBase && decide (blk.base + i ≤ 0xFFFF) then
      .ok { item with hasAddr := true, addr := blk.base + i }
    else .ok item

/-- The items of a block from place `i` on. -/
def loadItems : Nat → List Json → HmiMapBlock → HmiMapModel →
    Except String (HmiMapBlock × HmiMapModel)
  | _, [], blk, m => .ok (blk, m)
  | i, one :: rest, blk, m =>
    match readItem blk m.blocks.length i one with
    | .error e => .error e
    | .ok item =>
      loadItems (i + 1) rest { blk with itemIndexes := blk.itemIndexes ++ [m.items.length] }
        (m.appendItemToModel item)

def readBlock (lineNo : Nat) (type : HmiMapType) (typeText : String) (j : Json) : HmiMapBlock :=
  let base := readU16Any j ["base", "起始地址", "addr_base", "address_base"]
  { type := type, typeText := typeText, lineNo := lineNo
    hasBase := base.isSome, base := base.getD 0
    src := (readStringAny j ["src", "source", "bit_src"]).getD "" }

/-- A block without a base takes the first address that one of its items states. -/
def backfillBase (arr : List Json) (blk : HmiMapBlock) : HmiMapBlock :=
  if blk.hasBase then blk
  else
    match arr.findSome? explicitAddr with
    | none => blk
    | some addr => { blk with hasBase := true, base := addr }

def loadBlock (lineNo : Nat) (j : Json) (m : HmiMapModel) : Except String HmiMapModel :=
  let line := "line " ++ toString lineNo
  if !j.isObject then .error (line ++ " is not json object")
  else
    match readStringAny j ["type"] with
    | none => .error (line ++ " missing type")
    | some typeText =>
      if parseType typeText = .unknown then .error (line ++ " unsupported type: " ++ typeText)
      else
        match j.find "items" with
        | some (.array arr) =>
          match loadItems 0 arr (readBlock lineNo (parseType typeText) typeText j) m with
          | .error e => .error e
          | .ok (blk, m) => .ok { m with blocks := m.blocks ++ [backfillBase arr blk] }
        | _ => .error (line ++ " missing items array")

/-- The lines from number `lineNo` on; `parse` is the JSON parser, with the text of its error. -/
def loadLines (parse : String → Except String Json) :
    Nat → List String → HmiMapModel → Except String HmiMapModel
  | _, [], m => .ok m
  | lineNo, line :: rest, m =>
    if trim line = "" then loadLines parse (lineNo + 1) rest m
    else
      match parse (trim line) with
      | .error what =>
        .error ("json parse failed at line " ++ toString lineNo ++ ": " ++ what)
      | .ok j =>
        match loadBlock lineNo j m with
        | .error e => .error e
        | .ok m => loadLines parse (lineNo + 1) rest m

/-- `file` holds the lines, if it can be opened. -/
def loadJsonl (parse : String → Except String Json) (path : String)
    (file : Option (List String)) : Except String HmiMapModel :=
  match file with
  | none => .error ("open failed: " ++ path)
  | some lines => loadLines parse 1 lines {}

end Normal
end EnergyStorage
