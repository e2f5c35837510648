import EnergyStorage.Logic.Context

/-! # Writes of the operator panel

A register write is cached and, when the map calls it a parameter, combined into its
value.  A coil write drives the button at its address: the release after a press is
the click, and the map says which action it stands for. -/

namespace EnergyStorage
namespace Logic

open Lib (Dict)

structure HmiWriteEvent where
  startAddr : Nat
  bits : List Nat := []
  regs : List Nat := []
  tsMs : Nat

namespace HmiWriteEvent

def firstBitOrZero (w : HmiWriteEvent) : Nat :=
  match w.bits with
  | [] => 0
  | b :: _ => if b ≠ 0 then 1 else 0

def firstRegOrZero (w : HmiWriteEvent) : Nat := w.regs.head?.getD 0

end HmiWriteEvent

/-! ### Finding the written item -/

inductive HmiWriteLookupKind
  | anyRw | boolRw | intRw
  deriving DecidableEq

structure HmiMappedWriteItem where
  addr : Nat
  baseAddr : Nat
  wordOffset : Nat
  words : Nat
  type : HmiMapType
  path : String
  name : String
  valueType : String

def isEmptyOrPlaceholderPath (path : String) : Bool := path == "" || path == "_"

def matchLookupKind (type : HmiMapType) : HmiWriteLookupKind → Bool
  | .boolRw => type = .boolRw
  | .intRw => type = .intRw
  | .anyRw => type = .boolRw || type = .intRw

def fillMappedWriteItem (it : HmiMapItem) (writeAddr : Nat) (kind : HmiWriteLookupKind) :
    Option HmiMappedWriteItem :=
  if ¬ it.hasAddr then none
  else if ¬ matchLookupKind it.type kind then none
  else if isEmptyOrPlaceholderPath it.path then none
  else
    let words := if it.words = 0 then 1 else it.words
    if writeAddr < it.addr ∨ it.addr + words ≤ writeAddr then none
    else some
      { addr := writeAddr, baseAddr := it.addr, wordOffset := writeAddr - it.addr
        words := words, type := it.type, path := it.path, name := it.name
        valueType := it.valueType }

/-- Items that start at the address come first, then items that cover it. -/
def findHmiWriteItemByAddress (map : Option HmiMapModel) (addr : Nat)
    (kind : HmiWriteLookupKind) : Option HmiMappedWriteItem :=
  map.bind fun m =>
    let pick := fun idx => (m.itemAt idx).bind fun it => fillMappedWriteItem it addr kind
    (((m.findByAddr addr).getD []).findSome? pick).or (m.rwItems.findSome? pick)

/-! ### Register writes -/

/-- Registers past the end of the address space are dropped. -/
def cacheWrittenRegs (startAddr : Nat) (regs : List Nat) (state : Dict Nat Nat) : Dict Nat Nat :=
  (regs.zipIdx).foldl
    (fun st r => if startAddr + r.2 > 0xFFFF then st else st.insert (startAddr + r.2) r.1) state

def regStateOrZero (state : Dict Nat Nat) (addr : Nat) : Nat := (state.get addr).getD 0

/-- The high word comes first. -/
def readMappedRegValue (state : Dict Nat Nat) (item : HmiMappedWriteItem) : Int :=
  if item.words ≥ 2 then
    let hi := regStateOrZero state item.baseAddr
    let lo := regStateOrZero state ((item.baseAddr + 1) % 2 ^ 16)
    (BitVec.ofNat 32 (hi * 2 ^ 16 ||| lo)).toInt
  else regStateOrZero state item.baseAddr

def cacheHmiParam (addr : Nat) (value : Int) (path name : String) (tsMs : Nat)
    (h : HmiControl) : HmiControl :=
  { h with
    hmiParamValues := h.hmiParamValues.insert path value
    hmiParamAddr := h.hmiParamAddr.insert path addr
    hmiParamName := h.hmiParamName.insert path name
    hmiParamTs := h.hmiParamTs.insert path tsMs
    lastHmiParamTs := tsMs
    lastHmiParamAddr := addr
    lastHmiParamValue := (value % 2 ^ 16).toNat
    lastHmiParamPath := path
    lastHmiParamName := name }

/-- Only paths below `hmi.param.` are parameters. -/
def handleHmiRegWrite (map : Option HmiMapModel) (w : HmiWriteEvent) (h : HmiControl) :
    HmiControl :=
  let h := { h with
    lastHmiValue := w.firstRegOrZero
    hmiRegState := cacheWrittenRegs w.startAddr w.regs h.hmiRegState }
  match findHmiWriteItemByAddress map w.startAddr .intRw with
  | none => h
  | some item =>
    if item.path.startsWith "hmi.param." then
      cacheHmiParam item.baseAddr (readMappedRegValue h.hmiRegState item) item.path item.name
        w.tsMs h
    else h

/-! ### Coil writes -/

def hvOnPath : String := "hmi.ctrl.btn.hv_on"
def hvOffPath : String := "hmi.ctrl.btn.hv_off"

/-- The other paths turn fault pages, which no command depends on. -/
def onHmiButtonClick (addr : Nat) (path name : String) (eventTs : Nat) (h : HmiControl) :
    HmiControl :=
  let h := { h with
    lastHmiButtonTs := eventTs, lastHmiButtonAddr := addr
    lastHmiButtonPath := path, lastHmiButtonName := name }
  if path = hvOnPath then
    { h with hmiHvOnRequested := true, hmiHvOffRequested := false, hmiHvOnRequestTs := eventTs }
  else if path = hvOffPath then
    { h with hmiHvOffRequested := true, hmiHvOnRequested := false, hmiHvOffRequestTs := eventTs }
  else h

def HmiButtonState.press (tsMs : Nat) (st : HmiButtonState) : HmiButtonState :=
  if ¬ st.isDown then { st with isDown := true, armed := true, pressTsMs := tsMs } else st

def HmiButtonState.release (tsMs : Nat) (st : HmiButtonState) : HmiButtonState :=
  { st with isDown := false, armed := false, releaseTsMs := tsMs }

def handleHmiCoilWrite (map : Option HmiMapModel) (eventTs : Nat) (w : HmiWriteEvent)
    (h : HmiControl) : HmiControl :=
  let addr := w.startAddr
  let curr := w.firstBitOrZero
  let h := { h with lastHmiValue := curr, hmiCoilState := h.hmiCoilState.insert addr curr }
  match findHmiWriteItemByAddress map addr .boolRw with
  | none => h
  | some item =>
    let st := (h.hmiButtonStates.get addr).getD {}
    if curr ≠ 0 then
      { h with hmiButtonStates := h.hmiButtonStates.insert addr (st.press w.tsMs) }
    else
      let h := { h with hmiButtonStates := h.hmiButtonStates.insert addr (st.release w.tsMs) }
      if st.isDown && st.armed then onHmiButtonClick addr item.path item.name eventTs h else h

/-- A write with coils is a coil write, whatever registers it carries. -/
def onHmiWrite (map : Option HmiMapModel) (eventTs : Nat) (w : HmiWriteEvent) (h : HmiControl) :
    HmiControl :=
  let h := { h with lastHmiCommTs := w.tsMs, lastHmiAddr := w.startAddr, hmiSeenOnce := true }
  if w.bits ≠ [] then handleHmiCoilWrite map eventTs w h
  else if w.regs ≠ [] then handleHmiRegWrite map w h
  else h

end Logic
end EnergyStorage
