import EnergyStorage.Lib.Machine
import EnergyStorage.Driver.Manager
import EnergyStorage.Maintain.Storage

/-! # The maintenance settings

A write of the operator panel changes one setting.  The settings with the change are saved, and
taken back whole if the save fails; only then is the device told.  The password comes as two
words, in one write or in two. -/

namespace EnergyStorage
namespace Maintain

open Lib (Machine)

structure MaintainEndpoint where
  valid : Bool := false
  addr : Word := 0
  words : Word := 1

structure MaintainStorageState where
  configPath : String := ""
  loadedFromFile : Bool := false
  currentPassword : BitVec 32 := 123456
  boxId : Word := 0
  upsShutdownTime : Word := 0
  airconSetTemp : Word := 25
  airconSetHumidity : Word := 60
  lastUpdateTsMs : Nat := 0

structure MaintainLinkState where
  airRs485Index : Int := -1
  airSlaveId : Byte := 1
  upsRs232Index : Int := -1

structure MaintainMapState where
  maintainPassword : MaintainEndpoint := {}
  boxNum : MaintainEndpoint := {}
  upsShutdownTime : MaintainEndpoint := {}
  airconSetTemp : MaintainEndpoint := {}
  airconSetHumidity : MaintainEndpoint := {}
  passwordNew1 : MaintainEndpoint := {}

structure MaintainPasswordWriteState where
  pendingHiValid : Bool := false
  pendingHi : Word := 0
  pendingHiTsMs : Nat := 0
  pendingTimeoutMs : Nat := 2000

def MaintainPasswordWriteState.clearPending (p : MaintainPasswordWriteState) :
    MaintainPasswordWriteState :=
  { p with pendingHiValid := false, pendingHi := 0, pendingHiTsMs := 0 }

structure HmiWriteEvent where
  startAddr : Word
  regs : List Word := []
  tsMs : Nat

structure SendSerialRawCmd where
  linkType : LinkType
  index : Int
  bytes : List Byte

/-- The service, with whether a slave of the panel is bound. -/
structure MaintainService where
  storage : MaintainStorageState
  links : MaintainLinkState
  map : MaintainMapState
  passwordWrite : MaintainPasswordWriteState := {}
  hmi : Bool

/-- What a write of the panel makes the service do, in order. -/
inductive Effect
  | save (cfg : MaintainConfig) (ok : Bool)
  | setIntRw (addr value : Word)
  | queue (cmd : SendSerialRawCmd)

namespace MaintainService

def kAirRegCoolPointC : Word := 0x0700

def kAirRegHighHumPct : Word := 0x0708

def joinWordsHiLo (hi lo : Word) : BitVec 32 := hi.setWidth 32 <<< 16 ||| lo.setWidth 32

def firstRegOrZero (w : HmiWriteEvent) : Word := w.regs.headD 0

def isRegWrite (w : HmiWriteEvent) : Bool := !w.regs.isEmpty

def isAddrInEndpoint (ep : MaintainEndpoint) (addr : Word) : Bool :=
  let words := if ep.words = 0 then 1 else ep.words
  ep.valid && ep.addr ≤ addr && addr < ep.addr + words

def isEndpointBaseWrite (ep : MaintainEndpoint) (w : HmiWriteEvent) : Bool :=
  ep.valid && isRegWrite w && w.startAddr == ep.addr

def makeConfigFromContext (st : MaintainStorageState) : MaintainConfig where
  version := 1
  password := st.currentPassword
  boxId := st.boxId
  upsShutdownTime := st.upsShutdownTime
  airconSetTemp := st.airconSetTemp
  airconSetHumidity := st.airconSetHumidity

def syncPasswordToHmi (s : MaintainService) : List Effect :=
  let ep := s.map.maintainPassword
  if ¬ s.hmi then []
  else if ¬ ep.valid then []
  else if ep.words < 2 then []
  else
    let hi : Word := (s.storage.currentPassword >>> 16).setWidth 16
    let lo : Word := s.storage.currentPassword.setWidth 16
    [.setIntRw ep.addr hi, .setIntRw (ep.addr + 1) lo]

/-! ### The commands -/

def formatUpsShutdownDelay (minutes : Word) : String :=
  if minutes < 1 ∨ 10 < minutes then ""
  else (if minutes < 10 then "0" else "") ++ toString minutes.toNat

def isValidShutdownDelay (n : String) : Bool :=
  n == ".2" || n == ".3" ||
    match n.toList with
    | [a, b] =>
      let v := (a.toNat - '0'.toNat) * 10 + (b.toNat - '0'.toNat)
      a.isDigit && b.isDigit && decide (1 ≤ v ∧ v ≤ 10)
    | _ => false

def buildShutdownCmd (n : String) : List Byte :=
  if ¬ isValidShutdownDelay n then []
  else ("S" ++ n ++ "\r").toList.map fun c => BitVec.ofNat 8 c.toNat

def buildWriteSingleLoHi (slave : Byte) (reg value : Word) : List Byte :=
  appendCrc [slave, 0x06, hiByte reg, loByte reg, hiByte value, loByte value]

def emitUpsShutdownCommand (links : MaintainLinkState) (minutes : Word) : List Effect :=
  -- a time of zero is saved only
  if minutes = 0 then []
  else if links.upsRs232Index < 0 then []
  else
    let delay := formatUpsShutdownDelay minutes
    if delay.isEmpty then []
    else
      let bytes := buildShutdownCmd delay
      if bytes.isEmpty then []
      else [.queue { linkType := .rs232, index := links.upsRs232Index, bytes }]

def emitAirconWriteSingle (links : MaintainLinkState) (reg value : Word) : List Effect :=
  if links.airRs485Index < 0 then []
  else
    let bytes := buildWriteSingleLoHi links.airSlaveId reg value
    if bytes.isEmpty then []
    else [.queue { linkType := .rs485, index := links.airRs485Index, bytes }]

/-! ### The settings -/

/-- One setting is changed and saved.  `after` follows a save and `failed` a save that failed;
`saves` is what the file operations come to, if the save gets to them. -/
def applySetting (set : MaintainStorageState → MaintainStorageState)
    (after failed : MaintainService → List Effect) (tsMs : Nat) (saves : Bool)
    (s : MaintainService) : MaintainService × List Effect :=
  let storage := { set s.storage with lastUpdateTsMs := tsMs }
  if storage.configPath.isEmpty then (s, failed s)
  else
    let cfg := makeConfigFromContext storage
    if saves then
      let s := { s with storage := { storage with loadedFromFile := true } }
      (s, .save cfg true :: after s)
    else (s, .save cfg false :: failed s)

def applyNewPassword (newPassword : BitVec 32) :=
  applySetting (fun st => { st with currentPassword := newPassword }) syncPasswordToHmi
    syncPasswordToHmi

def applyBoxId (boxId : Word) :=
  applySetting (fun st => { st with boxId := boxId }) (fun _ => []) (fun _ => [])

def applyUpsShutdownTime (minutes : Word) :=
  applySetting (fun st => { st with upsShutdownTime := minutes })
    (fun s => emitUpsShutdownCommand s.links minutes) (fun _ => [])

def applyAirconTemp (tempC : Word) :=
  applySetting (fun st => { st with airconSetTemp := tempC })
    (fun s => emitAirconWriteSingle s.links kAirRegCoolPointC tempC) (fun _ => [])

def applyAirconHumidity (humidityPct : Word) :=
  applySetting (fun st => { st with airconSetHumidity := humidityPct })
    (fun s => emitAirconWriteSingle s.links kAirRegHighHumPct humidityPct) (fun _ => [])

/-! ### The writes of the panel -/

/-- What a write does, if it is a write to the new password. -/
def handlePasswordSetWrite (s : MaintainService) (w : HmiWriteEvent) (saves : Bool) :
    Option (MaintainService × List Effect) :=
  let ep := s.map.passwordNew1
  if ¬ ep.valid then none
  else if ¬ isAddrInEndpoint ep w.startAddr then none
  else if ¬ isRegWrite w then some (s, [])
  else if ep.words < 2 then some (s, [])
  else if w.startAddr = ep.addr ∧ 2 ≤ w.regs.length then
    let newPassword := joinWordsHiLo (w.regs.getD 0 0) (w.regs.getD 1 0)
    let s := { s with passwordWrite := s.passwordWrite.clearPending }
    some (applyNewPassword newPassword w.tsMs saves s)
  else
    let word := firstRegOrZero w
    if w.startAddr = ep.addr then
      let pending := { s.passwordWrite with
        pendingHiValid := true, pendingHi := word, pendingHiTsMs := w.tsMs }
      some ({ s with passwordWrite := pending }, [])
    else if w.startAddr = ep.addr + 1 then
      let pending := s.passwordWrite
      if ¬ pending.pendingHiValid then some (s, [])
      else
        let s := { s with passwordWrite := pending.clearPending }
        if pending.pendingHiTsMs ≤ w.tsMs ∧
            pending.pendingTimeoutMs < w.tsMs - pending.pendingHiTsMs then some (s, [])
        else some (applyNewPassword (joinWordsHiLo pending.pendingHi word) w.tsMs saves s)
    else some (s, [])

/-- What a write does, if it is a write to the first word of the endpoint. -/
def handleBaseWrite (ep : MaintainEndpoint)
    (apply : Word → Nat → Bool → MaintainService → MaintainService × List Effect)
    (s : MaintainService) (w : HmiWriteEvent) (saves : Bool) :
    Option (MaintainService × List Effect) :=
  if ¬ isEndpointBaseWrite ep w then none
  else some (apply (firstRegOrZero w) w.tsMs saves s)

def handleBoxNumWrite (s : MaintainService) :=
  handleBaseWrite s.map.boxNum applyBoxId s

def handleUpsShutdownWrite (s : MaintainService) :=
  handleBaseWrite s.map.upsShutdownTime applyUpsShutdownTime s

def handleAirconTempWrite (s : MaintainService) :=
  handleBaseWrite s.map.airconSetTemp applyAirconTemp s

def handleAirconHumidityWrite (s : MaintainService) :=
  handleBaseWrite s.map.airconSetHumidity applyAirconHumidity s

/-- What a write does, none if it is no write of a setting. -/
def onHmiWrite (s : MaintainService) (w : HmiWriteEvent) (saves : Bool) :
    Option (MaintainService × List Effect) :=
  handlePasswordSetWrite s w saves <|> handleBoxNumWrite s w saves <|>
    handleUpsShutdownWrite s w saves <|> handleAirconTempWrite s w saves <|>
    handleAirconHumidityWrite s w saves

end MaintainService

end Maintain
end EnergyStorage
