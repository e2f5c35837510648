import EnergyStorage.Bms.CommandManager
import EnergyStorage.Lib.Rounding
import EnergyStorage.Logic.DeviceInput
import Mathlib.Data.Rat.Floor

/-! # The frames to the PCUs

Each tick one control frame and one status frame go to every PCU that is due.  They
carry the same content, computed once from the inputs and the battery caches. -/

namespace EnergyStorage
namespace Pcu

open Lib
open Logic (LogicContext testDi diChEstop)
open Bms (BmsPerInstanceCache BmsCommandManager)

/-! ### Building the frames -/

def buildEmuCtrl (id29 : BitVec 32) (heartbeat plugState estop batt1Estop batt2Estop
    sysEnable : Nat) : CanFrame where
  canId := (id29 &&& canEffMask) ||| canEffFlag
  canDlc := 8
  data := BitField.ofBytes [heartbeat, plugState, estop, batt1Estop, batt2Estop, 0, 0, sysEnable]

/-- Powers are 16-bit words, low byte first. -/
def buildEmuStatus (id29 : BitVec 32) (batt1KwX10 batt2KwX10 batt1Branches
    batt2Branches : Nat) : CanFrame where
  canId := (id29 &&& canEffMask) ||| canEffFlag
  canDlc := 8
  data := BitField.ofBytes [batt1KwX10 % 256, batt1KwX10 / 256 % 256, batt2KwX10 % 256,
    batt2KwX10 / 256 % 256, batt1Branches, batt2Branches, 0, 0]

/-- The enable byte of a control frame. -/
def sysEnableOf (fr : CanFrame) : Nat := fr.byte 7

/-- The power word of the first (`0`) or second (`1`) battery in a status frame. -/
def powerWordOf (fr : CanFrame) (i : Nat) : Nat := fr.byte (2 * i) + 256 * fr.byte (2 * i + 1)

theorem sysEnableOf_buildEmuCtrl (id29 : BitVec 32) (hb plug estop b1 b2 enable : Nat) :
    sysEnableOf (buildEmuCtrl id29 hb plug estop b1 b2 enable) = enable % 256 := by
  show BitField.read (BitField.ofBytes [hb, plug, estop, b1, b2, 0, 0, enable]) (8 * 7) 8 = _
  rw [BitField.read_ofBytes (by simp) (by simp)]
  rfl

theorem powerWordOf_buildEmuStatus (id29 : BitVec 32) {w1 w2 : Nat} (h1 : w1 < 2 ^ 16)
    (h2 : w2 < 2 ^ 16) (br1 br2 : Nat) :
    powerWordOf (buildEmuStatus id29 w1 w2 br1 br2) 0 = w1 ∧
      powerWordOf (buildEmuStatus id29 w1 w2 br1 br2) 1 = w2 := by
  have hbyte : ∀ i (hi : i < 8), (buildEmuStatus id29 w1 w2 br1 br2).byte i =
      [w1 % 256, w1 / 256 % 256, w2 % 256, w2 / 256 % 256, br1, br2, 0, 0][i] % 2 ^ 8 := by
    intro i hi
    exact BitField.read_ofBytes (by simp) hi
  have b0 := hbyte 0 (by decide)
  have b1 := hbyte 1 (by decide)
  have b2 := hbyte 2 (by decide)
  have b3 := hbyte 3 (by decide)
  simp only [List.getElem_cons_zero, List.getElem_cons_succ] at b0 b1 b2 b3
  unfold powerWordOf
  constructor
  · show (buildEmuStatus id29 w1 w2 br1 br2).byte 0 +
      256 * (buildEmuStatus id29 w1 w2 br1 br2).byte 1 = w1
    omega
  · show (buildEmuStatus id29 w1 w2 br1 br2).byte 2 +
      256 * (buildEmuStatus id29 w1 w2 br1 br2).byte 3 = w2
    omega

/-! ### The content of one tick -/

def pcuPlugAdcThresholdV : ℚ := 8

/-- A channel that was not sampled reads as zero volts. -/
def readAiVoltageForPcu (ai : List ℚ) (adcChannel : Nat) : ℚ :=
  if adcChannel < 1 then 0 else ai[adcChannel - 1]?.getD 0

def isPlugByAdcForPcu (v : ℚ) : Bool := decide (v > 1 / 100) && decide (v < pcuPlugAdcThresholdV)

def calcPcuPlugState (ctx : LogicContext) : Bool :=
  [13, 14, 15, 16, 17, 18].any (testDi ctx.diBits) ||
    [1, 2].any fun ch => isPlugByAdcForPcu (readAiVoltageForPcu ctx.ai ch)

def estopByIo (ctx : LogicContext) : Bool := ctx.systemEstop || testDi ctx.diBits diChEstop

def findBmsForPcu (ctx : LogicContext) (bmsIndex : Nat) : Option BmsPerInstanceCache :=
  ctx.bmsCache.items.get (BmsCommandManager.makeName bmsIndex)

/-- A battery the PCUs must not draw from. -/
def bmsCriticalForPcu : Option BmsPerInstanceCache → Bool
  | none => true
  | some x =>
    if ¬ x.seenOnce then true
    else if ¬ x.online then true
    else if x.runtimeFaultStale then true
    else if x.st2.rqHvPowerOff then true
    else if x.st2.faultLevel ≥ 2 then true
    else if x.fireFaultLevel ≥ 2 then true
    else if x.tm2b.faultLevel ≥ 2 then true
    else if ¬ x.hvAllowClose then true
    else false

/-- Halves are rounded away from zero. -/
def lround (q : ℚ) : Int := Rounding.nearest q

/-- The discharge power in units of 0.1 kW. -/
def calcPcuDischargePowerKwX10 : Option BmsPerInstanceCache → Nat
  | none => 0
  | some x =>
    if ¬ x.online then 0
    else if ¬ x.groupOnline .st2 then 0
    else if ¬ x.groupOnline .currentLimit then 0
    else if ¬ x.st2.packV.valid then 0
    else if ¬ x.currentLimit.dischargeLimitA.valid then 0
    else
      let packV := x.st2.packV.value
      let packI := x.st2.packI.value
      if ¬ 0 < packV ∨ ¬ 0 < packI then 0
      else
        let raw := packV * packI / 100
        let clamped := max 0 (min raw 10000)
        (lround clamped % 2 ^ 16).toNat

structure PcuTxContent where
  plugState : Bool
  estopByIo : Bool
  batt1Estop : Bool
  batt2Estop : Bool
  systemEnable : Bool
  batt1KwX10 : Nat
  batt2KwX10 : Nat

def pcuTxContent (ctx : LogicContext) : PcuTxContent :=
  let batt1Estop := bmsCriticalForPcu (findBmsForPcu ctx 1)
  let batt2Estop := bmsCriticalForPcu (findBmsForPcu ctx 2)
  { plugState := calcPcuPlugState ctx
    estopByIo := estopByIo ctx
    batt1Estop := batt1Estop
    batt2Estop := batt2Estop
    systemEnable := !estopByIo ctx && !batt1Estop && !batt2Estop
    batt1KwX10 := calcPcuDischargePowerKwX10 (findBmsForPcu ctx 1)
    batt2KwX10 := calcPcuDischargePowerKwX10 (findBmsForPcu ctx 2) }

/-! ### One slot -/

structure PcuTxRuntimeCfg where
  valid : Bool := false
  canIndex : Int := -1
  /-- `1` or `2` once bound. -/
  pcuInstance : Nat := 0
  txEnable : Bool := false
  sendCtrl : Bool := true
  sendStatus : Bool := true
  periodMs : Nat := 200
  nextDueMs : Nat := 0
  idEmuCtrl : BitVec 32 := 0x1801A0E0#32
  idEmuStatus : BitVec 32 := 0x1802A0E0#32
  heartbeat : Nat := 0
  batt1Branches : Nat := 2
  batt2Branches : Nat := 2

namespace PcuTxRuntimeCfg

/-- A slot that has not sent yet is due at once. -/
def isDue (cfg : PcuTxRuntimeCfg) (nowMs : Nat) : Bool :=
  cfg.valid && cfg.txEnable && decide (0 ≤ cfg.canIndex) &&
    decide (cfg.nextDueMs = 0 ∨ cfg.nextDueMs ≤ nowMs)

def ctrlFrame (cfg : PcuTxRuntimeCfg) (c : PcuTxContent) : Option CanFrame :=
  if cfg.sendCtrl then
    some (buildEmuCtrl cfg.idEmuCtrl cfg.heartbeat c.plugState.toNat c.estopByIo.toNat
      c.batt1Estop.toNat c.batt2Estop.toNat c.systemEnable.toNat)
  else none

def statusFrame (cfg : PcuTxRuntimeCfg) (c : PcuTxContent) : Option CanFrame :=
  if cfg.sendStatus then
    some (buildEmuStatus cfg.idEmuStatus c.batt1KwX10 c.batt2KwX10 cfg.batt1Branches
      cfg.batt2Branches)
  else none

theorem ctrlFrame_eq_some_iff {cfg : PcuTxRuntimeCfg} {c : PcuTxContent} {fr : CanFrame} :
    cfg.ctrlFrame c = some fr ↔ cfg.sendCtrl = true ∧
      buildEmuCtrl cfg.idEmuCtrl cfg.heartbeat c.plugState.toNat c.estopByIo.toNat
        c.batt1Estop.toNat c.batt2Estop.toNat c.systemEnable.toNat = fr := by
  unfold ctrlFrame
  cases cfg.sendCtrl <;> simp

theorem statusFrame_eq_some_iff {cfg : PcuTxRuntimeCfg} {c : PcuTxContent} {fr : CanFrame} :
    cfg.statusFrame c = some fr ↔ cfg.sendStatus = true ∧
      buildEmuStatus cfg.idEmuStatus c.batt1KwX10 c.batt2KwX10 cfg.batt1Branches
        cfg.batt2Branches = fr := by
  unfold statusFrame
  cases cfg.sendStatus <;> simp

/-- Both frames of a round in one record for the aggregator. -/
def txMirror (cfg : PcuTxRuntimeCfg) (c : PcuTxContent) (nowMs : Nat) : DeviceData :=
  let runtimeIndex := if cfg.pcuInstance ≥ 1 then cfg.pcuInstance - 1 else 0
  let m : DeviceData :=
    { deviceName := "PCU_" ++ toString runtimeIndex ++ "_CTRL", timestamp := nowMs % 2 ^ 32 }
  let m := m.setValue "__can_index" cfg.canIndex
  let m := m.setValue "__pcu.instance" cfg.pcuInstance
  let m := m.setValue "__pcu.runtime_index" runtimeIndex
  let m := m.setValue "__pcu.ctrl_id" (cfg.idEmuCtrl &&& canEffMask).toNat
  let m := m.setValue "__pcu.status_id" (cfg.idEmuStatus &&& canEffMask).toNat
  let m := m.setValue "ctrl_heartbeat" cfg.heartbeat
  let m := m.setStatus "plug_state" c.plugState.toNat
  let m := m.setStatus "estop" c.estopByIo.toNat
  let m := m.setStatus "batt1_estop" c.batt1Estop.toNat
  let m := m.setStatus "batt2_estop" c.batt2Estop.toNat
  let m := m.setStatus "sys_enable" c.systemEnable.toNat
  let m := m.setValue "batt1_kw_x10" c.batt1KwX10
  let m := m.setValue "batt2_kw_x10" c.batt2KwX10
  let m := m.setValue "batt1_branches" cfg.batt1Branches
  let m := m.setValue "batt2_branches" cfg.batt2Branches
  let m := m.setNum "batt1_kw" (c.batt1KwX10 / 10)
  let m := m.setNum "batt2_kw" (c.batt2KwX10 / 10)
  let m := m.setStr "kind" "pcu_tx_mirror"
  let m := m.setStr "__pcu.msg" "EMU_TO_PCU_TX"
  let m := m.setStr "__pcu.instance_name" ("PCU_" ++ toString runtimeIndex)
  let m := m.setStr "__pcu.display_name" ("PCU" ++ toString cfg.pcuInstance)
  let m := match cfg.ctrlFrame c with
    | some fr => m.setStr "__pcu.ctrl_raw_hex" (Bms.BmsProto.bytesToHex fr)
    | none => m
  match cfg.statusFrame c with
  | some fr => m.setStr "__pcu.status_raw_hex" (Bms.BmsProto.bytesToHex fr)
  | none => m

/-- A round of a slot that is due; the others keep still. -/
def round (cfg : PcuTxRuntimeCfg) (c : PcuTxContent) (nowMs : Nat) :
    PcuTxRuntimeCfg × List Command :=
  if ¬ cfg.isDue nowMs then (cfg, [])
  else
    let mirror := cfg.txMirror c nowMs
    ({ cfg with
        heartbeat := if cfg.sendCtrl then (cfg.heartbeat + 1) % 2 ^ 8 else cfg.heartbeat
        nextDueMs := (nowMs + cfg.periodMs) % 2 ^ 64 },
      ((cfg.ctrlFrame c).toList ++ (cfg.statusFrame c).toList).map fun fr =>
        .sendCan { canIndex := cfg.canIndex, frame := fr, txMirror := some mirror })

end PcuTxRuntimeCfg

/-! ### The periodic commands -/

structure PcuTx where
  loaded : Bool := false
  slots : List PcuTxRuntimeCfg := [{}, {}]

namespace PcuTx

def emitPcuPeriodicCommands (tx : PcuTx) (ctx : LogicContext) (nowMs : Nat) :
    PcuTx × List Command :=
  if ¬ tx.loaded then (tx, [])
  else
    let rounds := tx.slots.map fun cfg => cfg.round (pcuTxContent ctx) nowMs
    ({ tx with slots := rounds.map Prod.fst }, rounds.flatMap Prod.snd)

/-- The slots that send at this time. -/
def dueSlots (tx : PcuTx) (nowMs : Nat) : List PcuTxRuntimeCfg :=
  if tx.loaded then tx.slots.filter fun cfg => cfg.isDue nowMs else []

/-- The control frames among the commands of a tick. -/
def emuCtrlFrames (tx : PcuTx) (ctx : LogicContext) (nowMs : Nat) : List CanFrame :=
  (tx.dueSlots nowMs).filterMap fun cfg => cfg.ctrlFrame (pcuTxContent ctx)

/-- The status frames among the commands of a tick. -/
def emuStatusFrames (tx : PcuTx) (ctx : LogicContext) (nowMs : Nat) : List CanFrame :=
  (tx.dueSlots nowMs).filterMap fun cfg => cfg.statusFrame (pcuTxContent ctx)

variable (tx : PcuTx) (ctx : LogicContext) (nowMs : Nat)

/-- The frames of a tick, slot by slot. -/
theorem frames_emit : (tx.emitPcuPeriodicCommands ctx nowMs).2.map Command.frame =
    (tx.dueSlots nowMs).flatMap fun cfg =>
      (cfg.ctrlFrame (pcuTxContent ctx)).toList ++ (cfg.statusFrame (pcuTxContent ctx)).toList := by
  unfold emitPcuPeriodicCommands dueSlots
  cases tx.loaded with
  | false => rfl
  | true =>
    show ((tx.slots.map fun cfg => cfg.round (pcuTxContent ctx) nowMs).flatMap
      Prod.snd).map Command.frame = (tx.slots.filter fun cfg => cfg.isDue nowMs).flatMap _
    induction tx.slots with
    | nil => rfl
    | cons cfg rest ih =>
      rw [List.map_cons, List.flatMap_cons, List.map_append, ih, List.filter_cons]
      unfold PcuTxRuntimeCfg.round
      cases cfg.isDue nowMs with
      | false => rfl
      | true =>
        rw [if_neg (by simp), if_pos rfl, List.flatMap_cons, List.map_map]
        congr 1
        exact List.map_id _

theorem hasTxMirror_of_mem_emit {c : Command}
    (hc : c ∈ (tx.emitPcuPeriodicCommands ctx nowMs).2) : c.hasTxMirror = true := by
  unfold emitPcuPeriodicCommands at hc
  split at hc
  · cases hc
  · obtain ⟨r, hr, hc⟩ := List.mem_flatMap.mp hc
    obtain ⟨cfg, -, rfl⟩ := List.mem_map.mp hr
    unfold PcuTxRuntimeCfg.round at hc
    split at hc
    · cases hc
    · obtain ⟨fr, -, rfl⟩ := List.mem_map.mp hc
      rfl

end PcuTx
end Pcu
end EnergyStorage
