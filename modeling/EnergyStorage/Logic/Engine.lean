import EnergyStorage.Bms.Closing
import EnergyStorage.Control.Business
import EnergyStorage.Logic.HmiInput
import EnergyStorage.Pcu.Tx

/-! # The logic engine

One thread takes the events in turn: messages, writes of the panel, samples and
snapshots change the context, ticks read it and issue the commands.  Seen from the
batteries the engine is the battery loop with the business layer as its input. -/

namespace EnergyStorage
namespace Logic

open Lib
open Bms (BmsCommandManager BmsTxConfig BmsEvent BmsState bmsLoop commandTick)
open Control (BusinessEngine)
open Pcu (PcuTx PcuTxRuntimeCfg)

/-! ### Configuration -/

structure CanLinkCfg where
  canIndex : Int := 0
  enable : Bool := false
  protocolType : String := ""
  /-- `0` when it is not configured. -/
  pcuInstance : Nat := 0
  idEmuCtrl : BitVec 32 := 0#32
  idEmuStatus : BitVec 32 := 0#32
  idV2bCmd : BitVec 32 := 0#32
  txEnable : Bool := false
  intervalMs : Nat := 200
  sendCtrl : Bool := true
  sendStatus : Bool := true

/-- The first enabled battery link counts. -/
def loadBmsCanRuntimeCfg (links : List CanLinkCfg) : Option BmsTxConfig :=
  (links.find? fun l => l.enable && l.protocolType == "bms_table_v1").map fun l =>
    { canIndex := l.canIndex
      v2bCmdId29 := if l.idV2bCmd = 0#32 then 0x1802F3EF#32 else l.idV2bCmd
      active := l.txEnable
      periodMs := if l.intervalMs = 0 then 100 else l.intervalMs }

/-- Without a readable file or a battery link the engine still sends. -/
def bmsTxConfig (sys : Option (List CanLinkCfg)) : BmsTxConfig :=
  (sys.bind loadBmsCanRuntimeCfg).getD ⟨0, 0x1802F3EF#32, true, 100⟩

def pcuInstanceOf (l : CanLinkCfg) : Nat :=
  if l.pcuInstance = 0 then
    if l.canIndex = 1 then 1 else if l.canIndex = 2 then 2 else 0
  else l.pcuInstance

def bindPcuLink (slots : List PcuTxRuntimeCfg) (l : CanLinkCfg) : List PcuTxRuntimeCfg :=
  if ¬ l.enable ∨ l.protocolType ≠ "emu_pcu_v1" then slots
  else if pcuInstanceOf l < 1 ∨ 2 < pcuInstanceOf l then slots
  else
    slots.set (pcuInstanceOf l - 1)
      { valid := true
        canIndex := l.canIndex
        pcuInstance := pcuInstanceOf l
        txEnable := l.txEnable
        sendCtrl := l.sendCtrl
        sendStatus := l.sendStatus
        periodMs := if l.intervalMs = 0 then 200 else l.intervalMs
        idEmuCtrl := if l.idEmuCtrl = 0#32 then 0x1801A0E0#32 else l.idEmuCtrl
        idEmuStatus := if l.idEmuStatus = 0#32 then 0x1802A0E0#32 else l.idEmuStatus }

def loadPcuTxRuntimeCfg : Option (List CanLinkCfg) → PcuTx
  | none => {}
  | some links => { loaded := true, slots := links.foldl bindPcuLink [{}, {}] }

/-! ### State and events -/

structure LogicEngine where
  bmsCmdPeriodMs : Nat := 100
  bmsCmdTxEnabled : Bool := true
  bmsCmdMgr : BmsCommandManager := {}
  bmsCmdMgrInited : Bool := false
  pcuTx : PcuTx := {}
  businessEngine : BusinessEngine := {}

structure LogicState where
  engine : LogicEngine
  ctx : LogicContext

inductive EventBody
  | deviceData (d : DeviceData)
  | snapshot (s : SnapshotEvent)
  | hmiWrite (w : HmiWriteEvent)
  | hmiHeartbeat
  | ioSample (s : IoSampleEvent)
  | tick (tsMs : Nat)
  | stop

/-- Most bodies carry a stamp of their own beside the one of the event. -/
structure Event where
  tsMs : Nat
  body : EventBody

namespace LogicEngine

def init (sys : Option (List CanLinkCfg)) : LogicEngine :=
  let cfg := bmsTxConfig sys
  let mgr := BmsCommandManager.init {} cfg.canIndex cfg.v2bCmdId29
  { bmsCmdPeriodMs := cfg.periodMs
    bmsCmdTxEnabled := cfg.active
    bmsCmdMgr := mgr.1
    bmsCmdMgrInited := mgr.2
    pcuTx := loadPcuTxRuntimeCfg sys }

/-- Ageing, proposal, business, clamp, and the commands of the batteries before those
of the PCUs. -/
def onTick (e : LogicEngine) (tsMs : Nat) (ctx : LogicContext) : LogicState × List Command :=
  let ctx := updateRuntimeHealth ctx tsMs
  let active := e.bmsCmdMgrInited && e.bmsCmdTxEnabled
  let mgr := if active then e.bmsCmdMgr.rebuildDesiredFromCache ctx.bmsCache tsMs else e.bmsCmdMgr
  let business := e.businessEngine.evaluate ctx mgr
  let mgr := if active then business.2.enforceSafetyFromCache ctx.bmsCache tsMs else business.2
  let bms := if active then mgr.emitPeriodicCommands tsMs e.bmsCmdPeriodMs else (mgr, [])
  let pcu := e.pcuTx.emitPcuPeriodicCommands ctx tsMs
  ({ engine := { e with bmsCmdMgr := bms.1, businessEngine := business.1, pcuTx := pcu.1 }
     ctx := ctx },
    bms.2 ++ pcu.2)

def onEvent (s : LogicState) (e : Event) : LogicState × List Command :=
  let ctx := { s.ctx with lastEventTs := e.tsMs }
  match e.body with
  | .deviceData d => ({ s with ctx := onDeviceData d e.tsMs ctx }, [])
  | .snapshot snap => ({ s with ctx := onSnapshot snap ctx }, [])
  | .hmiWrite w =>
    ({ s with ctx := { ctx with hmi := onHmiWrite ctx.hmiMap e.tsMs w ctx.hmi } }, [])
  | .hmiHeartbeat =>
    ({ s with ctx := { ctx with hmi := { ctx.hmi with hmiSeenOnce := true,
                                                      lastHmiCommTs := e.tsMs } } }, [])
  | .ioSample smp => ({ s with ctx := onIoSample smp ctx }, [])
  | .tick tsMs => s.engine.onTick tsMs ctx
  | .stop => ({ s with ctx := ctx }, [])

end LogicEngine

/-- The engine under a system configuration and a loaded panel map, if any. -/
def logicLoop (sys : Option (List CanLinkCfg)) (map : Option HmiMapModel) :
    Machine LogicState Event Command where
  start := { engine := LogicEngine.init sys, ctx := { hmiMap := map } }
  step := LogicEngine.onEvent

/-! ### The batteries' view -/

/-- The decision the business layer takes in a tick. -/
def decision (s : LogicState) : BusinessEngine := s.engine.businessEngine.decideHv s.ctx

def bmsView (s : LogicState) : BmsState where
  cache := s.ctx.bmsCache
  mgr := s.engine.bmsCmdMgr

/-- What an event is to the batteries. -/
def bmsEvents (s : LogicState) (e : Event) : List BmsEvent :=
  match e.body with
  | .deviceData d => [.message d e.tsMs]
  | .snapshot snap => [.age snap.tsMs]
  | .tick tsMs => [.tick tsMs fun _ => some (decision s).hvOnoff]
  | .hmiWrite _ | .hmiHeartbeat | .ioSample _ | .stop => []

theorem updateBmsRuntimeHealth_any (cache : Bms.BmsLogicCache) (nowMs : Nat) (name : String)
    {p : Bms.BmsPerInstanceCache → Bool} (hp : ∀ x, p (Bms.ageInstance nowMs x) = p x) :
    ((Bms.updateBmsRuntimeHealth cache nowMs).items.get name).any p =
      (cache.items.get name).any p := by
  rw [Bms.get_updateBmsRuntimeHealth]
  cases cache.items.get name with
  | none => rfl
  | some x => exact hp x

/-- The decision does not depend on what ageing computes. -/
theorem decideHv_updateRuntimeHealth (b : BusinessEngine) (ctx : LogicContext) (nowMs : Nat) :
    b.decideHv (updateRuntimeHealth ctx nowMs) = b.decideHv ctx := by
  have hany : ∀ (p : Bms.BmsPerInstanceCache → Bool),
      (∀ x, p (Bms.ageInstance nowMs x) = p x) → ∀ idx,
      (BusinessEngine.getBms (updateRuntimeHealth ctx nowMs) idx).any p =
        (BusinessEngine.getBms ctx idx).any p :=
    fun p hp idx => updateBmsRuntimeHealth_any _ _ _ hp
  have hstate : BusinessEngine.bmsStateOk (updateRuntimeHealth ctx nowMs) =
      BusinessEngine.bmsStateOk ctx := by
    unfold BusinessEngine.bmsStateOk
    simp only [hany (fun x => decide (x.st1.bmsHvStatus ≠ 0)) fun _ => rfl]
  have hcharge : BusinessEngine.bmsChrgStateNoChrg (updateRuntimeHealth ctx nowMs) =
      BusinessEngine.bmsChrgStateNoChrg ctx := by
    unfold BusinessEngine.bmsChrgStateNoChrg
    simp only [hany (fun x => decide (x.st1.chrgMode ≠ 0)) fun _ => rfl]
  have hready : BusinessEngine.powerOnReady (updateRuntimeHealth ctx nowMs) =
      BusinessEngine.powerOnReady ctx := by
    unfold BusinessEngine.powerOnReady
    rw [hstate, hcharge]
    rfl
  unfold BusinessEngine.decideHv
  rw [hready]
  rfl

/-! ### What stays through a run -/

section Run

variable (sys : Option (List CanLinkCfg)) (map : Option HmiMapModel)

/-- The manager is up and runs as configured. -/
structure Configured (s : LogicState) : Prop where
  inited : s.engine.bmsCmdMgrInited = true
  enabled : s.engine.bmsCmdTxEnabled = (bmsTxConfig sys).active
  period : s.engine.bmsCmdPeriodMs = (bmsTxConfig sys).periodMs

theorem logicLoop_configured : (logicLoop sys map).Invariant (Configured sys) where
  start := ⟨(Bms.BmsTx.init_bound rfl).2, rfl, rfl⟩
  step s e h := by
    obtain ⟨tsMs, body⟩ := e
    cases body <;> exact ⟨h.inited, h.enabled, h.period⟩

/-- A tick of the engine is a tick of the battery loop beside one of the PCU
transmitter. -/
theorem onTick_eq {e : LogicEngine} (hinit : e.bmsCmdMgrInited = true) (tsMs : Nat)
    (ctx : LogicContext) :
    let b := e.businessEngine.decideHv ctx
    let r := commandTick e.bmsCmdTxEnabled e.bmsCmdPeriodMs
      (Bms.updateBmsRuntimeHealth ctx.bmsCache tsMs) tsMs (fun _ => some b.hvOnoff) e.bmsCmdMgr
    let pcu := e.pcuTx.emitPcuPeriodicCommands (updateRuntimeHealth ctx tsMs) tsMs
    e.onTick tsMs ctx =
      ({ engine := { e with bmsCmdMgr := r.1, businessEngine := b, pcuTx := pcu.1 }
         ctx := updateRuntimeHealth ctx tsMs }, r.2 ++ pcu.2) := by
  intro b r pcu
  have hevaluate : ∀ mgr, e.businessEngine.evaluate (updateRuntimeHealth ctx tsMs) mgr =
      (b, mgr.writeBusiness fun _ => some b.hvOnoff) := by
    intro mgr
    unfold BusinessEngine.evaluate
    rw [decideHv_updateRuntimeHealth]
  simp only [LogicEngine.onTick, hinit, Bool.true_and, hevaluate]
  rfl

/-- The engine is the battery loop, as far as the batteries are concerned. -/
theorem logicLoop_refines (es : List Event) :
    bmsView ((logicLoop sys map).run es) =
      (bmsLoop (bmsTxConfig sys)).run ((logicLoop sys map).trace bmsEvents es) := by
  refine (logicLoop sys map).refines _ rfl ?_ es
  intro pre e
  have hcfg := (logicLoop_configured sys map).run pre
  generalize (logicLoop sys map).run pre = s at hcfg ⊢
  obtain ⟨tsMs, body⟩ := e
  cases body with
  | deviceData d =>
    show BmsState.mk (onDeviceData d tsMs { s.ctx with lastEventTs := tsMs }).bmsCache _ = _
    rw [onDeviceData_bmsCache]
    rfl
  | snapshot snap => rfl
  | hmiWrite w => rfl
  | hmiHeartbeat => rfl
  | ioSample smp => rfl
  | tick t =>
    show bmsView (s.engine.onTick t { s.ctx with lastEventTs := tsMs }).1 = _
    rw [onTick_eq hcfg.inited]
    show BmsState.mk _ (commandTick s.engine.bmsCmdTxEnabled s.engine.bmsCmdPeriodMs _ _ _ _).1 = _
    rw [hcfg.enabled, hcfg.period]
    rfl
  | stop => rfl

variable (pre : List Event) (tsMs t : Nat)

/-- What a tick emits. -/
theorem emitted_tick :
    (logicLoop sys map).emitted pre ⟨tsMs, .tick t⟩ =
      (bmsLoop (bmsTxConfig sys)).emitted ((logicLoop sys map).trace bmsEvents pre)
          (.tick t fun _ => some (decision ((logicLoop sys map).run pre)).hvOnoff) ++
        (((logicLoop sys map).run pre).engine.pcuTx.emitPcuPeriodicCommands
          (updateRuntimeHealth { ((logicLoop sys map).run pre).ctx with lastEventTs := tsMs } t)
          t).2 := by
  have hcfg := (logicLoop_configured sys map).run pre
  have hview := logicLoop_refines sys map pre
  rw [Machine.emitted, Machine.emitted, ← hview]
  generalize (logicLoop sys map).run pre = s at hcfg ⊢
  show (s.engine.onTick t { s.ctx with lastEventTs := tsMs }).2 = _
  rw [onTick_eq hcfg.inited]
  show (commandTick s.engine.bmsCmdTxEnabled s.engine.bmsCmdPeriodMs _ _ _ _).2 ++ _ = _
  rw [hcfg.enabled, hcfg.period]
  rfl

end Run

end Logic
end EnergyStorage
