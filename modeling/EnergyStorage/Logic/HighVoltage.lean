import EnergyStorage.Logic.Engine

/-! # When the engine asks a battery to power on

The two latches of the business layer remember whether their conditions have held in
any tick so far.  What reaches a battery that may be closed is the opposite of what
the latches say. -/

namespace EnergyStorage
namespace Logic

open Lib
open Bms (PowersOn Due MayClose BusEvent BmsProto.parse bmsLoop)
open Control (BusinessEngine)
open Control.BusinessEngine (powerOnReady shutdownSignal)

def Event.isTick (e : Event) : Bool :=
  match e.body with
  | .tick _ => true
  | _ => false

section Latches

variable (sys : Option (List CanLinkCfg)) (map : Option HmiMapModel)

/-- `p` holds now or has held in a tick of the run. -/
def SeenInTick (p : LogicContext → Bool) (pre : List Event) : Prop :=
  (logicLoop sys map).Occurred (fun s e => e.isTick = true ∧ p s.ctx = true) pre ∨
    p ((logicLoop sys map).run pre).ctx = true

/-- Only ticks decide. -/
theorem businessEngine_step (s : LogicState) (e : Event) :
    ((logicLoop sys map).step s e).1.engine.businessEngine =
      if e.isTick then decision s else s.engine.businessEngine := by
  obtain ⟨tsMs, body⟩ := e
  cases body with
  | tick t =>
    show (s.engine.businessEngine.decideHv
      (updateRuntimeHealth { s.ctx with lastEventTs := tsMs } t)) = _
    rw [decideHv_updateRuntimeHealth]
    rfl
  | deviceData d => rfl
  | snapshot snap => rfl
  | hmiWrite w => rfl
  | hmiHeartbeat => rfl
  | ioSample smp => rfl
  | stop => rfl

/-- A latch that every decision sets on `p`, and nothing clears, tells whether `p` has
been seen. -/
theorem decision_latch {f : BusinessEngine → Bool} {p : LogicContext → Bool}
    (h0 : f {} = false)
    (hf : ∀ b ctx, f (b.decideHv ctx) = true ↔ f b = true ∨ p ctx = true) (pre : List Event) :
    f (decision ((logicLoop sys map).run pre)) = true ↔ SeenInTick sys map p pre := by
  have hlatch := (logicLoop sys map).latch_iff_occurred
    (fun s => f s.engine.businessEngine = true) (fun s e => e.isTick = true ∧ p s.ctx = true)
    (by show ¬ f {} = true; rw [h0]; decide) ?_ pre
  · rw [decision, hf, hlatch, SeenInTick]
  · intro es e
    rw [businessEngine_step]
    cases e.isTick with
    | true =>
      rw [if_pos rfl, decision, hf]
      simp
    | false => simp

theorem decision_outHvOn (pre : List Event) :
    (decision ((logicLoop sys map).run pre)).outHvOn = true ↔
      SeenInTick sys map powerOnReady pre :=
  decision_latch sys map rfl BusinessEngine.decideHv_outHvOn pre

theorem decision_outHvOff (pre : List Event) :
    (decision ((logicLoop sys map).run pre)).outHvOff = true ↔
      SeenInTick sys map shutdownSignal pre :=
  decision_latch sys map rfl BusinessEngine.decideHv_outHvOff pre

/-- A battery that this tick sends a command to and does not clamp to off. -/
def Commandable (s : LogicState) (t idx : Nat) : Prop :=
  (bmsTxConfig sys).active = true ∧ idx ∈ Bms.BmsCommandManager.instances ∧
    Due (bmsTxConfig sys) (bmsView s) t idx ∧ MayClose s.ctx.bmsCache t idx

theorem powersOn_append_mirrored {cs ms : List Command} (hm : ∀ c ∈ ms, c.hasTxMirror = true)
    (idx : Nat) : PowersOn (cs ++ ms) idx ↔ PowersOn cs idx := by
  constructor
  · rintro ⟨c, hc, hmirror, hrest⟩
    rcases List.mem_append.mp hc with hc | hc
    · exact ⟨c, hc, hmirror, hrest⟩
    · rw [hm c hc] at hmirror
      cases hmirror
  · rintro ⟨c, hc, hrest⟩
    exact ⟨c, List.mem_append_left ms hc, hrest⟩

/-- A tick asks a battery to power on when it may close it, unless high voltage has
been latched on and not off. -/
theorem powersOn_iff (pre : List Event) (tsMs t idx : Nat) :
    PowersOn ((logicLoop sys map).emitted pre ⟨tsMs, .tick t⟩) idx ↔
      Commandable sys ((logicLoop sys map).run pre) t idx ∧
        ¬ (SeenInTick sys map powerOnReady pre ∧ ¬ SeenInTick sys map shutdownSignal pre) := by
  rw [emitted_tick, powersOn_append_mirrored
      fun c hc => Pcu.PcuTx.hasTxMirror_of_mem_emit _ _ _ hc, Bms.powersOn_tick_iff,
    ← logicLoop_refines, Option.getD_some, BusinessEngine.hvOnoff_eq_one_iff, decision,
    BusinessEngine.decideHv_finalHvState, ← decision, ← decision_outHvOn, ← decision_outHvOff]
  unfold Commandable
  generalize decision ((logicLoop sys map).run pre) = b
  cases b.outHvOff <;> cases b.outHvOn <;> simp [bmsView]

/-! ### Shutdown -/

/-- After a shutdown signal a tick stays silent only where no battery may be closed: the
latch itself turns into a power-on command. -/
theorem shutdown_silent_iff (pre : List Event) (tsMs t : Nat) :
    (SeenInTick sys map shutdownSignal pre →
        ∀ idx, ¬ PowersOn ((logicLoop sys map).emitted pre ⟨tsMs, .tick t⟩) idx) ↔
      ¬ SeenInTick sys map shutdownSignal pre ∨
        ∀ idx, ¬ Commandable sys ((logicLoop sys map).run pre) t idx := by
  rw [imp_iff_not_or]
  refine or_congr_right' fun hseen => forall_congr' fun idx => ?_
  rw [powersOn_iff, and_iff_left]
  rintro ⟨-, hnot⟩
  exact hseen hnot

end Latches

/-! ### The shipped configuration -/

/-- The links of the shipped `system.json`. -/
def systemLinks : List CanLinkCfg :=
  [ { canIndex := 0, enable := true, protocolType := "bms_table_v1"
      idV2bCmd := 0x1802F3EF#32, txEnable := true, intervalMs := 100 },
    { canIndex := 1, enable := true, protocolType := "emu_pcu_v1", pcuInstance := 1
      idEmuCtrl := 0x1801A0E0#32, idEmuStatus := 0x1802A0E0#32, txEnable := true },
    { canIndex := 2, enable := true, protocolType := "emu_pcu_v1", pcuInstance := 2
      idEmuCtrl := 0x1801A0E0#32, idEmuStatus := 0x1802A0E0#32, txEnable := true } ]

/-- Frames that the parser refuses post no event. -/
def fromBus : BusEvent → List Event
  | .frame fr tsMs => ((BmsProto.parse fr).map fun d => ⟨tsMs, .deviceData d⟩).toList
  | .tick tsMs _ => [⟨tsMs, .tick tsMs⟩]

/-- A healthy battery, then the emergency stop. -/
def estopRun : List Event :=
  Bms.quietStart.flatMap fromBus ++ [⟨140, .ioSample { tsMs := 140, diBits := 1#64 }⟩]

/-- With the emergency stop pressed, the tick asks the first battery to power on. -/
theorem estopRun_powersOn :
    (estopRun.map Event.tsMs).Pairwise (· ≤ ·) ∧
      SeenInTick (some systemLinks) none shutdownSignal estopRun ∧
      PowersOn ((logicLoop (some systemLinks) none).emitted estopRun ⟨200, .tick 200⟩) 1 :=
  ⟨by decide, Or.inr (by decide +kernel), by decide +kernel⟩

end Logic
end EnergyStorage
