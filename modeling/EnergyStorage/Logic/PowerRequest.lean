import EnergyStorage.Logic.HighVoltage

/-! # The power buttons of the panel

The request flags follow the clicks of the two power buttons faithfully, but nothing
reads them: whether a battery is asked to power on does not depend on the clicks. -/

namespace EnergyStorage
namespace Logic

open Lib
open Bms (PowersOn)
open Control.BusinessEngine (powerOnReady shutdownSignal)

/-! ### Clicks -/

/-- The path of the button that a coil write clicks: the release of a pressed one. -/
def releasedPath (map : Option HmiMapModel) (w : HmiWriteEvent) (h : HmiControl) : Option String :=
  (findHmiWriteItemByAddress map w.startAddr .boolRw).bind fun item =>
    let st := (h.hmiButtonStates.get w.startAddr).getD {}
    if w.firstBitOrZero = 0 ∧ (st.isDown && st.armed) = true then some item.path else none

/-- The path of the button that an event clicks. -/
def clickedPath (s : LogicState) (e : Event) : Option String :=
  match e.body with
  | .hmiWrite w => if w.bits ≠ [] then releasedPath s.ctx.hmiMap w s.ctx.hmi else none
  | _ => none

theorem onDeviceData_hvRequested (d : DeviceData) (ts : Nat) (ctx : LogicContext) :
    (onDeviceData d ts ctx).hmi.hmiHvOnRequested = ctx.hmi.hmiHvOnRequested := by
  have hpcu : (updatePcuOnlineState d ts ctx).hmi = ctx.hmi := by
    unfold updatePcuOnlineState
    split <;> rfl
  unfold onDeviceData
  split
  · rfl
  split
  · rfl
  split
  · rfl
  split
  · rfl
  split
  · rfl
  split
  · rw [hpcu]
  · rfl

theorem onHmiButtonClick_hvRequested (addr : Nat) (path name : String) (ts : Nat)
    (h : HmiControl) :
    (onHmiButtonClick addr path name ts h).hmiHvOnRequested = true ↔
      path = hvOnPath ∨ h.hmiHvOnRequested = true ∧ path ≠ hvOffPath := by
  unfold onHmiButtonClick
  by_cases hon : path = hvOnPath
  · simp [hon]
  · by_cases hoff : path = hvOffPath
    · have hne : hvOffPath ≠ hvOnPath := by decide
      simp [hoff, hne]
    · simp [hon, hoff]

theorem handleHmiRegWrite_hvRequested (map : Option HmiMapModel) (w : HmiWriteEvent)
    (h : HmiControl) :
    (handleHmiRegWrite map w h).hmiHvOnRequested = h.hmiHvOnRequested := by
  unfold handleHmiRegWrite
  split
  · rfl
  · split <;> rfl

theorem handleHmiCoilWrite_hvRequested (map : Option HmiMapModel) (ts : Nat) (w : HmiWriteEvent)
    (h : HmiControl) :
    (handleHmiCoilWrite map ts w h).hmiHvOnRequested = true ↔
      releasedPath map w h = some hvOnPath ∨
        h.hmiHvOnRequested = true ∧ releasedPath map w h ≠ some hvOffPath := by
  simp only [handleHmiCoilWrite, releasedPath]
  cases findHmiWriteItemByAddress map w.startAddr .boolRw with
  | none => simp
  | some item =>
    by_cases hbit : w.firstBitOrZero = 0
    · by_cases hdown : (((h.hmiButtonStates.get w.startAddr).getD {}).isDown &&
          ((h.hmiButtonStates.get w.startAddr).getD {}).armed) = true
      · simp [hbit, hdown, onHmiButtonClick_hvRequested]
      · simp [hbit, hdown]
    · simp [hbit]

section Run

variable (sys : Option (List CanLinkCfg)) (map : Option HmiMapModel)

/-- One event sets the request flag on a click of the power-on button and clears it on
one of the power-off button. -/
theorem hvOnRequested_step (s : LogicState) (e : Event) :
    ((logicLoop sys map).step s e).1.ctx.hmi.hmiHvOnRequested = true ↔
      clickedPath s e = some hvOnPath ∨
        s.ctx.hmi.hmiHvOnRequested = true ∧ clickedPath s e ≠ some hvOffPath := by
  obtain ⟨tsMs, body⟩ := e
  have hquiet : ∀ {b : Bool}, b = s.ctx.hmi.hmiHvOnRequested → (b = true ↔
      (none : Option String) = some hvOnPath ∨
        s.ctx.hmi.hmiHvOnRequested = true ∧ (none : Option String) ≠ some hvOffPath) := by
    intro b hb
    simp [hb]
  cases body with
  | deviceData d => exact hquiet (onDeviceData_hvRequested d tsMs _)
  | snapshot snap => exact hquiet rfl
  | hmiHeartbeat => exact hquiet rfl
  | ioSample smp => exact hquiet rfl
  | tick t => exact hquiet rfl
  | stop => exact hquiet rfl
  | hmiWrite w =>
    show (onHmiWrite s.ctx.hmiMap tsMs w s.ctx.hmi).hmiHvOnRequested = true ↔ _
    unfold onHmiWrite
    by_cases hbits : w.bits ≠ []
    · have hpath : clickedPath s ⟨tsMs, .hmiWrite w⟩ = releasedPath s.ctx.hmiMap w s.ctx.hmi :=
        if_pos hbits
      rw [hpath, if_pos hbits, handleHmiCoilWrite_hvRequested]
      rfl
    · have hpath : clickedPath s ⟨tsMs, .hmiWrite w⟩ = none := if_neg hbits
      rw [hpath, if_neg hbits]
      refine hquiet ?_
      split
      · exact handleHmiRegWrite_hvRequested _ _ _
      · rfl

/-- The power-on button has been clicked, and the power-off button not since. -/
def HvRequested (pre : List Event) : Prop :=
  (logicLoop sys map).Since (fun s e => clickedPath s e = some hvOnPath)
    (fun s e => clickedPath s e = some hvOffPath) pre

/-- The flag the panel handler keeps says just that. -/
theorem hvOnRequested_iff (pre : List Event) :
    ((logicLoop sys map).run pre).ctx.hmi.hmiHvOnRequested = true ↔ HvRequested sys map pre :=
  (logicLoop sys map).flag_iff_since (fun s => s.ctx.hmi.hmiHvOnRequested = true) _ _
    Bool.false_ne_true (fun _ _ => hvOnRequested_step sys map _ _) pre

/-- Where no request stands, a tick asks no battery to power on only if none may be closed,
or if high voltage is latched on, which the commands say the other way round. -/
theorem powersOn_requested_iff (pre : List Event) (tsMs t : Nat) :
    ((∃ idx, PowersOn ((logicLoop sys map).emitted pre ⟨tsMs, .tick t⟩) idx) →
        HvRequested sys map pre) ↔
      HvRequested sys map pre ∨
        (∀ idx, ¬ Commandable sys ((logicLoop sys map).run pre) t idx) ∨
        SeenInTick sys map powerOnReady pre ∧ ¬ SeenInTick sys map shutdownSignal pre := by
  by_cases hreq : HvRequested sys map pre
  · simp [hreq]
  · by_cases hlatched : SeenInTick sys map powerOnReady pre ∧
        ¬ SeenInTick sys map shutdownSignal pre
    · simp [powersOn_iff, hlatched]
    · simp [powersOn_iff, hreq, hlatched]

end Run

/-! ### The shipped buttons -/

/-- The two power buttons of the shipped map. -/
def powerButtons : HmiMapModel where
  items :=
    [ { type := .boolRw, hasAddr := true, addr := 0x1001, path := "hmi.ctrl.btn.hv_on" },
      { type := .boolRw, hasAddr := true, addr := 0x1002, path := "hmi.ctrl.btn.hv_off" } ]
  rwItems := [0, 1]
  byAddr := (Dict.empty.insert 0x1001 [0]).insert 0x1002 [1]

/-- Pressing and releasing the coil at an address. -/
def clickAt (addr tsMs : Nat) : List Event :=
  [ ⟨tsMs, .hmiWrite { startAddr := addr, bits := [1], tsMs := tsMs }⟩,
    ⟨tsMs, .hmiWrite { startAddr := addr, bits := [0], tsMs := tsMs }⟩ ]

/-- A healthy battery, a click on and a click off. -/
def clickedOffRun : List Event :=
  Bms.quietStart.flatMap fromBus ++ (clickAt 0x1001 140 ++ clickAt 0x1002 150)

/-- The battery is asked to power on after the power-off button. -/
theorem clickedOffRun_powersOn :
    (clickedOffRun.map Event.tsMs).Pairwise (· ≤ ·) ∧
      PowersOn ((logicLoop (some systemLinks) (some powerButtons)).emitted clickedOffRun
        ⟨200, .tick 200⟩) 1 ∧
      ¬ HvRequested (some systemLinks) (some powerButtons) clickedOffRun := by
  refine ⟨by decide +kernel, by decide +kernel, ?_⟩
  rw [← hvOnRequested_iff]
  decide +kernel

end Logic
end EnergyStorage
