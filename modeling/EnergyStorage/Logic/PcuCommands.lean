import EnergyStorage.Logic.HighVoltage

/-! # What the PCUs are told

The enable byte rests on a verdict of its own about the batteries, which asks for less
than the verdict behind the battery commands and does not look at the latches.  The
power words are computed from the current that flows, not from the limit. -/

namespace EnergyStorage
namespace Logic

open Lib
open Bms (BmsPerInstanceCache BusEvent criticalGroups updateBmsRuntimeHealth)
open Bms.BmsCommandManager (Allowed makeName not_of_ite_eq safetyBlockReason_eq_allowClose_iff)
open Control.BusinessEngine (shutdownSignal)
open Pcu (sysEnableOf powerWordOf bmsCriticalForPcu findBmsForPcu PcuTxRuntimeCfg lround)

/-- The control frames of a tick. -/
def ctrlFrames (s : LogicState) (t : Nat) : List CanFrame :=
  s.engine.pcuTx.emuCtrlFrames (updateRuntimeHealth s.ctx t) t

/-- The status frames of a tick. -/
def statusFrames (s : LogicState) (t : Nat) : List CanFrame :=
  s.engine.pcuTx.emuStatusFrames (updateRuntimeHealth s.ctx t) t

/-- The entry of a battery as a tick at time `t` sees it. -/
def batteryAt (s : LogicState) (t idx : Nat) : Option BmsPerInstanceCache :=
  findBmsForPcu (updateRuntimeHealth s.ctx t) idx

/-- The two kinds of frames are just what the commands with a mirror carry. -/
theorem mirrored_frame_iff (sys : Option (List CanLinkCfg)) (map : Option HmiMapModel)
    (pre : List Event) (tsMs t : Nat) (fr : CanFrame) :
    (∃ c ∈ (logicLoop sys map).emitted pre ⟨tsMs, .tick t⟩,
        c.hasTxMirror = true ∧ c.frame = fr) ↔
      fr ∈ ctrlFrames ((logicLoop sys map).run pre) t ∨
        fr ∈ statusFrames ((logicLoop sys map).run pre) t := by
  rw [emitted_tick]
  generalize (logicLoop sys map).run pre = s
  have hframes : fr ∈ (s.engine.pcuTx.emitPcuPeriodicCommands
      (updateRuntimeHealth { s.ctx with lastEventTs := tsMs } t) t).2.map Command.frame ↔
        fr ∈ ctrlFrames s t ∨ fr ∈ statusFrames s t := by
    rw [Pcu.PcuTx.frames_emit, ctrlFrames, statusFrames, Pcu.PcuTx.emuCtrlFrames,
      Pcu.PcuTx.emuStatusFrames]
    simp only [List.mem_flatMap, List.mem_filterMap, List.mem_append, Option.mem_toList,
      and_or_left, exists_or]
    rfl
  rw [← hframes]
  constructor
  · rintro ⟨c, hc, hmirror, rfl⟩
    rcases List.mem_append.mp hc with hc | hc
    · -- the battery commands carry no mirror
      have hplain := (Bms.mem_emitted_tick _ _ _ _ hc).2.1
      rw [hmirror] at hplain
      cases hplain
    · exact List.mem_map_of_mem hc
  · intro hfr
    obtain ⟨c, hc, rfl⟩ := List.mem_map.mp hfr
    exact ⟨c, List.mem_append_right _ hc, Pcu.PcuTx.hasTxMirror_of_mem_emit _ _ _ hc, rfl⟩

/-! ### The enable byte -/

theorem bmsCriticalForPcu_eq_false_iff (x : BmsPerInstanceCache) :
    bmsCriticalForPcu (some x) = false ↔
      x.seenOnce = true ∧ x.online = true ∧ x.runtimeFaultStale = false ∧
      x.st2.rqHvPowerOff = false ∧ x.fireFaultLevel < 2 ∧ x.st2.faultLevel < 2 ∧
      x.tm2b.faultLevel < 2 ∧ x.hvAllowClose = true := by
  unfold bmsCriticalForPcu
  constructor
  · intro h
    obtain ⟨hseen, h⟩ := not_of_ite_eq h (by decide)
    obtain ⟨honline, h⟩ := not_of_ite_eq h (by decide)
    obtain ⟨hstale, h⟩ := not_of_ite_eq h (by decide)
    obtain ⟨hrq, h⟩ := not_of_ite_eq h (by decide)
    obtain ⟨hfault, h⟩ := not_of_ite_eq h (by decide)
    obtain ⟨hfire, h⟩ := not_of_ite_eq h (by decide)
    obtain ⟨htms, h⟩ := not_of_ite_eq h (by decide)
    obtain ⟨hallow, -⟩ := not_of_ite_eq h (by decide)
    exact ⟨not_not.mp hseen, not_not.mp honline, Bool.eq_false_of_not_eq_true hstale,
      Bool.eq_false_of_not_eq_true hrq, not_le.mp hfire, not_le.mp hfault, not_le.mp htms,
      not_not.mp hallow⟩
  · rintro ⟨h1, h2, h3, h4, h5, h6, h7, h8⟩
    simp [h1, h2, h3, h4, h8, not_le.mpr h5, not_le.mpr h6, not_le.mpr h7]

/-- Every group the battery commands insist on has come at least once. -/
def CriticalReceived (s : LogicState) (idx : Nat) : Prop :=
  ∀ x, s.ctx.bmsCache.items.get (makeName idx) = some x → ∀ g ∈ criticalGroups, x.lastMs g ≠ 0

/-- The verdict for the PCUs passes over the groups that have never come. -/
theorem allowed_iff_not_critical (s : LogicState) (t idx : Nat) :
    Allowed (updateBmsRuntimeHealth s.ctx.bmsCache t) idx ↔
      bmsCriticalForPcu (batteryAt s t idx) = false ∧ CriticalReceived s idx := by
  have hbattery : batteryAt s t idx =
      (s.ctx.bmsCache.items.get (makeName idx)).map (Bms.ageInstance t) := rfl
  unfold Allowed CriticalReceived
  rw [hbattery, Bms.get_updateBmsRuntimeHealth]
  cases s.ctx.bmsCache.items.get (makeName idx) with
  | none =>
    constructor
    · rintro ⟨x, hx, -⟩
      cases hx
    · rintro ⟨hcrit, -⟩
      cases hcrit
  | some y =>
    rw [Option.map_some, bmsCriticalForPcu_eq_false_iff]
    have hlast : (Bms.ageInstance t y).lastMs = y.lastMs := rfl
    constructor
    · rintro ⟨x, hx, hreason⟩
      obtain rfl := Option.some_inj.mp hx
      obtain ⟨h1, h2, h3, hgroups, h4, h5, h6, h7, h8⟩ :=
        (safetyBlockReason_eq_allowClose_iff _).mp hreason
      refine ⟨⟨h1, h2, h3, h4, h5, h6, h7, h8⟩, fun z hz g hg => ?_⟩
      obtain rfl := Option.some_inj.mp hz
      exact (hgroups g hg).1
    · rintro ⟨⟨h1, h2, h3, h4, h5, h6, h7, h8⟩, hreceived⟩
      refine ⟨_, rfl, (safetyBlockReason_eq_allowClose_iff _).mpr
        ⟨h1, h2, h3, fun g hg => ?_, h4, h5, h6, h7, h8⟩⟩
      have hcome : y.lastMs g ≠ 0 := hreceived y rfl g hg
      refine ⟨hcome, ?_⟩
      -- a group that has come and is not stale is fresh
      by_contra hoff
      have hstale : (Bms.ageInstance t y).runtimeFaultStale = true :=
        Bms.ageInstance_runtimeFaultStale.mpr
          ⟨g, hg, Nat.pos_of_ne_zero hcome, Bool.eq_false_of_not_eq_true hoff⟩
      rw [h3] at hstale
      cases hstale

/-- The enable byte is set on every control frame of the tick or on none. -/
theorem exists_enabled_iff (s : LogicState) (t : Nat) :
    (∃ fr ∈ ctrlFrames s t, sysEnableOf fr = 1) ↔
      (∃ cfg ∈ s.engine.pcuTx.dueSlots t, cfg.sendCtrl = true) ∧
        Pcu.estopByIo s.ctx = false ∧ bmsCriticalForPcu (batteryAt s t 1) = false ∧
          bmsCriticalForPcu (batteryAt s t 2) = false := by
  have hcontent : (Pcu.pcuTxContent (updateRuntimeHealth s.ctx t)).systemEnable.toNat % 256 = 1 ↔
      Pcu.estopByIo s.ctx = false ∧ bmsCriticalForPcu (batteryAt s t 1) = false ∧
        bmsCriticalForPcu (batteryAt s t 2) = false := by
    show (!Pcu.estopByIo s.ctx && !bmsCriticalForPcu (batteryAt s t 1) &&
      !bmsCriticalForPcu (batteryAt s t 2)).toNat % 256 = 1 ↔ _
    cases Pcu.estopByIo s.ctx <;> cases bmsCriticalForPcu (batteryAt s t 1) <;>
      cases bmsCriticalForPcu (batteryAt s t 2) <;> simp
  constructor
  · rintro ⟨fr, hfr, hset⟩
    obtain ⟨cfg, hcfg, hsent⟩ := List.mem_filterMap.mp hfr
    obtain ⟨hon, rfl⟩ := PcuTxRuntimeCfg.ctrlFrame_eq_some_iff.mp hsent
    rw [Pcu.sysEnableOf_buildEmuCtrl, hcontent] at hset
    exact ⟨⟨cfg, hcfg, hon⟩, hset⟩
  · rintro ⟨⟨cfg, hcfg, hon⟩, hset⟩
    refine ⟨_, List.mem_filterMap.mpr
      ⟨cfg, hcfg, PcuTxRuntimeCfg.ctrlFrame_eq_some_iff.mpr ⟨hon, rfl⟩⟩, ?_⟩
    rw [Pcu.sysEnableOf_buildEmuCtrl, hcontent]
    exact hset

section Enable

variable (sys : Option (List CanLinkCfg)) (map : Option HmiMapModel)

theorem sent_enabled_iff (pre : List Event) (tsMs t : Nat) :
    (∃ c ∈ (logicLoop sys map).emitted pre ⟨tsMs, .tick t⟩,
        c.frame ∈ ctrlFrames ((logicLoop sys map).run pre) t ∧ sysEnableOf c.frame = 1) ↔
      ∃ fr ∈ ctrlFrames ((logicLoop sys map).run pre) t, sysEnableOf fr = 1 := by
  constructor
  · rintro ⟨c, -, hfr, hset⟩
    exact ⟨c.frame, hfr, hset⟩
  · rintro ⟨fr, hfr, hset⟩
    obtain ⟨c, hc, -, rfl⟩ := (mirrored_frame_iff sys map pre tsMs t fr).mpr (Or.inl hfr)
    exact ⟨c, hc, hfr, hset⟩

/-- The PCUs are kept off batteries that are held open, unless a control frame goes out
over two batteries that look healthy while a group is missing or a shutdown is
latched. -/
theorem enabled_allowed_iff (pre : List Event) (tsMs t : Nat) :
    let s := (logicLoop sys map).run pre
    ((∃ c ∈ (logicLoop sys map).emitted pre ⟨tsMs, .tick t⟩,
        c.frame ∈ ctrlFrames s t ∧ sysEnableOf c.frame = 1) →
        Allowed (updateBmsRuntimeHealth s.ctx.bmsCache t) 1 ∧
        Allowed (updateBmsRuntimeHealth s.ctx.bmsCache t) 2 ∧
        (decision s).outHvOff = false) ↔
      (∀ cfg ∈ s.engine.pcuTx.dueSlots t, cfg.sendCtrl = false) ∨
        Pcu.estopByIo s.ctx = true ∨ bmsCriticalForPcu (batteryAt s t 1) = true ∨
        bmsCriticalForPcu (batteryAt s t 2) = true ∨
        (CriticalReceived s 1 ∧ CriticalReceived s 2 ∧
          ¬ SeenInTick sys map shutdownSignal pre) := by
  intro s
  rw [sent_enabled_iff, exists_enabled_iff, allowed_iff_not_critical, allowed_iff_not_critical,
    ← Bool.not_eq_true (decision s).outHvOff, decision_outHvOff]
  have hsend : (∃ cfg ∈ s.engine.pcuTx.dueSlots t, cfg.sendCtrl = true) ↔
      ¬ ∀ cfg ∈ s.engine.pcuTx.dueSlots t, cfg.sendCtrl = false := by
    simp
  rw [hsend]
  cases Pcu.estopByIo s.ctx with
  | true => simp
  | false =>
    cases bmsCriticalForPcu (batteryAt s t 1) with
    | true => simp
    | false =>
      cases bmsCriticalForPcu (batteryAt s t 2) with
      | true => simp
      | false => simp [imp_iff_not_or]

end Enable

/-- Two batteries of which only the first status message has come. -/
def statusOnlyRun : List Event :=
  ([.frame (Bms.extendedFrame 0x1884E105#32 0) 100,
    .frame (Bms.extendedFrame 0x1884E205#32 0) 110] : List BusEvent).flatMap fromBus

/-- The PCU is enabled while both batteries are told to power off. -/
theorem statusOnlyRun_enabled :
    let s := (logicLoop (some systemLinks) none).run statusOnlyRun
    (∃ c ∈ (logicLoop (some systemLinks) none).emitted statusOnlyRun ⟨200, .tick 200⟩,
        c.frame ∈ ctrlFrames s 200 ∧ sysEnableOf c.frame = 1) ∧
      ¬ Allowed (updateBmsRuntimeHealth s.ctx.bmsCache 200) 1 ∧
      ¬ Allowed (updateBmsRuntimeHealth s.ctx.bmsCache 200) 2 := by
  decide +kernel

end Logic
end EnergyStorage
