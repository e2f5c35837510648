import EnergyStorage.Bms.CommandManager
import EnergyStorage.Bms.LogicAdapter
import EnergyStorage.Lib.Machine

/-! # The battery side of the control loop

Messages, ageing passes and ticks drive the cache and the command manager.  What the
business layer writes in a tick is an input, so the results here hold for every
business logic. -/

namespace EnergyStorage
namespace Bms

open Lib
open BmsCommandManager

/-- How the command manager is run. -/
structure BmsTxConfig where
  canIndex : Int
  v2bCmdId29 : BitVec 32
  /-- Initialised and transmission enabled. -/
  active : Bool
  periodMs : Nat

/-- Proposal, business value, clamp and transmission of one tick. -/
def commandTick (active : Bool) (periodMs : Nat) (cache : BmsLogicCache) (tsMs : Nat)
    (hv : Nat → Option Nat) (mgr : BmsCommandManager) : BmsCommandManager × List Command :=
  let mgr := if active then mgr.rebuildDesiredFromCache cache tsMs else mgr
  let mgr := mgr.writeBusiness hv
  let mgr := if active then mgr.enforceSafetyFromCache cache tsMs else mgr
  if active then mgr.emitPeriodicCommands tsMs periodMs else (mgr, [])

inductive BmsEvent
  | message (d : DeviceData) (tsMs : Nat)
  | age (tsMs : Nat)
  | tick (tsMs : Nat) (hv : Nat → Option Nat)

structure BmsState where
  cache : BmsLogicCache := {}
  mgr : BmsCommandManager := {}

def bmsStep (cfg : BmsTxConfig) (s : BmsState) : BmsEvent → BmsState × List Command
  | .message d tsMs => ({ s with cache := LogicAdapter.onDeviceData d tsMs s.cache }, [])
  | .age tsMs => ({ s with cache := updateBmsRuntimeHealth s.cache tsMs }, [])
  | .tick tsMs hv =>
    let cache := updateBmsRuntimeHealth s.cache tsMs
    let r := commandTick cfg.active cfg.periodMs cache tsMs hv s.mgr
    ({ cache := cache, mgr := r.1 }, r.2)

def bmsLoop (cfg : BmsTxConfig) : Machine BmsState BmsEvent Command where
  start := { mgr := (BmsCommandManager.init {} cfg.canIndex cfg.v2bCmdId29).1 }
  step := bmsStep cfg

/-! ### Frames on the bus -/

/-- What reaches the loop from outside: raw frames and ticks. -/
inductive BusEvent
  | frame (fr : CanFrame) (tsMs : Nat)
  | tick (tsMs : Nat) (hv : Nat → Option Nat)

/-- A frame the parser refuses never reaches the adapter. -/
def onBus : BusEvent → List BmsEvent
  | .frame fr tsMs => ((BmsProto.parse fr).map fun d => .message d tsMs).toList
  | .tick tsMs hv => [.tick tsMs hv]

def extendedFrame (id29 : BitVec 32) (data : BitVec 64) : CanFrame :=
  ⟨canEffFlag ||| id29, 8, data⟩

/-- The four critical messages of the first battery, all signals zero. -/
def quietStart : List BusEvent :=
  [.frame (extendedFrame 0x1884E105#32 0) 100, .frame (extendedFrame 0x1881E102#32 0) 110,
    .frame (extendedFrame 0x1882E103#32 0) 120, .frame (extendedFrame 0x18C4E10C#32 0) 130]

/-! ### One tick of the manager -/

/-- The command value that goes out for an instance when it is due. -/
def finalHv (cache : BmsLogicCache) (hv : Nat → Option Nat) (idx : Nat) : Nat :=
  if Allowed cache idx then (hv idx).getD 1 else 2

section CommandTick

variable (periodMs : Nat) (cache : BmsLogicCache) (tsMs : Nat) (hv : Nat → Option Nat)
  (mgr : BmsCommandManager)

/-- The manager just before transmission. -/
def clamped : BmsCommandManager :=
  ((mgr.rebuildDesiredFromCache cache tsMs).writeBusiness hv).enforceSafetyFromCache cache tsMs

theorem clamped_lastSendTsMs (idx : Nat) :
    ((clamped cache tsMs hv mgr).states idx).lastSendTsMs = (mgr.states idx).lastSendTsMs := by
  by_cases hidx : idx ∈ instances
  · simp only [clamped, enforceSafetyFromCache, writeBusiness, rebuildDesiredFromCache,
      forInstances, if_pos hidx, enforceInstance_lastSendTsMs]
    cases hv idx with
    | none => exact rebuildInstance_lastSendTsMs _ _ _ _ _
    | some v =>
      simp only [writeDesiredHv_lastSendTsMs]
      exact rebuildInstance_lastSendTsMs _ _ _ _ _
  · simp only [clamped, enforceSafetyFromCache, writeBusiness, rebuildDesiredFromCache,
      forInstances, if_neg hidx]

theorem instances_pos {idx : Nat} (hidx : idx ∈ instances) : idx ≠ 0 := by
  rintro rfl
  exact absurd hidx (by decide)

theorem clamped_desired {idx : Nat} (hidx : idx ∈ instances) :
    ((clamped cache tsMs hv mgr).states idx).desired.instanceIndex = idx ∧
      ((clamped cache tsMs hv mgr).states idx).desired.valid = true ∧
      ((clamped cache tsMs hv mgr).states idx).desired.hvOnoff = finalHv cache hv idx := by
  have hpos := instances_pos hidx
  simp only [clamped, enforceSafetyFromCache, writeBusiness, rebuildDesiredFromCache,
    forInstances, if_pos hidx]
  refine ⟨(enforceInstance_desired _ _ _ _ _).1, (enforceInstance_desired _ _ _ _ _).2, ?_⟩
  have hbuilt := rebuildInstance_instanceIndex mgr.defaultCanIndex cache tsMs idx
    (mgr.states idx)
  cases hhv : hv idx with
  | none =>
    rw [enforceInstance_hvOnoff _ _ _ _ _ (by rw [hbuilt]; exact hpos),
      rebuildInstance_hvOnoff, finalHv, hhv]
    by_cases ha : Allowed cache idx <;> simp [ha]
  | some v =>
    rw [enforceInstance_hvOnoff _ _ _ _ _ hpos, finalHv, hhv]
    rfl

end CommandTick

section Emission

variable {periodMs : Nat} {cache : BmsLogicCache} {tsMs : Nat} {hv : Nat → Option Nat}
  {mgr : BmsCommandManager}

theorem valid_of_mem_instances {idx : Nat} (hidx : idx ∈ instances) :
    FrameRouter.isValidInstance idx = true := by
  simp only [instances, List.mem_cons, List.not_mem_nil, or_false] at hidx
  rcases hidx with rfl | rfl | rfl | rfl <;> rfl

variable (periodMs cache tsMs hv) in
/-- What one instance sends. -/
theorem emitInstance_clamped (htx : BmsTx.Bound mgr.tx) {idx : Nat} (hidx : idx ∈ instances) :
    (isDue tsMs periodMs (mgr.states idx) = false ∧
      (emitInstance mgr.defaultCanIndex mgr.tx tsMs periodMs idx
        ((clamped cache tsMs hv mgr).states idx)).2 = none) ∨
    (isDue tsMs periodMs (mgr.states idx) = true ∧
      ∃ fr can, (emitInstance mgr.defaultCanIndex mgr.tx tsMs periodMs idx
          ((clamped cache tsMs hv mgr).states idx)).2 =
            some (.sendCan { canIndex := can, frame := fr }) ∧
        BmsTx.instanceOf fr = idx ∧ BmsTx.hvOf fr = finalHv cache hv idx % 4) := by
  obtain ⟨hinst, hvalid, hhv⟩ := clamped_desired cache tsMs hv mgr hidx
  have hpos : ((clamped cache tsMs hv mgr).states idx).desired.instanceIndex ≠ 0 := by
    rw [hinst]
    exact instances_pos hidx
  have hdue : isDue tsMs periodMs ((clamped cache tsMs hv mgr).states idx) =
      isDue tsMs periodMs (mgr.states idx) := by
    rw [isDue, isDue, clamped_lastSendTsMs]
  rw [emitInstance_eq _ _ _ _ _ _ hpos, hdue]
  generalize (clamped cache tsMs hv mgr).states idx = st at hinst hvalid hhv
  cases isDue tsMs periodMs (mgr.states idx) with
  | false => exact Or.inl ⟨rfl, rfl⟩
  | true =>
    refine Or.inr ⟨rfl, ?_⟩
    have hinst' : FrameRouter.isValidInstance st.desired.instanceIndex = true := by
      rw [hinst]
      exact valid_of_mem_instances hidx
    obtain ⟨fr, hfr, hfrinst, hfrhv⟩ := htx.build
      { st.desired with lifeSignal := st.lastLife, requestTsMs := tsMs } hvalid hinst'
    refine ⟨fr, st.desired.canIndex, ?_, hfrinst.trans hinst, ?_⟩
    · rw [if_pos rfl, hfr, Option.map_some]
    · rw [hfrhv, ← hhv]

/-- The frames of one tick: one for every due instance, carrying the clamped value. -/
theorem mem_commandTick (htx : BmsTx.Bound mgr.tx) (c : Command) :
    c ∈ (commandTick true periodMs cache tsMs hv mgr).2 →
      c.hasTxMirror = false ∧ BmsTx.instanceOf c.frame ∈ instances ∧
      isDue tsMs periodMs (mgr.states (BmsTx.instanceOf c.frame)) = true ∧
      BmsTx.hvOf c.frame = finalHv cache hv (BmsTx.instanceOf c.frame) % 4 := by
  intro hc
  have hc' : c ∈ instances.filterMap fun idx =>
      (emitInstance mgr.defaultCanIndex mgr.tx tsMs periodMs idx
        ((clamped cache tsMs hv mgr).states idx)).2 := hc
  obtain ⟨idx, hidx, hemit⟩ := List.mem_filterMap.mp hc'
  rcases emitInstance_clamped periodMs cache tsMs hv htx hidx with
    ⟨-, hnone⟩ | ⟨hdue, fr, can, hsome, hinst, hhv⟩
  · rw [hnone] at hemit
    cases hemit
  · rw [hsome] at hemit
    cases hemit
    have hframe : BmsTx.instanceOf (Command.sendCan { canIndex := can, frame := fr }).frame = idx :=
      hinst
    rw [hframe]
    exact ⟨rfl, hidx, hdue, hhv⟩

variable (cache hv) in
theorem exists_commandTick (htx : BmsTx.Bound mgr.tx) {idx : Nat} (hidx : idx ∈ instances)
    (hdue : isDue tsMs periodMs (mgr.states idx) = true) :
    ∃ c ∈ (commandTick true periodMs cache tsMs hv mgr).2, c.hasTxMirror = false ∧
      BmsTx.instanceOf c.frame = idx ∧ BmsTx.hvOf c.frame = finalHv cache hv idx % 4 := by
  rcases emitInstance_clamped periodMs cache tsMs hv htx hidx with
    ⟨hnot, -⟩ | ⟨-, fr, can, hsome, hinst, hhv⟩
  · rw [hdue] at hnot
    cases hnot
  · exact ⟨_, List.mem_filterMap.mpr ⟨idx, hidx, hsome⟩, rfl, hinst, hhv⟩

theorem commandTick_tx (active : Bool) :
    (commandTick active periodMs cache tsMs hv mgr).1.tx = mgr.tx := by
  cases active <;> rfl

end Emission

/-- The manager stays bound through every run. -/
theorem bmsLoop_bound (cfg : BmsTxConfig) :
    (bmsLoop cfg).Invariant fun s => BmsTx.Bound s.mgr.tx where
  start := (BmsTx.init_bound rfl).1
  step s e h := by
    cases e with
    | message d tsMs => exact h
    | age tsMs => exact h
    | tick tsMs hv =>
      show BmsTx.Bound (commandTick _ _ _ _ _ _).1.tx
      rw [commandTick_tx]
      exact h

end Bms
end EnergyStorage
