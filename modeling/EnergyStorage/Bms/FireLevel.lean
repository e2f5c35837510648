import EnergyStorage.Bms.Decoded

/-! # The extinguisher's alarm level

The command layer has a rule for a fire level, but the level it reads is another
field than the one the extinguisher's message would fill. -/

namespace EnergyStorage
namespace Bms

open Lib
open BmsProto

theorem fireAlarmLevel_fits : 0 < 8 ∧ 8 < 64 ∧ 8 + 8 ≤ 64 := by decide

def fireAlarmLevel : SignalDef :=
  .mk "Fire_valueAlarmLevel" 8 8 1 0 0 255 [] fireAlarmLevel_fits

/-- The level an extinguisher frame of battery `idx` reports. -/
def reportedLevel (idx : Nat) : BusEvent → Option Nat
  | .frame fr _ =>
    if Carries fr fireMessage ∧ FrameRouter.extractInstanceIndex fr.id29 = idx then
      some (rawOf fr.data fireAlarmLevel).toNat
    else none
  | .tick _ _ => none

/-- What the latest extinguisher frame of battery `idx` reports. -/
def lastFireLevel (idx : Nat) (es : List BusEvent) : Option Nat :=
  es.reverse.findSome? (reportedLevel idx)

def FireAlarmed (idx : Nat) (es : List BusEvent) : Prop :=
  ∃ level ∈ lastFireLevel idx es, 2 ≤ level

instance (idx : Nat) (es : List BusEvent) : Decidable (FireAlarmed idx es) :=
  inferInstanceAs (Decidable (∃ level ∈ lastFireLevel idx es, _))

/-- After any run of frames and ticks, a tick keeps an alarmed battery from being
powered on exactly when something other than the alarm does. -/
theorem fireAlarmed_blocks_iff (cfg : BmsTxConfig) (es : List BusEvent) (t : Nat)
    (hv : Nat → Option Nat) (idx : Nat) :
    (FireAlarmed idx es →
      ¬ PowersOn ((bmsLoop cfg).emitted (es.flatMap onBus) (.tick t hv)) idx) ↔
    ¬ FireAlarmed idx es ∨ cfg.active = false ∨ idx ∉ BmsCommandManager.instances ∨
      ¬ Due cfg ((bmsLoop cfg).run (es.flatMap onBus)) t idx ∨
      ¬ MayClose ((bmsLoop cfg).run (es.flatMap onBus)).cache t idx ∨
      (hv idx).getD 1 % 4 ≠ 1 := by
  rw [powersOn_tick_iff, ← Bool.not_eq_true]
  tauto

/-- The quiet start followed by a frame that reports level 3. -/
def alarmedStart : List BusEvent :=
  quietStart ++ [.frame (extendedFrame 0x18FFF10F#32 0x300#64) 140]

theorem alarmedStart_powersOn :
    FireAlarmed 1 alarmedStart ∧
      PowersOn ((bmsLoop defaultTx).emitted (alarmedStart.flatMap onBus)
        (.tick 200 fun _ => some 1)) 1 := by
  decide +kernel

end Bms
end EnergyStorage
