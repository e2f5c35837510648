import EnergyStorage.Bms.CommandManager
import EnergyStorage.Logic.DeviceInput

/-! # The business layer

Each tick it decides on one high-voltage state for all batteries and writes it into
their commands. -/

namespace EnergyStorage
namespace Control

open Logic (LogicContext testDi)
open Bms (BmsPerInstanceCache BmsCommandManager)

/-- The decision so far.  Nothing in the program clears the two latches. -/
structure BusinessEngine where
  outHvOn : Bool := false
  outHvOff : Bool := false
  finalHvState : Bool := false
  deriving DecidableEq

namespace BusinessEngine

/-- A channel that was not sampled reads as no number, and fails every comparison. -/
def readAiVoltage (ai : List ℚ) (adcChannel : Nat) : Option ℚ :=
  if adcChannel < 1 then none else ai[adcChannel - 1]?

def getBms (ctx : LogicContext) (instanceIndex : Nat) : Option BmsPerInstanceCache :=
  ctx.bmsCache.items.get (BmsCommandManager.makeName instanceIndex)

def gunByAdc (ai : List ℚ) (adcChannel : Nat) : Bool :=
  (readAiVoltage ai adcChannel).any fun v => decide (v > 8)

def gunStateAllOk (ctx : LogicContext) : Bool :=
  [13, 14, 15, 16, 17, 18].all (testDi ctx.diBits) && [1, 2].all (gunByAdc ctx.ai)

/-- Every battery is there and reports a nonzero high-voltage status. -/
def bmsStateOk (ctx : LogicContext) : Bool :=
  [1, 2, 3, 4].all fun idx => (getBms ctx idx).any fun x => decide (x.st1.bmsHvStatus ≠ 0)

/-- A battery that is missing does not charge. -/
def bmsChrgStateNoChrg (ctx : LogicContext) : Bool :=
  [1, 2, 3, 4].all fun idx => !(getBms ctx idx).any fun x => decide (x.st1.chrgMode ≠ 0)

def estopPressed (ctx : LogicContext) : Bool := testDi ctx.diBits 1

def pcuEstop (ctx : LogicContext) : Bool := ctx.pcu0State.estop || ctx.pcu1State.estop

/-- What latches high voltage on: nobody has to ask for it. -/
def powerOnReady (ctx : LogicContext) : Bool :=
  gunStateAllOk ctx && !estopPressed ctx && bmsStateOk ctx && bmsChrgStateNoChrg ctx

/-- What latches high voltage off. -/
def shutdownSignal (ctx : LogicContext) : Bool :=
  pcuEstop ctx || (estopPressed ctx || ctx.smokeFaults.smokeAlarm || ctx.gasFaults.highAlarm)

def decideHv (b : BusinessEngine) (ctx : LogicContext) : BusinessEngine :=
  let outHvOff := if pcuEstop ctx then true else b.outHvOff
  let outHvOn := if powerOnReady ctx then true else b.outHvOn
  let outHvOff :=
    if estopPressed ctx || ctx.smokeFaults.smokeAlarm || ctx.gasFaults.highAlarm then true
    else outHvOff
  { outHvOn := outHvOn
    outHvOff := outHvOff
    finalHvState := if outHvOff then false else if outHvOn then true else false }

/-- The number written into the commands. -/
def hvOnoff (b : BusinessEngine) : Nat := b.finalHvState.toNat + 1

def evaluate (b : BusinessEngine) (ctx : LogicContext) (bmsMgr : BmsCommandManager) :
    BusinessEngine × BmsCommandManager :=
  let b := b.decideHv ctx
  (b, bmsMgr.writeBusiness fun _ => some b.hvOnoff)

variable (b : BusinessEngine) (ctx : LogicContext)

theorem decideHv_outHvOn :
    (b.decideHv ctx).outHvOn = true ↔ b.outHvOn = true ∨ powerOnReady ctx = true := by
  show (if powerOnReady ctx then true else b.outHvOn) = true ↔ _
  cases powerOnReady ctx <;> simp

theorem decideHv_outHvOff :
    (b.decideHv ctx).outHvOff = true ↔ b.outHvOff = true ∨ shutdownSignal ctx = true := by
  rw [shutdownSignal]
  show (if _ then true else if pcuEstop ctx then true else b.outHvOff) = true ↔ _
  cases pcuEstop ctx <;>
    cases estopPressed ctx || ctx.smokeFaults.smokeAlarm || ctx.gasFaults.highAlarm <;> simp

theorem decideHv_finalHvState :
    (b.decideHv ctx).finalHvState =
      (!(b.decideHv ctx).outHvOff && (b.decideHv ctx).outHvOn) := by
  show (if (b.decideHv ctx).outHvOff then false
    else if (b.decideHv ctx).outHvOn then true else false) = _
  cases (b.decideHv ctx).outHvOff <;> cases (b.decideHv ctx).outHvOn <;> rfl

/-- The commands are told to power on exactly when the decision is not to. -/
theorem hvOnoff_eq_one_iff : b.hvOnoff % 4 = 1 ↔ b.finalHvState = false := by
  unfold hvOnoff
  cases b.finalHvState <;> decide

end BusinessEngine
end Control
end EnergyStorage
