import EnergyStorage.Fault.Center
import EnergyStorage.Fault.DeviceSignals

/-! # The rules of the fault map

Each rule reads one signal of one source and sets one code in the fault center. -/

namespace EnergyStorage
namespace Fault

open Lib
open Pcu (PcuOnlineState)
open Logic (SmokeFaultState GasFaultState)

/-- The sources a rule may have. -/
inductive SourceKind
  | pcu
  | ups
  | smoke
  | gas
  | air
  | logic
  deriving DecidableEq

namespace SourceKind

/-- The supported ones of the normalised source names. -/
def ofNorm : String → Option SourceKind
  | "pcu" => some .pcu
  | "ups" => some .ups
  | "smoke" => some .smoke
  | "gas" => some .gas
  | "air" => some .air
  | "logic" => some .logic
  | _ => none

/-- What the evaluator of the source looks at. -/
def State : SourceKind → Type
  | .pcu => PcuOnlineState
  | .ups => UpsFaultState
  | .smoke => SmokeFaultState
  | .gas => GasFaultState
  | .air => AirFaultState
  | .logic => LogicFaults

def evalSignal : (k : SourceKind) → k.State → String → Bool
  | .pcu => evalPcuSignal
  | .ups => evalUpsSignal
  | .smoke => evalSmokeSignal
  | .gas => evalGasSignal
  | .air => evalAirSignal
  | .logic => evalLogicSignal

end SourceKind

/-! ### Loading a rule -/

/-- An item of the map whose code has been read; `inst` is 0 where none is given. -/
structure FaultItem where
  code : BitVec 16
  source : String
  signal : String
  inst : Nat := 0

structure Rule where
  code : BitVec 16
  sourceNorm : SourceKind
  signalNorm : String
  inst : Nat
  deriving DecidableEq

/-- A PCU that is given no instance takes the one its signal carries. -/
def instanceFor (kind : SourceKind) (inst : Nat) (signal : String) : Nat :=
  if kind = .pcu ∧ inst = 0 then (tryParseInstanceFromSignal signal).getD 0 else inst

/-- An item without a source or a signal, or of a source that is not supported, gives no
rule. -/
def loadItem (it : FaultItem) : Option Rule :=
  let sourceNorm := normalizeSource (trim it.source)
  let signalNorm := normalizeSignal (trim it.signal)
  if sourceNorm = "" ∨ signalNorm = "" then none
  else
    match SourceKind.ofNorm sourceNorm with
    | none => none
    | some kind =>
      some
        { code := it.code, sourceNorm := kind, signalNorm
          inst := instanceFor kind it.inst signalNorm }

/-! ### Debouncing -/

structure DebouncePolicy where
  triggerMs : Nat
  clearMs : Nat

def DebouncePolicy.needMs (policy : DebouncePolicy) (rawActive : Bool) : Nat :=
  if rawActive then policy.triggerMs else policy.clearMs

/-- The parts that the key text joins; none of them contains the separator. -/
structure DebounceKey where
  sourceNorm : SourceKind
  signalNorm : String
  inst : Nat
  code : BitVec 16
  deriving DecidableEq

structure DebounceState where
  initialized : Bool := false
  lastRaw : Bool := false
  output : Bool := false
  rawSinceMs : Nat := 0

def isRuntimeDebounceSource : SourceKind → Bool
  | .ups | .air | .smoke | .gas => true
  | .pcu | .logic => false

def isOfflineSignal (rule : Rule) : Bool :=
  let sig := normalizeToken rule.signalNorm
  match rule.sourceNorm with
  | .ups => decide (sig ∈ ["offline", "runtime_offline", "ups_offline", "ups_comm_fault"])
  | .air => decide (sig ∈ ["offline", "runtime_offline", "air_offline", "aircon_comm_fault",
      "air_comm_fault"])
  | .smoke => decide (sig ∈ ["tss_offline", "smoke_offline", "tss_comm_fault",
      "smoke_comm_fault"])
  | .gas => decide (sig ∈ ["gas_offline", "cgs_comm_fault", "gas_comm_fault"])
  | .pcu | .logic => false

/-- No policy for the sources that are confirmed elsewhere. -/
def policyForRule (rule : Rule) : Option DebouncePolicy :=
  if !isRuntimeDebounceSource rule.sourceNorm then none
  else if isOfflineSignal rule then some ⟨3000, 0⟩
  else some ⟨3000, 1000⟩

def Rule.debounceKey (rule : Rule) : DebounceKey :=
  ⟨rule.sourceNorm, rule.signalNorm, rule.inst, rule.code⟩

/-- Since when the signal is as it is now; a clock that has jumped back starts anew. -/
def DebounceState.observe (rawActive : Bool) (nowMs : Nat) (st : DebounceState) :
    DebounceState :=
  let st := if st.lastRaw ≠ rawActive then
    { st with lastRaw := rawActive, rawSinceMs := nowMs } else st
  if nowMs < st.rawSinceMs then { st with rawSinceMs := nowMs } else st

def DebounceState.step (policy : DebouncePolicy) (rawActive : Bool) (nowMs : Nat)
    (st : DebounceState) : DebounceState :=
  if !st.initialized then
    { initialized := true, lastRaw := rawActive, rawSinceMs := nowMs
      output := rawActive && policy.triggerMs == 0 }
  else
    let st := st.observe rawActive nowMs
    let heldMs := nowMs - st.rawSinceMs
    if rawActive ≠ st.output then
      let needMs := policy.needMs rawActive
      if needMs = 0 ∨ needMs ≤ heldMs then { st with output := rawActive } else st
    else st

/-- The signal has been this way up to now and the output follows it or still waits. -/
structure DebounceState.Settled (policy : DebouncePolicy) (rawActive : Bool) (nowMs : Nat)
    (st : DebounceState) : Prop where
  initialized : st.initialized = true
  lastRaw : st.lastRaw = rawActive
  since : st.rawSinceMs ≤ nowMs
  output : st.output = rawActive ∨
    policy.needMs rawActive ≠ 0 ∧ nowMs - st.rawSinceMs < policy.needMs rawActive

namespace DebounceState

variable {policy : DebouncePolicy} {rawActive : Bool} {nowMs : Nat}

variable (rawActive nowMs) in
theorem observe_spec {st : DebounceState} (h : st.initialized = true) :
    (st.observe rawActive nowMs).initialized = true ∧
      (st.observe rawActive nowMs).lastRaw = rawActive ∧
      (st.observe rawActive nowMs).rawSinceMs ≤ nowMs := by
  unfold observe
  by_cases hraw : st.lastRaw = rawActive
  · rw [if_neg (not_not.mpr hraw)]
    by_cases hsince : nowMs < st.rawSinceMs
    · rw [if_pos hsince]
      exact ⟨h, hraw, Nat.le_refl _⟩
    · rw [if_neg hsince]
      exact ⟨h, hraw, Nat.not_lt.mp hsince⟩
  · rw [if_pos hraw]
    simp only [Nat.lt_irrefl, if_false]
    exact ⟨h, trivial, Nat.le_refl _⟩

theorem settled_step (st : DebounceState) :
    Settled policy rawActive nowMs (st.step policy rawActive nowMs) := by
  unfold step
  split
  · refine ⟨rfl, rfl, Nat.le_refl _, ?_⟩
    cases rawActive with
    | false => exact .inl rfl
    | true =>
      by_cases hzero : policy.triggerMs = 0
      · left
        simp [hzero]
      · right
        show policy.triggerMs ≠ 0 ∧ nowMs - nowMs < policy.triggerMs
        omega
  · rename_i hinit
    have hstart : st.initialized = true := by simpa using hinit
    obtain ⟨hinit, hraw, hsince⟩ := observe_spec rawActive nowMs hstart
    dsimp only
    split
    · split
      · exact ⟨hinit, hraw, hsince, .inl rfl⟩
      · rename_i hwait
        exact ⟨hinit, hraw, hsince, .inr (by omega)⟩
    · rename_i hsame
      exact ⟨hinit, hraw, hsince, .inl (not_not.mp hsame).symm⟩

/-- A second step at the same time finds nothing to do. -/
theorem step_of_settled {st : DebounceState} (h : Settled policy rawActive nowMs st) :
    st.step policy rawActive nowMs = st := by
  have hraw : ¬ st.lastRaw ≠ rawActive := not_not.mpr h.lastRaw
  have hsince : ¬ nowMs < st.rawSinceMs := Nat.not_lt.mpr h.since
  have hobserve : st.observe rawActive nowMs = st := by
    simp only [observe, if_neg hraw, if_neg hsince]
  simp only [step, h.initialized, Bool.not_true, Bool.false_eq_true, if_false, hobserve]
  split
  · rename_i hout
    obtain hsame | hwait := h.output
    · exact absurd hsame.symm hout
    · rw [if_neg (by omega)]
  · rfl

theorem step_step (st : DebounceState) :
    (st.step policy rawActive nowMs).step policy rawActive nowMs =
      st.step policy rawActive nowMs :=
  step_of_settled (settled_step st)

end DebounceState

abbrev DebounceStates := Dict DebounceKey DebounceState

def DebounceStates.at (d : DebounceStates) (key : DebounceKey) : DebounceState :=
  (d.get key).getD {}

def debounceRule (rule : Rule) (rawActive : Bool) (nowMs : Nat) (d : DebounceStates) :
    DebounceStates × Bool :=
  match policyForRule rule with
  | none => (d, rawActive)
  | some policy =>
    let st := (d.at rule.debounceKey).step policy rawActive nowMs
    (d.insert rule.debounceKey st, st.output)

/-! ### Applying the rules -/

/-- The parts of the context that the rules read. -/
structure RuleContext where
  pcu0State : PcuOnlineState := {}
  pcu1State : PcuOnlineState := {}
  upsFaults : UpsFaultState := {}
  smokeFaults : SmokeFaultState := {}
  gasFaults : GasFaultState := {}
  airFaults : AirFaultState := {}
  logicFaults : LogicFaults := {}
  confirmedFaults : Dict String Bool := .empty

/-- The instance of a rule when it is applied. -/
def Rule.instance (rule : Rule) : Nat := instanceFor rule.sourceNorm rule.inst rule.signalNorm

/-- The rows of the confirmed faults that answer a rule, the first present one counts. -/
def confirmedKeys (rule : Rule) : List String :=
  let sig := rule.signalNorm
  let offline := ["offline", "runtime_offline"]
  let estop := ["estop", "emergency_stop", "fault_estop"]
  let add (names keys : List String) : List String := if sig ∈ names then keys else []
  match rule.sourceNorm with
  | .pcu =>
    if rule.instance = 1 then
      add ("pcu1_comm_fault" :: offline) ["logic.pcu1_comm_fault", "logic.pcu0_offline"] ++
        add ("pcu1_emergency_stop" :: estop)
          ["logic.pcu1_emergency_stop", "logic.pcu0_emergency_stop"]
    else if rule.instance = 2 then
      add ("pcu2_comm_fault" :: offline) ["logic.pcu2_comm_fault", "logic.pcu1_offline"] ++
        add ("pcu2_emergency_stop" :: estop)
          ["logic.pcu2_emergency_stop", "logic.pcu1_emergency_stop"]
    else []
  | .logic =>
    ["logic." ++ sig] ++
      add ["pcu1_comm_fault", "pcu1_offline"] ["logic.pcu0_offline", "logic.pcu1_comm_fault"] ++
      add ["pcu2_comm_fault", "pcu2_offline"] ["logic.pcu1_offline", "logic.pcu2_comm_fault"] ++
      add ["ups_comm_fault"] ["logic.ups_comm_fault"] ++
      add ["ups_offline"] ["logic.ups_comm_fault"] ++
      add ["tss_offline", "tss_comm_fault"] ["logic.tss_comm_fault"] ++
      add ["cgs_comm_fault", "gas_comm_fault"] ["logic.cgs_comm_fault"] ++
      add ["air_offline", "air_comm_fault", "aircon_comm_fault"] ["logic.air_comm_fault"]
  | _ => []

def tryConfirmedSignal (ctx : RuleContext) (rule : Rule) : Option Bool :=
  (confirmedKeys rule).findSome? ctx.confirmedFaults.get

/-- What the evaluator of the rule's source says; without an instance a PCU rule is not
active. -/
def rawActive (ctx : RuleContext) (rule : Rule) : Bool :=
  match rule.sourceNorm with
  | .ups => evalUpsSignal ctx.upsFaults rule.signalNorm
  | .air => evalAirSignal ctx.airFaults rule.signalNorm
  | .smoke => evalSmokeSignal ctx.smokeFaults rule.signalNorm
  | .gas => evalGasSignal ctx.gasFaults rule.signalNorm
  | .pcu =>
    if rule.instance = 1 then evalPcuSignal ctx.pcu0State rule.signalNorm
    else if rule.instance = 2 then evalPcuSignal ctx.pcu1State rule.signalNorm
    else false
  | .logic => evalLogicSignal ctx.logicFaults rule.signalNorm

/-- Device sources are debounced here; the others take a confirmed value where there is one. -/
def evalRule (ctx : RuleContext) (nowMs : Nat) (d : DebounceStates) (rule : Rule) :
    DebounceStates × Bool :=
  if isRuntimeDebounceSource rule.sourceNorm then debounceRule rule (rawActive ctx rule) nowMs d
  else (d, (tryConfirmedSignal ctx rule).getD (rawActive ctx rule))

structure FaultRuntimeMapper where
  rules : List Rule := []
  debounceStates : DebounceStates := .empty

namespace FaultRuntimeMapper

variable (cat : FaultCatalog)

/-- One rule; `ts` is the time of the clock when the code is set. -/
def applyRule (ctx : RuleContext) (nowMs ts : Nat) (s : DebounceStates × FaultStore)
    (rule : Rule) : DebounceStates × FaultStore :=
  let ev := evalRule ctx nowMs s.1 rule
  let set := s.2.center.setActive cat s.2.db rule.code ev.2 ts
  (ev.1, ⟨set.1, set.2⟩)

/-- One rule after the other; the clock shows `clock n` at rule `n`. -/
def applyAll (m : FaultRuntimeMapper) (ctx : RuleContext) (nowMs : Nat) (clock : Nat → Nat)
    (s : FaultStore) : FaultRuntimeMapper × FaultStore :=
  let out := m.rules.zipIdx.foldl (fun s r => applyRule cat ctx nowMs (clock r.2) s r.1)
    (m.debounceStates, s)
  ({ m with debounceStates := out.1 }, out.2)

end FaultRuntimeMapper
end Fault
end EnergyStorage
