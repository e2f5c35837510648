import EnergyStorage.Fault.RuntimeMapper
import EnergyStorage.Lib.Streak

/-! # Debouncing a condition

The mapper of the device signals and the engine of the conditions were written apart and
keep different states.  Fed the same raw signal they confirm it at the same samples.  The
engine also takes the assertion and the clearance as two signals, and then its flag turns
when one of them has held for long enough, counted from the flag's last change on. -/

namespace EnergyStorage
namespace Fault

open Lib (Dict Machine)

/-! ### Two debouncers -/

/-- A raw signal and the time at which it is sampled. -/
structure RawSample where
  raw : Bool
  nowMs : Nat

def DebounceState.outputs (policy : DebouncePolicy) :
    DebounceState → List RawSample → List Bool
  | _, [] => []
  | st, x :: xs =>
    (st.step policy x.raw x.nowMs).output ::
      outputs policy (st.step policy x.raw x.nowMs) xs

def FaultConditionState.outputs (assertDelay clearDelay : Nat) :
    FaultConditionState → List RawSample → List Bool
  | _, [] => []
  | st, x :: xs =>
    (st.sample x.raw x.nowMs assertDelay clearDelay).confirmedOn ::
      outputs assertDelay clearDelay (st.sample x.raw x.nowMs assertDelay clearDelay) xs

/-- What the mapper's rule says of each sample. -/
def debounceOutputs (rule : Rule) : DebounceStates → List RawSample → List Bool
  | _, [] => []
  | d, x :: xs =>
    (debounceRule rule x.raw x.nowMs d).2 ::
      debounceOutputs rule (debounceRule rule x.raw x.nowMs d).1 xs

/-! ### One sample of the engine -/

namespace FaultConditionState

/-- One sample of the two signals with the delays of the call. -/
def sampleWithClear (st : FaultConditionState) (assertNow clearNow : Bool)
    (nowMs assertDelay clearDelay : Nat) : FaultConditionState :=
  (st.configure assertDelay clearDelay).updateWithClear assertNow clearNow nowMs

theorem sample_eq (st : FaultConditionState) (raw : Bool) (nowMs assertDelay clearDelay : Nat) :
    st.sample raw nowMs assertDelay clearDelay =
      st.sampleWithClear raw (!raw) nowMs assertDelay clearDelay := rfl

/-- Since when the clearance has been held once it is sampled at `nowMs`. -/
def clearSince (st : FaultConditionState) (nowMs : Nat) : Nat :=
  if st.rawClear then st.rawClearSinceMs else nowMs

variable {st : FaultConditionState} (assertNow clearNow : Bool)
  (nowMs assertDelay clearDelay : Nat)

/-- Not confirmed and not asserted: the wait is given up. -/
theorem sampleWithClear_off_idle (h : st.confirmedOn = false) :
    (st.sampleWithClear false clearNow nowMs assertDelay clearDelay).confirmedOn = false ∧
      (st.sampleWithClear false clearNow nowMs assertDelay clearDelay).rawOn = false := by
  simp [sampleWithClear, configure, updateWithClear, updateUnconfirmed, h]

theorem sampleWithClear_off (h : st.confirmedOn = false) (hsince : st.heldSince nowMs ≤ nowMs) :
    ((st.sampleWithClear true clearNow nowMs assertDelay clearDelay).confirmedOn = true ↔
        st.heldSince nowMs + assertDelay ≤ nowMs) ∧
      (st.sampleWithClear true clearNow nowMs assertDelay clearDelay).rawOn = true ∧
      (st.sampleWithClear true clearNow nowMs assertDelay clearDelay).rawOnSinceMs =
        st.heldSince nowMs ∧
      (st.sampleWithClear true clearNow nowMs assertDelay clearDelay).rawClear = false := by
  obtain ⟨rawOn, rawClear, confirmedOn, since, clearSince, _, _, _, _, _, _⟩ := st
  obtain rfl : confirmedOn = false := h
  have hdue : ∀ n : Nat, n ≤ nowMs →
      ((assertDelay = 0 ∨ (if nowMs ≥ n then nowMs - n else 0) ≥ assertDelay) ↔
        n + assertDelay ≤ nowMs) := by
    intro n hn
    rw [if_pos hn]
    omega
  cases rawOn with
  | false =>
    have hd := hdue nowMs (Nat.le_refl _)
    simp only [sampleWithClear, configure, updateWithClear, updateUnconfirmed, heldSince,
      Bool.false_eq_true, not_false_eq_true, if_true, if_false, hd]
    by_cases hfire : nowMs + assertDelay ≤ nowMs
    · simp [hfire]
    · simp [hfire]
  | true =>
    have hd := hdue since hsince
    simp only [sampleWithClear, configure, updateWithClear, updateUnconfirmed, heldSince,
      Bool.false_eq_true, not_false_eq_true, not_true_eq_false, if_true, if_false, hd]
    by_cases hfire : since + assertDelay ≤ nowMs
    · simp [hfire]
    · simp [hfire]

/-- Confirmed and not cleared: the wait for the clearance is given up. -/
theorem sampleWithClear_on_kept (h : st.confirmedOn = true) :
    (st.sampleWithClear assertNow false nowMs assertDelay clearDelay).confirmedOn = true ∧
      (st.sampleWithClear assertNow false nowMs assertDelay clearDelay).rawClear = false := by
  simp [sampleWithClear, configure, updateWithClear, updateConfirmed, h]

theorem sampleWithClear_on (h : st.confirmedOn = true) (hsince : st.clearSince nowMs ≤ nowMs) :
    ((st.sampleWithClear assertNow true nowMs assertDelay clearDelay).confirmedOn = false ↔
        st.clearSince nowMs + clearDelay ≤ nowMs) ∧
      ((st.sampleWithClear assertNow true nowMs assertDelay clearDelay).confirmedOn = true →
        (st.sampleWithClear assertNow true nowMs assertDelay clearDelay).rawClear = true ∧
        (st.sampleWithClear assertNow true nowMs assertDelay clearDelay).rawClearSinceMs =
          st.clearSince nowMs) ∧
      ((st.sampleWithClear assertNow true nowMs assertDelay clearDelay).confirmedOn = false →
        (st.sampleWithClear assertNow true nowMs assertDelay clearDelay).rawOn = false) := by
  obtain ⟨rawOn, rawClear, confirmedOn, since, since', _, _, _, _, _, _⟩ := st
  obtain rfl : confirmedOn = true := h
  have hdue : ∀ n : Nat, n ≤ nowMs →
      ((clearDelay = 0 ∨ (if nowMs ≥ n then nowMs - n else 0) ≥ clearDelay) ↔
        n + clearDelay ≤ nowMs) := by
    intro n hn
    rw [if_pos hn]
    omega
  cases rawClear with
  | false =>
    have hd := hdue nowMs (Nat.le_refl _)
    simp only [sampleWithClear, configure, updateWithClear, updateConfirmed, clearSince,
      Bool.false_eq_true, not_false_eq_true, not_true_eq_false, if_true, if_false, hd]
    by_cases hfire : nowMs + clearDelay ≤ nowMs
    · simp [hfire]
    · simp [hfire]
  | true =>
    have hd := hdue since' hsince
    simp only [sampleWithClear, configure, updateWithClear, updateConfirmed, clearSince,
      not_true_eq_false, if_true, if_false, hd]
    by_cases hfire : since' + clearDelay ≤ nowMs
    · simp [hfire]
    · simp [hfire]

end FaultConditionState

/-! ### The two side by side -/

namespace DebounceState

variable (policy : DebouncePolicy) (raw : Bool) {nowMs : Nat} {st : DebounceState}

/-- Since when the raw signal has been as it is at `nowMs`. -/
def rawSince (st : DebounceState) (raw : Bool) (nowMs : Nat) : Nat :=
  if st.lastRaw = raw then st.rawSinceMs else nowMs

theorem rawSince_le (hsince : st.rawSinceMs ≤ nowMs) : st.rawSince raw nowMs ≤ nowMs := by
  unfold rawSince
  split
  · exact hsince
  · exact Nat.le_refl _

theorem observe_eq (hsince : st.rawSinceMs ≤ nowMs) :
    st.observe raw nowMs =
      { st with lastRaw := raw, rawSinceMs := st.rawSince raw nowMs } := by
  unfold observe rawSince
  by_cases hraw : st.lastRaw = raw
  · simp only [hraw, ne_eq, not_true_eq_false, if_false, if_true]
    rw [if_neg (Nat.not_lt.mpr hsince), ← hraw]
  · simp only [ne_eq, hraw, not_false_eq_true, if_true, if_false]
    rw [if_neg (Nat.lt_irrefl _)]

theorem step_spec (hinit : st.initialized = true) (hsince : st.rawSinceMs ≤ nowMs) :
    st.step policy raw nowMs =
      { st with
        lastRaw := raw
        rawSinceMs := st.rawSince raw nowMs
        output := if raw ≠ st.output ∧ st.rawSince raw nowMs + policy.needMs raw ≤ nowMs then raw
          else st.output } := by
  have hle := rawSince_le raw hsince
  unfold step
  rw [hinit, observe_eq raw hsince]
  simp only [Bool.not_true, Bool.false_eq_true, if_false]
  by_cases hout : raw = st.output
  · simp [hout, hinit]
  · by_cases hdue : st.rawSince raw nowMs + policy.needMs raw ≤ nowMs
    · rw [if_pos hout, if_pos (by omega), if_pos ⟨hout, hdue⟩, hinit]
    · rw [if_pos hout, if_neg (by omega), if_neg fun h => hdue h.2, hinit]

end DebounceState

/-- Both show the same, and the wait that counts has begun at the same time in both. -/
structure SameWait (now : Nat) (st : DebounceState) (cond : FaultConditionState) : Prop where
  initialized : st.initialized = true
  since : st.rawSinceMs ≤ now
  output : st.output = cond.confirmedOn
  rising : cond.confirmedOn = false → cond.rawOn = st.lastRaw ∧
    (st.lastRaw = true → cond.rawOnSinceMs = st.rawSinceMs)
  falling : cond.confirmedOn = true → cond.rawClear = !st.lastRaw ∧
    (st.lastRaw = false → cond.rawClearSinceMs = st.rawSinceMs)

section Simulation

variable (policy : DebouncePolicy) (raw : Bool) {now nowMs : Nat}

theorem sameWait_first (nowMs : Nat) :
    SameWait nowMs (DebounceState.step policy raw nowMs {})
      (FaultConditionState.sample {} raw nowMs policy.triggerMs policy.clearMs) := by
  cases raw with
  | false => constructor <;> simp [DebounceState.step, FaultConditionState.sample,
      FaultConditionState.configure, FaultConditionState.updateWithClear,
      FaultConditionState.updateUnconfirmed]
  | true =>
    rcases Nat.eq_zero_or_pos policy.triggerMs with hzero | hpos
    · constructor <;> simp [DebounceState.step, FaultConditionState.sample,
        FaultConditionState.configure, FaultConditionState.updateWithClear,
        FaultConditionState.updateUnconfirmed, hzero]
    · constructor <;> simp [DebounceState.step, FaultConditionState.sample,
        FaultConditionState.configure, FaultConditionState.updateWithClear,
        FaultConditionState.updateUnconfirmed, Nat.pos_iff_ne_zero.mp hpos]

theorem SameWait.step {st : DebounceState} {cond : FaultConditionState}
    (h : SameWait now st cond) (hnow : now ≤ nowMs) :
    SameWait nowMs (st.step policy raw nowMs)
      (cond.sample raw nowMs policy.triggerMs policy.clearMs) := by
  have hsince := Nat.le_trans h.since hnow
  have hle := DebounceState.rawSince_le raw hsince
  rw [DebounceState.step_spec policy raw h.initialized hsince, FaultConditionState.sample_eq]
  cases hon : cond.confirmedOn with
  | false =>
    obtain ⟨hraw, hstart⟩ := h.rising hon
    have hout : st.output = false := by rw [h.output, hon]
    cases raw with
    | false =>
      -- neither shows it, and neither waits
      rw [Bool.not_false]
      obtain ⟨hc, hr⟩ := FaultConditionState.sampleWithClear_off_idle true nowMs
        policy.triggerMs policy.clearMs hon
      refine ⟨h.initialized, hle, ?_, fun _ => ⟨hr, fun hf => ?_⟩, fun hc' => ?_⟩
      · rw [hc]
        simp [hout]
      · exact absurd hf Bool.false_ne_true
      · rw [hc] at hc'
        exact absurd hc' Bool.false_ne_true
    | true =>
      have hsame : cond.heldSince nowMs = st.rawSince true nowMs := by
        unfold FaultConditionState.heldSince DebounceState.rawSince
        rw [hraw]
        cases hlast : st.lastRaw with
        | false => rfl
        | true => exact hstart hlast
      rw [Bool.not_true]
      obtain ⟨hfire, hr, hs, hclear⟩ := FaultConditionState.sampleWithClear_off false nowMs
        policy.triggerMs policy.clearMs hon (hsame ▸ hle)
      rw [hsame] at hfire hs
      refine ⟨h.initialized, hle, ?_, fun _ => ⟨hr, fun _ => hs⟩, fun _ => ⟨hclear, fun hf => ?_⟩⟩
      · rw [Bool.eq_iff_iff, hfire]
        simp [hout, DebouncePolicy.needMs]
      · exact absurd hf.symm Bool.false_ne_true
  | true =>
    obtain ⟨hraw, hstart⟩ := h.falling hon
    have hout : st.output = true := by rw [h.output, hon]
    cases raw with
    | true =>
      rw [Bool.not_true]
      obtain ⟨hc, hr⟩ := FaultConditionState.sampleWithClear_on_kept true nowMs
        policy.triggerMs policy.clearMs hon
      refine ⟨h.initialized, hle, ?_, fun hc' => ?_, fun _ => ⟨hr, fun hf => ?_⟩⟩
      · rw [hc]
        simp [hout]
      · rw [hc] at hc'
        exact absurd hc'.symm Bool.false_ne_true
      · exact absurd hf.symm Bool.false_ne_true
    | false =>
      have hsame : cond.clearSince nowMs = st.rawSince false nowMs := by
        unfold FaultConditionState.clearSince DebounceState.rawSince
        rw [hraw]
        cases hlast : st.lastRaw with
        | false => exact hstart hlast
        | true => rfl
      rw [Bool.not_false]
      obtain ⟨hfire, hwait, hidle⟩ := FaultConditionState.sampleWithClear_on false nowMs
        policy.triggerMs policy.clearMs hon (hsame ▸ hle)
      rw [hsame] at hfire hwait
      refine ⟨h.initialized, hle, ?_, fun hc => ⟨hidle hc, fun hf => ?_⟩, fun hc => ?_⟩
      · rw [Bool.eq_iff_iff, ← not_iff_not, Bool.not_eq_true, Bool.not_eq_true,
          hfire]
        simp [hout, DebouncePolicy.needMs]
      · exact absurd hf Bool.false_ne_true
      · exact ⟨(hwait hc).1, fun _ => (hwait hc).2⟩

theorem outputs_eq_of_sameWait (samples : List RawSample) {st : DebounceState}
    {cond : FaultConditionState} (h : SameWait now st cond)
    (hsorted : (now :: samples.map RawSample.nowMs).Pairwise (· ≤ ·)) :
    st.outputs policy samples = cond.outputs policy.triggerMs policy.clearMs samples := by
  induction samples generalizing now st cond with
  | nil => rfl
  | cons x xs ih =>
    rw [List.map_cons] at hsorted
    have hstep := h.step policy x.raw ((List.pairwise_cons.mp hsorted).1 x.nowMs
      List.mem_cons_self)
    rw [DebounceState.outputs, FaultConditionState.outputs, hstep.output,
      ih hstep (List.pairwise_cons.mp hsorted).2]

theorem outputs_eq (samples : List RawSample)
    (hsorted : (samples.map RawSample.nowMs).Pairwise (· ≤ ·)) :
    DebounceState.outputs policy {} samples =
      FaultConditionState.outputs policy.triggerMs policy.clearMs {} samples := by
  cases samples with
  | nil => rfl
  | cons x xs =>
    have hfirst := sameWait_first policy x.raw x.nowMs
    rw [DebounceState.outputs, FaultConditionState.outputs, hfirst.output,
      outputs_eq_of_sameWait policy xs hfirst hsorted]

/-- The rule keeps its own state in the table, under its key. -/
theorem debounceOutputs_eq {rule : Rule} (hpolicy : policyForRule rule = some policy)
    (d : DebounceStates) (samples : List RawSample) :
    debounceOutputs rule d samples = (d.at rule.debounceKey).outputs policy samples := by
  induction samples generalizing d with
  | nil => rfl
  | cons x xs ih =>
    have hrule : debounceRule rule x.raw x.nowMs d =
        (d.insert rule.debounceKey ((d.at rule.debounceKey).step policy x.raw x.nowMs),
          ((d.at rule.debounceKey).step policy x.raw x.nowMs).output) := by
      unfold debounceRule
      rw [hpolicy]
    have hat : DebounceStates.at (d.insert rule.debounceKey
        ((d.at rule.debounceKey).step policy x.raw x.nowMs)) rule.debounceKey =
          (d.at rule.debounceKey).step policy x.raw x.nowMs := by
      rw [DebounceStates.at, Dict.get_insert, if_pos rfl]
      rfl
    rw [debounceOutputs, DebounceState.outputs, hrule, ih, hat]

end Simulation

/-- With the same delays both confirm the same samples, also as the mapper's rules call it. -/
theorem debouncers_agree (samples : List RawSample)
    (hsorted : (samples.map RawSample.nowMs).Pairwise (· ≤ ·)) :
    (∀ policy : DebouncePolicy, DebounceState.outputs policy {} samples =
      FaultConditionState.outputs policy.triggerMs policy.clearMs {} samples) ∧
    ∀ (rule : Rule) (policy : DebouncePolicy) (d : DebounceStates),
      policyForRule rule = some policy → d.get rule.debounceKey = none →
      debounceOutputs rule d samples =
        FaultConditionState.outputs policy.triggerMs policy.clearMs {} samples := by
  refine ⟨fun policy => outputs_eq policy samples hsorted, fun rule policy d hpolicy hnew => ?_⟩
  rw [debounceOutputs_eq policy hpolicy, DebounceStates.at, hnew]
  exact outputs_eq policy samples hsorted

/-- A signal of the UPS that comes, stays for the trigger delay and goes again. -/
def upsSamples : List RawSample :=
  [⟨true, 0⟩, ⟨true, 3000⟩, ⟨false, 3000⟩, ⟨true, 3900⟩, ⟨false, 4000⟩, ⟨false, 5000⟩]

theorem debouncers_agree_ups :
    (upsSamples.map RawSample.nowMs).Pairwise (· ≤ ·) ∧
    DebounceState.outputs ⟨3000, 1000⟩ {} upsSamples = [false, true, true, true, true, false] ∧
    FaultConditionState.outputs 3000 1000 {} upsSamples =
      [false, true, true, true, true, false] ∧
    debounceOutputs ⟨0x0101, .ups, "overload", 1⟩ Dict.empty upsSamples =
      [false, true, true, true, true, false] := by
  have hsorted : (upsSamples.map RawSample.nowMs).Pairwise (· ≤ ·) := by decide
  have hagree := debouncers_agree upsSamples hsorted
  have hvalues : FaultConditionState.outputs 3000 1000 {} upsSamples =
      [false, true, true, true, true, false] := by decide
  exact ⟨hsorted, (hagree.1 ⟨3000, 1000⟩).trans hvalues, hvalues,
    (hagree.2 ⟨0x0101, .ups, "overload", 1⟩ ⟨3000, 1000⟩ Dict.empty rfl rfl).trans hvalues⟩

/-! ### The engine of the conditions -/

structure ConditionSample where
  key : String
  assertNow : Bool
  clearNow : Bool
  nowMs : Nat

abbrev FaultConditionEngine := Dict String FaultConditionState

namespace FaultConditionEngine

def getConfirmed (engine : FaultConditionEngine) (key : String) : Bool :=
  match engine.get key with
  | none => false
  | some st => st.confirmedOn

/-- The state of a condition; one is made for a new key. -/
def ensureState (engine : FaultConditionEngine) (key : String) : FaultConditionState :=
  (engine.get key).getD {}

def updateConditionWithClear (engine : FaultConditionEngine) (key : String)
    (assertNow clearNow : Bool) (nowMs assertDelay clearDelay : Nat) :
    FaultConditionEngine × Bool :=
  let st := (engine.ensureState key).sampleWithClear assertNow clearNow nowMs assertDelay clearDelay
  (engine.insert key st, st.changedLastUpdate)

theorem getConfirmed_eq (engine : FaultConditionEngine) (key : String) :
    engine.getConfirmed key = (engine.ensureState key).confirmedOn := by
  unfold getConfirmed ensureState
  cases engine.get key <;> rfl

end FaultConditionEngine

structure ConditionDelays where
  assertMs : Nat
  clearMs : Nat

/-- The engine under updates of its conditions, with fixed delays for each. -/
def conditionEngine (delays : String → ConditionDelays) :
    Machine FaultConditionEngine ConditionSample Bool where
  start := Dict.empty
  step engine x :=
    let r := engine.updateConditionWithClear x.key x.assertNow x.clearNow x.nowMs
      (delays x.key).assertMs (delays x.key).clearMs
    (r.1, [r.2])

section Engine

variable (delays : String → ConditionDelays) (key : String)

/-- `e` is a sample of the condition, and from it on each sample of the condition met the
flag off and asserted. -/
def AssertedSince : List ConditionSample → ConditionSample → Prop :=
  (conditionEngine delays).Streak (fun x => x.key = key) fun engine x =>
    engine.getConfirmed key = false ∧ x.assertNow = true

/-- The same of samples that met the flag on and cleared. -/
def ClearedSince : List ConditionSample → ConditionSample → Prop :=
  (conditionEngine delays).Streak (fun x => x.key = key) fun engine x =>
    engine.getConfirmed key = true ∧ x.clearNow = true

/-- While the flag is off the state times the assertion, while it is on the clearance. -/
structure TimedState (es : List ConditionSample) (st : FaultConditionState) : Prop where
  off : st.confirmedOn = false → Machine.Timed (conditionEngine delays) (fun x => x.key = key)
    (fun engine x => engine.getConfirmed key = false ∧ x.assertNow = true)
    ConditionSample.nowMs es st.rawOn st.rawOnSinceMs
  on : st.confirmedOn = true → Machine.Timed (conditionEngine delays) (fun x => x.key = key)
    (fun engine x => engine.getConfirmed key = true ∧ x.clearNow = true)
    ConditionSample.nowMs es st.rawClear st.rawClearSinceMs

variable {delays key} {es : List ConditionSample} {x : ConditionSample}

theorem ensureState_other (hkey : x.key ≠ key) :
    FaultConditionEngine.ensureState ((conditionEngine delays).run (es ++ [x])) key =
      FaultConditionEngine.ensureState ((conditionEngine delays).run es) key := by
  rw [Machine.run_snoc]
  exact congrArg (·.getD ({} : FaultConditionState)) (Dict.get_insert_of_ne _ (Ne.symm hkey) _)

theorem ensureState_own (hkey : x.key = key) :
    FaultConditionEngine.ensureState ((conditionEngine delays).run (es ++ [x])) key =
      (FaultConditionEngine.ensureState ((conditionEngine delays).run es) key).sampleWithClear
        x.assertNow x.clearNow x.nowMs (delays key).assertMs (delays key).clearMs := by
  have hget : ∀ (engine : FaultConditionEngine) (st : FaultConditionState),
      (engine.insert x.key st).get x.key = some st :=
    fun engine st => (Dict.get_insert engine x.key x.key st).trans (if_pos rfl)
  rw [Machine.run_snoc, ← hkey]
  exact congrArg (·.getD ({} : FaultConditionState)) (hget _ _)

/-- What a sample of the condition does while its flag is off. -/
theorem own_sample_off (hkey : x.key = key)
    (hlate : ∀ e ∈ es, e.key = key → e.nowMs ≤ x.nowMs)
    (hoff : FaultConditionEngine.getConfirmed ((conditionEngine delays).run es) key = false)
    (h : TimedState delays key es
      (FaultConditionEngine.ensureState ((conditionEngine delays).run es) key)) :
    (FaultConditionEngine.getConfirmed ((conditionEngine delays).run (es ++ [x])) key = true ↔
      ∃ e, AssertedSince delays key (es ++ [x]) e ∧
        e.nowMs + (delays key).assertMs ≤ x.nowMs) ∧
    TimedState delays key (es ++ [x])
      (FaultConditionEngine.ensureState ((conditionEngine delays).run (es ++ [x])) key) := by
  have hconf := hoff
  rw [FaultConditionEngine.getConfirmed_eq] at hconf
  have htimed := h.off hconf
  rw [FaultConditionEngine.getConfirmed_eq, ensureState_own hkey]
  generalize FaultConditionEngine.ensureState ((conditionEngine delays).run es) key = st at *
  cases hassert : x.assertNow with
  | false =>
    have hnone : ∀ e, ¬ AssertedSince delays key (es ++ [x]) e :=
      Machine.not_streak_of_break hkey fun hp => Bool.false_ne_true (hassert.symm.trans hp.2)
    obtain ⟨hstill, hraw⟩ := FaultConditionState.sampleWithClear_off_idle x.clearNow x.nowMs
      (delays key).assertMs (delays key).clearMs hconf
    refine ⟨⟨fun hc => ?_, fun ⟨e, he, _⟩ => absurd he (hnone e)⟩, fun _ => ?_, fun hc => ?_⟩
    · exact absurd (hstill.symm.trans hc) Bool.false_ne_true
    · rw [hraw]
      exact Machine.Timed.idle hnone _
    · exact absurd (hstill.symm.trans hc) Bool.false_ne_true
  | true =>
    have hext := htimed.extend hkey ⟨hoff, hassert⟩ hlate
    have hheld : st.heldSince x.nowMs ≤ x.nowMs := by
      unfold FaultConditionState.heldSince
      split
      · rename_i hraw
        obtain ⟨e, he, hs⟩ := htimed.started hraw
        exact hs ▸ hlate e he.mem.1 he.mem.2
      · exact Nat.le_refl _
    obtain ⟨hfire, hraw, hsince, hclear⟩ := FaultConditionState.sampleWithClear_off x.clearNow
      x.nowMs (delays key).assertMs (delays key).clearMs hconf hheld
    -- the sample met the flag off, so the clearance is not being timed
    have hnone : ∀ e, ¬ ClearedSince delays key (es ++ [x]) e :=
      Machine.not_streak_of_break hkey fun hp => Bool.false_ne_true (hoff.symm.trans hp.1)
    refine ⟨hfire.trans (hext.due_iff _ _), fun _ => ?_, fun _ => ?_⟩
    · rw [hraw, hsince]
      exact hext
    · rw [hclear]
      exact Machine.Timed.idle hnone _

/-- What it does while the flag is on. -/
theorem own_sample_on (hkey : x.key = key)
    (hlate : ∀ e ∈ es, e.key = key → e.nowMs ≤ x.nowMs)
    (hon : FaultConditionEngine.getConfirmed ((conditionEngine delays).run es) key = true)
    (h : TimedState delays key es
      (FaultConditionEngine.ensureState ((conditionEngine delays).run es) key)) :
    (FaultConditionEngine.getConfirmed ((conditionEngine delays).run (es ++ [x])) key = false ↔
      ∃ e, ClearedSince delays key (es ++ [x]) e ∧
        e.nowMs + (delays key).clearMs ≤ x.nowMs) ∧
    TimedState delays key (es ++ [x])
      (FaultConditionEngine.ensureState ((conditionEngine delays).run (es ++ [x])) key) := by
  have hconf := hon
  rw [FaultConditionEngine.getConfirmed_eq] at hconf
  have htimed := h.on hconf
  rw [FaultConditionEngine.getConfirmed_eq, ensureState_own hkey]
  generalize FaultConditionEngine.ensureState ((conditionEngine delays).run es) key = st at *
  cases hclear : x.clearNow with
  | false =>
    have hnone : ∀ e, ¬ ClearedSince delays key (es ++ [x]) e :=
      Machine.not_streak_of_break hkey fun hp => Bool.false_ne_true (hclear.symm.trans hp.2)
    obtain ⟨hstill, hraw⟩ := FaultConditionState.sampleWithClear_on_kept x.assertNow x.nowMs
      (delays key).assertMs (delays key).clearMs hconf
    refine ⟨⟨fun hc => ?_, fun ⟨e, he, _⟩ => absurd he (hnone e)⟩, fun hc => ?_, fun _ => ?_⟩
    · exact absurd (hc.symm.trans hstill) Bool.false_ne_true
    · exact absurd (hc.symm.trans hstill) Bool.false_ne_true
    · rw [hraw]
      exact Machine.Timed.idle hnone _
  | true =>
    have hext := htimed.extend hkey ⟨hon, hclear⟩ hlate
    have hheld : st.clearSince x.nowMs ≤ x.nowMs := by
      unfold FaultConditionState.clearSince
      split
      · rename_i hraw
        obtain ⟨e, he, hs⟩ := htimed.started hraw
        exact hs ▸ hlate e he.mem.1 he.mem.2
      · exact Nat.le_refl _
    obtain ⟨hfire, hwait, hidle⟩ := FaultConditionState.sampleWithClear_on x.assertNow
      x.nowMs (delays key).assertMs (delays key).clearMs hconf hheld
    have hnone : ∀ e, ¬ AssertedSince delays key (es ++ [x]) e :=
      Machine.not_streak_of_break hkey fun hp => Bool.false_ne_true (hp.1.symm.trans hon)
    refine ⟨hfire.trans (hext.due_iff _ _), fun hc => ?_, fun hc => ?_⟩
    · rw [hidle hc]
      exact Machine.Timed.idle hnone _
    · rw [(hwait hc).1, (hwait hc).2]
      exact hext

theorem sorted_snoc
    (hsorted : (((es ++ [x]).filter (·.key = key)).map ConditionSample.nowMs).Pairwise (· ≤ ·)) :
    ((es.filter (·.key = key)).map ConditionSample.nowMs).Pairwise (· ≤ ·) ∧
      (x.key = key → ∀ e ∈ es, e.key = key → e.nowMs ≤ x.nowMs) := by
  rw [List.filter_append, List.map_append, List.pairwise_append] at hsorted
  refine ⟨hsorted.1, fun hkey e he hown => hsorted.2.2 e.nowMs ?_ x.nowMs ?_⟩
  · exact List.mem_map_of_mem (List.mem_filter.mpr ⟨he, decide_eq_true hown⟩)
  · exact List.mem_map_of_mem (List.mem_filter.mpr ⟨List.mem_singleton_self x,
      decide_eq_true hkey⟩)

theorem timedState (es : List ConditionSample)
    (hsorted : ((es.filter (·.key = key)).map ConditionSample.nowMs).Pairwise (· ≤ ·)) :
    TimedState delays key es
      (FaultConditionEngine.ensureState ((conditionEngine delays).run es) key) := by
  induction es using List.reverseRecOn with
  | nil =>
    exact ⟨fun _ => Machine.Timed.idle Machine.not_streak_nil _, fun h => absurd h
      Bool.false_ne_true⟩
  | append_singleton es x ih =>
    obtain ⟨hbefore, hlate⟩ := sorted_snoc hsorted
    have hst := ih hbefore
    by_cases hkey : x.key = key
    · cases hc : FaultConditionEngine.getConfirmed ((conditionEngine delays).run es) key with
      | false => exact (own_sample_off hkey (hlate hkey) hc hst).2
      | true => exact (own_sample_on hkey (hlate hkey) hc hst).2
    · rw [ensureState_other hkey]
      exact ⟨fun h => (hst.off h).other hkey, fun h => (hst.on h).other hkey⟩

end Engine

/-- When the flag of a condition turns, over every trace of the engine. -/
theorem confirmed_turns_iff (delays : String → ConditionDelays) (key : String)
    (es : List ConditionSample) (x : ConditionSample)
    (hsorted : (((es ++ [x]).filter (·.key = key)).map ConditionSample.nowMs).Pairwise (· ≤ ·)) :
    let before := FaultConditionEngine.getConfirmed ((conditionEngine delays).run es) key
    let after := FaultConditionEngine.getConfirmed ((conditionEngine delays).run (es ++ [x])) key
    (before = false ∧ after = true ↔
      before = false ∧ x.key = key ∧ ∃ e, AssertedSince delays key (es ++ [x]) e ∧
        e.nowMs + (delays key).assertMs ≤ x.nowMs) ∧
    (before = true ∧ after = false ↔
      before = true ∧ x.key = key ∧ ∃ e, ClearedSince delays key (es ++ [x]) e ∧
        e.nowMs + (delays key).clearMs ≤ x.nowMs) := by
  intro before after
  obtain ⟨hbefore, hlate⟩ := sorted_snoc hsorted
  have hst : TimedState delays key es _ := timedState es hbefore
  by_cases hkey : x.key = key
  · refine ⟨and_congr_right fun hoff => ?_, and_congr_right fun hon => ?_⟩
    · rw [(own_sample_off hkey (hlate hkey) hoff hst).1]
      exact ⟨fun h => ⟨hkey, h⟩, And.right⟩
    · rw [(own_sample_on hkey (hlate hkey) hon hst).1]
      exact ⟨fun h => ⟨hkey, h⟩, And.right⟩
  · have hsame : after = before := by
      show FaultConditionEngine.getConfirmed _ key = FaultConditionEngine.getConfirmed _ key
      rw [FaultConditionEngine.getConfirmed_eq, FaultConditionEngine.getConfirmed_eq,
        ensureState_other hkey]
    rw [hsame]
    constructor
    · exact ⟨fun h => absurd (h.1.symm.trans h.2) Bool.false_ne_true, fun h => absurd h.2.1 hkey⟩
    · exact ⟨fun h => absurd (h.2.symm.trans h.1) Bool.false_ne_true, fun h => absurd h.2.1 hkey⟩

/-- A trigger delay of 10 and no clear delay. -/
def promptClear (_ : String) : ConditionDelays := ⟨10, 0⟩

/-- Asserted from 0 on, and cleared once, at 20. -/
def assertedThroughout : List ConditionSample :=
  [⟨"k", true, false, 0⟩, ⟨"k", true, false, 10⟩, ⟨"k", true, true, 20⟩]

theorem confirmed_turns_iff_prompt :
    FaultConditionEngine.getConfirmed ((conditionEngine promptClear).run
      (assertedThroughout ++ [⟨"k", true, false, 30⟩] ++ [⟨"k", true, false, 40⟩])) "k" = true ∧
    ∃ e, AssertedSince promptClear "k" (assertedThroughout ++ [⟨"k", true, false, 30⟩] ++
      [⟨"k", true, false, 40⟩]) e ∧ e.nowMs + 10 ≤ 40 := by
  have hturns := (confirmed_turns_iff promptClear "k"
    (assertedThroughout ++ [⟨"k", true, false, 30⟩]) ⟨"k", true, false, 40⟩ (by decide)).1
  have hon : FaultConditionEngine.getConfirmed ((conditionEngine promptClear).run
      (assertedThroughout ++ [⟨"k", true, false, 30⟩] ++ [⟨"k", true, false, 40⟩])) "k" = true := by
    decide
  exact ⟨hon, (hturns.mp ⟨by decide, hon⟩).2.2⟩

/-- The assertion has been there since 0, but the wait begins anew when the flag turns off. -/
theorem long_assertion_waits_again :
    ¬ (FaultConditionEngine.getConfirmed ((conditionEngine promptClear).run
          assertedThroughout) "k" = false ∧
        FaultConditionEngine.getConfirmed ((conditionEngine promptClear).run
          (assertedThroughout ++ [⟨"k", true, false, 30⟩])) "k" = true ↔
      FaultConditionEngine.getConfirmed ((conditionEngine promptClear).run
          assertedThroughout) "k" = false ∧
        ∃ e, (conditionEngine promptClear).Streak (fun x => x.key = "k")
            (fun _ x => x.assertNow = true)
            (assertedThroughout ++ [⟨"k", true, false, 30⟩]) e ∧
          e.nowMs + (promptClear "k").assertMs ≤ 30) := by
  have hoff : FaultConditionEngine.getConfirmed ((conditionEngine promptClear).run
      assertedThroughout) "k" = false := by decide
  have hstill : FaultConditionEngine.getConfirmed ((conditionEngine promptClear).run
      (assertedThroughout ++ [⟨"k", true, false, 30⟩])) "k" = false := by decide
  have hall : ∀ e ∈ assertedThroughout ++ [⟨"k", true, false, 30⟩], e.assertNow = true := by
    decide
  intro h
  have hon := (h.mpr ⟨hoff, ⟨"k", true, false, 0⟩, ⟨[], _, rfl, rfl, fun mid x rest hsplit _ => ?_⟩,
    by decide⟩).2
  · exact Bool.false_ne_true (hstill.symm.trans hon)
  · refine hall x ?_
    show x ∈ [] ++ (_ :: _)
    rw [hsplit]
    exact List.mem_append_right mid List.mem_cons_self

end Fault
end EnergyStorage
