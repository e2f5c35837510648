import EnergyStorage.Fault.History
import EnergyStorage.Fault.RuntimeMapper

/-! # Several rules of one code

A pass sets the codes of the rules one after the other, so the last rule of a code decides,
and a rule that disagrees with it opens or closes a record in every pass. -/

namespace EnergyStorage
namespace Fault

open Lib
open FaultCenter

/-! ### A sequence of settings -/

/-- One call of `setActive`. -/
structure CodeSetting where
  code : BitVec 16
  on : Bool
  ts : Nat

variable (cat : FaultCatalog)

def FaultStore.set (s : FaultStore) (c : CodeSetting) : FaultStore :=
  ⟨(s.center.setActive cat s.db c.code c.on c.ts).1,
    (s.center.setActive cat s.db c.code c.on c.ts).2⟩

def FaultStore.setAll (s : FaultStore) (cs : List CodeSetting) : FaultStore :=
  cs.foldl (FaultStore.set cat) s

namespace FaultStore

variable {cat}

/-- The records of the history and the rows of the database are the same. -/
def SameRecords (s s' : FaultStore) : Prop :=
  s.center.history = s'.center.history ∧ s.db.rows = s'.db.rows

/-- What the last setting of a code says of it. -/
def lastSetting (code : BitVec 16) (cs : List CodeSetting) : Option Bool :=
  cs.reverse.findSome? fun c => if c.code = code then some c.on else none

variable (cat) in
theorem active_set (s : FaultStore) (c : CodeSetting) (code : BitVec 16) :
    decide (code ∈ (s.set cat c).center.active) =
      if c.code = code then c.on else decide (code ∈ s.center.active) := by
  have hactive : (s.set cat c).center.active =
      if c.on then insert c.code s.center.active else s.center.active.erase c.code :=
    active_setActive cat s.center s.db c.code c.on c.ts
  rw [hactive]
  by_cases hcode : c.code = code
  · rw [if_pos hcode, hcode]
    cases c.on <;> simp
  · have hne : code ≠ c.code := fun e => hcode e.symm
    rw [if_neg hcode]
    cases c.on <;> simp [hne]

/-- A code is what its last setting says, or what it was. -/
theorem active_setAll (s : FaultStore) (cs : List CodeSetting) (code : BitVec 16) :
    decide (code ∈ (s.setAll cat cs).center.active) =
      (lastSetting code cs).getD (decide (code ∈ s.center.active)) := by
  have hfold : some (decide (code ∈ (s.setAll cat cs).center.active)) =
      (lastSetting code cs).or (some (decide (code ∈ s.center.active))) := by
    apply observe_foldl fun s : FaultStore => some (decide (code ∈ s.center.active))
    intro s c _
    rw [active_set cat]
    by_cases hcode : c.code = code
    · rw [if_pos hcode, if_pos hcode]
      rfl
    · rw [if_neg hcode, if_neg hcode]
      rfl
  rw [Option.or_some, Option.some_inj] at hfold
  exact hfold

/-- Settings that change no recorded code leave the records as they are. -/
theorem sameRecords_setAll {s : FaultStore} {cs : List CodeSetting}
    (h : ∀ c ∈ cs, shouldRecordToDb cat c.code = true → c.on = decide (c.code ∈ s.center.active)) :
    (s.setAll cat cs).SameRecords s := by
  induction cs generalizing s with
  | nil => exact ⟨rfl, rfl⟩
  | cons c cs ih =>
    have hone : (s.set cat c).SameRecords s := by
      cases hrec : shouldRecordToDb cat c.code with
      | true =>
        have hsame := h c List.mem_cons_self hrec
        have hset : s.center.setActive cat s.db c.code c.on c.ts = (s.center, s.db) :=
          setActive_of_eq cat hsame.symm s.db c.ts
        rw [FaultStore.set, hset]
        exact ⟨rfl, rfl⟩
      | false => exact records_setActive_of_not cat hrec s.db c.on c.ts
    have hrest : ((s.set cat c).setAll cat cs).SameRecords (s.set cat c) := by
      apply ih
      intro d hd hrec
      rw [active_set cat]
      by_cases hcode : c.code = d.code
      · rw [if_pos hcode, h d (List.mem_cons_of_mem c hd) hrec, ← hcode]
        exact (h c List.mem_cons_self (hcode ▸ hrec)).symm
      · rw [if_neg hcode]
        exact h d (List.mem_cons_of_mem c hd) hrec
    exact ⟨hrest.1.trans hone.1, hrest.2.trans hone.2⟩

variable (cat) in
theorem length_rows_set (s : FaultStore) (c : CodeSetting) :
    (s.set cat c).db.rows.length = s.db.rows.length +
      if c.on = true ∧ c.code ∉ s.center.active ∧ shouldRecordToDb cat c.code = true
        then 1 else 0 :=
  length_rows_setActive cat s.center s.db c.code c.on c.ts

variable (cat) in
theorem length_rows_le_setAll (s : FaultStore) (cs : List CodeSetting) :
    s.db.rows.length ≤ (s.setAll cat cs).db.rows.length := by
  induction cs generalizing s with
  | nil => exact Nat.le_refl _
  | cons c cs ih =>
    have hone : s.db.rows.length ≤ (s.set cat c).db.rows.length := by
      rw [length_rows_set cat]
      exact Nat.le_add_right _ _
    exact hone.trans (ih (s.set cat c))

/-- A setting that adds no row switches no recorded code on. -/
theorem settled_of_rows_one {s : FaultStore} {c : CodeSetting}
    (h : (s.set cat c).db.rows.length = s.db.rows.length) {code : BitVec 16}
    (hrec : shouldRecordToDb cat code = true) :
    (code ∈ (s.set cat c).center.active → code ∈ s.center.active) ∧
      (c.code = code → c.on = true → code ∈ s.center.active) := by
  have hrows := length_rows_set cat s c
  have hnone : ¬ (c.on = true ∧ c.code ∉ s.center.active ∧
      shouldRecordToDb cat c.code = true) := by
    intro hbegin
    rw [if_pos hbegin] at hrows
    omega
  have hon : c.code = code → c.on = true → code ∈ s.center.active := by
    intro hcode hc
    by_contra hold
    exact hnone ⟨hc, hcode ▸ hold, hcode ▸ hrec⟩
  refine ⟨?_, hon⟩
  intro hmem
  have hdec := active_set cat s c code
  rw [decide_eq_true hmem] at hdec
  by_cases hcode : c.code = code
  · rw [if_pos hcode] at hdec
    exact hon hcode hdec.symm
  · rw [if_neg hcode] at hdec
    exact of_decide_eq_true hdec.symm

/-- Settings that add no row switch no recorded code on: it was on before, and it is on
after only where no setting of it is off. -/
theorem settled_of_rows {s : FaultStore} {cs : List CodeSetting}
    (h : (s.setAll cat cs).db.rows.length = s.db.rows.length) {code : BitVec 16}
    (hrec : shouldRecordToDb cat code = true) :
    (code ∈ (s.setAll cat cs).center.active → code ∈ s.center.active) ∧
      ∀ c ∈ cs, c.code = code → (c.on = true → code ∈ s.center.active) ∧
        (code ∈ (s.setAll cat cs).center.active → c.on = true) := by
  induction cs generalizing s with
  | nil =>
    refine ⟨fun hmem => hmem, ?_⟩
    intro c hc
    exact absurd hc List.not_mem_nil
  | cons c cs ih =>
    have hall : ((s.set cat c).setAll cat cs).db.rows.length = s.db.rows.length := h
    -- no setting removes rows, so neither the first nor the others add one
    have hle := length_rows_le_setAll cat (s.set cat c) cs
    have hone : (s.set cat c).db.rows.length = s.db.rows.length := by
      have hrows := length_rows_set cat s c
      omega
    obtain ⟨hstep, hon⟩ := settled_of_rows_one hone hrec
    obtain ⟨hafter, hrest⟩ := ih (hall.trans hone.symm)
    refine ⟨fun hmem => hstep (hafter hmem), ?_⟩
    intro d hd hcode
    obtain hd | hd := List.mem_cons.mp hd
    · subst hd
      refine ⟨hon hcode, ?_⟩
      intro hmem
      have hdec := active_set cat s d code
      rw [if_pos hcode, decide_eq_true (hafter hmem)] at hdec
      exact hdec.symm
    · obtain ⟨hbefore, hfinal⟩ := hrest d hd hcode
      exact ⟨fun hd => hstep (hbefore hd), hfinal⟩

end FaultStore

/-! ### A pass over the rules -/

section Pass

variable (ctx : RuleContext) (nowMs : Nat)

/-- What the evaluation of a rule makes of the state under its key. -/
def stepRule (rule : Rule) (st : DebounceState) : DebounceState :=
  match policyForRule rule with
  | none => st
  | some policy => st.step policy (rawActive ctx rule) nowMs

theorem stepRule_stepRule (rule : Rule) (st : DebounceState) :
    stepRule ctx nowMs rule (stepRule ctx nowMs rule st) = stepRule ctx nowMs rule st := by
  unfold stepRule
  cases policyForRule rule with
  | none => rfl
  | some policy => exact DebounceState.step_step st

theorem debounceKey_inj {rule rule' : Rule} (h : rule.debounceKey = rule'.debounceKey) :
    rule = rule' := by
  cases rule
  cases rule'
  simp only [Rule.debounceKey, DebounceKey.mk.injEq] at h
  obtain ⟨hsource, hsignal, hinst, hcode⟩ := h
  subst hsource hsignal hinst hcode
  rfl

theorem policyForRule_eq_none {rule : Rule} (h : ¬ isRuntimeDebounceSource rule.sourceNorm = true) :
    policyForRule rule = none := by
  have hsource : isRuntimeDebounceSource rule.sourceNorm = false := Bool.eq_false_iff.mpr h
  simp only [policyForRule, hsource, Bool.not_false, if_true]

theorem policyForRule_eq_some {rule : Rule} (h : isRuntimeDebounceSource rule.sourceNorm = true) :
    ∃ policy, policyForRule rule = some policy := by
  unfold policyForRule
  rw [h]
  by_cases hoff : isOfflineSignal rule = true
  · exact ⟨⟨3000, 0⟩, by simp [hoff]⟩
  · exact ⟨⟨3000, 1000⟩, by simp [hoff]⟩

/-- A rule touches the state under its own key only. -/
theorem at_evalRule (d : DebounceStates) (rule : Rule) (key : DebounceKey) :
    (evalRule ctx nowMs d rule).1.at key =
      if key = rule.debounceKey then stepRule ctx nowMs rule (d.at key) else d.at key := by
  unfold evalRule stepRule
  by_cases hsource : isRuntimeDebounceSource rule.sourceNorm = true
  · obtain ⟨policy, hpolicy⟩ := policyForRule_eq_some hsource
    rw [if_pos hsource]
    simp only [debounceRule, hpolicy]
    rw [DebounceStates.at, Dict.get_insert]
    by_cases hkey : key = rule.debounceKey
    · rw [if_pos hkey, if_pos hkey, hkey]
      rfl
    · rw [if_neg hkey, if_neg hkey]
      rfl
  · rw [if_neg hsource, policyForRule_eq_none hsource]
    exact (ite_self _).symm

/-- The value of a rule depends on the state under its key, after its step. -/
theorem evalRule_congr {d d' : DebounceStates} {nowMs' : Nat} {rule : Rule}
    (h : stepRule ctx nowMs rule (d.at rule.debounceKey) =
      stepRule ctx nowMs' rule (d'.at rule.debounceKey)) :
    (evalRule ctx nowMs d rule).2 = (evalRule ctx nowMs' d' rule).2 := by
  unfold evalRule
  by_cases hsource : isRuntimeDebounceSource rule.sourceNorm = true
  · obtain ⟨policy, hpolicy⟩ := policyForRule_eq_some hsource
    simp only [stepRule, hpolicy] at h
    rw [if_pos hsource, if_pos hsource]
    simp only [debounceRule, hpolicy, h]
  · rw [if_neg hsource, if_neg hsource]

/-- The states after the rules of a pass. -/
def statesAfter (rules : List Rule) (d : DebounceStates) : DebounceStates :=
  rules.foldl (fun d rule => (evalRule ctx nowMs d rule).1) d

/-- Another rule of the pass does not change what a rule makes of its state. -/
theorem stepRule_at_evalRule (d : DebounceStates) (rule other : Rule) :
    stepRule ctx nowMs rule ((evalRule ctx nowMs d other).1.at rule.debounceKey) =
      stepRule ctx nowMs rule (d.at rule.debounceKey) := by
  rw [at_evalRule]
  split
  · rename_i hkey
    rw [← debounceKey_inj hkey, stepRule_stepRule]
  · rfl

/-- A state that has made its step stays as it is. -/
theorem at_statesAfter_of_fixed {rule : Rule} {d : DebounceStates}
    (h : stepRule ctx nowMs rule (d.at rule.debounceKey) = d.at rule.debounceKey)
    (rules : List Rule) :
    (statesAfter ctx nowMs rules d).at rule.debounceKey = d.at rule.debounceKey := by
  induction rules generalizing d with
  | nil => rfl
  | cons other rules ih =>
    have hat : (evalRule ctx nowMs d other).1.at rule.debounceKey = d.at rule.debounceKey := by
      rw [at_evalRule]
      split
      · rename_i hkey
        rw [← debounceKey_inj hkey, h]
      · rfl
    show (statesAfter ctx nowMs rules (evalRule ctx nowMs d other).1).at _ = _
    rw [ih (by rw [hat, h]), hat]

/-- A pass whose rules have all made their step changes no state. -/
theorem at_statesAfter_of_forall {rules : List Rule} {d : DebounceStates}
    (h : ∀ rule ∈ rules, stepRule ctx nowMs rule (d.at rule.debounceKey) = d.at rule.debounceKey)
    (key : DebounceKey) : (statesAfter ctx nowMs rules d).at key = d.at key := by
  induction rules generalizing d with
  | nil => rfl
  | cons rule rules ih =>
    have hat : ∀ key, (evalRule ctx nowMs d rule).1.at key = d.at key := by
      intro key
      rw [at_evalRule]
      split
      · rename_i hkey
        rw [hkey, h rule List.mem_cons_self]
      · rfl
    show (statesAfter ctx nowMs rules (evalRule ctx nowMs d rule).1).at key = _
    rw [ih, hat]
    intro other hother
    rw [hat]
    exact h other (List.mem_cons_of_mem rule hother)

/-- After a pass the state of each of its rules has made its step. -/
theorem at_statesAfter {rule : Rule} {rules : List Rule} (h : rule ∈ rules)
    (d : DebounceStates) : (statesAfter ctx nowMs rules d).at rule.debounceKey =
      stepRule ctx nowMs rule (d.at rule.debounceKey) := by
  induction rules generalizing d with
  | nil => exact absurd h List.not_mem_nil
  | cons other rules ih =>
    show (statesAfter ctx nowMs rules (evalRule ctx nowMs d other).1).at _ = _
    obtain heq | hmem := List.mem_cons.mp h
    · subst heq
      have hat : (evalRule ctx nowMs d rule).1.at rule.debounceKey =
          stepRule ctx nowMs rule (d.at rule.debounceKey) := by
        rw [at_evalRule, if_pos rfl]
      rw [at_statesAfter_of_fixed ctx nowMs (by rw [hat, stepRule_stepRule]), hat]
    · rw [ih hmem, stepRule_at_evalRule]

/-- The settings of a pass, each rule at its time of the clock. -/
def settings (clock : Nat → Nat) (d : DebounceStates) (rules : List (Rule × Nat)) :
    List CodeSetting :=
  rules.map fun r => ⟨r.1.code, (evalRule ctx nowMs d r.1).2, clock r.2⟩

/-- A pass makes the settings that the states at its start give. -/
theorem foldl_applyRule (clock : Nat → Nat) (rules : List (Rule × Nat)) (d : DebounceStates)
    (s : FaultStore) :
    rules.foldl (fun s r => FaultRuntimeMapper.applyRule cat ctx nowMs (clock r.2) s r.1) (d, s) =
      (statesAfter ctx nowMs (rules.map Prod.fst) d,
        s.setAll cat (settings ctx nowMs clock d rules)) := by
  induction rules generalizing d s with
  | nil => rfl
  | cons r rules ih =>
    have hsettings : settings ctx nowMs clock (evalRule ctx nowMs d r.1).1 rules =
        settings ctx nowMs clock d rules := by
      apply List.map_congr_left
      intro r' _
      rw [evalRule_congr ctx nowMs (stepRule_at_evalRule ctx nowMs d r'.1 r.1)]
    show rules.foldl _ (_, _) = _
    rw [ih, hsettings]
    rfl

end Pass

namespace FaultRuntimeMapper

variable (m : FaultRuntimeMapper) (ctx : RuleContext) (nowMs : Nat)

/-- The rule is active in the pass that begins now. -/
def active (rule : Rule) : Bool := (evalRule ctx nowMs m.debounceStates rule).2

/-- The code of a rule is active exactly when one of the rules of the code is. -/
def AnyRuleCounts (s : FaultStore) : Prop :=
  ∀ rule ∈ m.rules, rule.code ∈ s.center.active ↔
    ∃ r ∈ m.rules, r.code = rule.code ∧ m.active ctx nowMs r = true

/-- A second pass over the same context that finds the debounce states unchanged leaves the
records as they are. -/
def SecondPassQuiet (s : FaultStore) : Prop :=
  ∀ nowMs' clock, (∀ key, (m.applyAll cat ctx nowMs' clock s).1.debounceStates.at key =
      m.debounceStates.at key) →
    (m.applyAll cat ctx nowMs' clock s).2.SameRecords s

/-- The last rule of the code. -/
def lastRule (code : BitVec 16) : Option Rule := m.rules.reverse.find? fun r => r.code = code

/-- Where a rule is active the last rule of its code is, and the rules of a recorded code
agree. -/
structure RulesAgree : Prop where
  last : ∀ rule ∈ m.rules, m.active ctx nowMs rule = true →
    (m.lastRule rule.code).any (m.active ctx nowMs) = true
  recorded : ∀ r ∈ m.rules, ∀ r' ∈ m.rules, r.code = r'.code →
    shouldRecordToDb cat r.code = true → m.active ctx nowMs r = m.active ctx nowMs r'

theorem applyAll_eq (clock : Nat → Nat) (s : FaultStore) : m.applyAll cat ctx nowMs clock s =
    ({ m with debounceStates := statesAfter ctx nowMs m.rules m.debounceStates },
      s.setAll cat (settings ctx nowMs clock m.debounceStates m.rules.zipIdx)) := by
  rw [applyAll, foldl_applyRule, List.zipIdx_map_fst]

variable {m} in
theorem lastRule_of_mem {rule : Rule} (h : rule ∈ m.rules) :
    ∃ r ∈ m.rules, m.lastRule rule.code = some r ∧ r.code = rule.code := by
  have hsome : (m.lastRule rule.code).isSome = true := by
    apply List.find?_isSome.mpr
    exact ⟨rule, List.mem_reverse.mpr h, decide_eq_true rfl⟩
  obtain ⟨r, hr⟩ := Option.isSome_iff_exists.mp hsome
  have hcode := List.find?_some hr
  exact ⟨r, List.mem_reverse.mp (List.mem_of_find?_eq_some hr), hr, of_decide_eq_true hcode⟩

/-- The last setting of a code is that of the last rule of the code. -/
theorem lastSetting_settings (clock : Nat → Nat) (code : BitVec 16) :
    FaultStore.lastSetting code (settings ctx nowMs clock m.debounceStates m.rules.zipIdx) =
      (m.lastRule code).map (m.active ctx nowMs) := by
  have hfind : ∀ rules : List Rule,
      (rules.findSome? fun r => if r.code = code then some (m.active ctx nowMs r) else none) =
        (rules.find? fun r => r.code = code).map (m.active ctx nowMs) := by
    intro rules
    induction rules with
    | nil => rfl
    | cons r rules ih =>
      rw [List.findSome?_cons, List.find?_cons]
      by_cases hcode : r.code = code
      · rw [if_pos hcode, decide_eq_true hcode]
        rfl
      · rw [if_neg hcode, decide_eq_false hcode]
        exact ih
  have hrules : m.rules.reverse = m.rules.zipIdx.reverse.map Prod.fst := by
    rw [List.map_reverse, List.zipIdx_map_fst]
  rw [lastRule, ← hfind, hrules, List.findSome?_map, FaultStore.lastSetting, settings,
    ← List.map_reverse, List.findSome?_map]
  rfl

/-- After a pass the code of a rule is what the last rule of the code says. -/
theorem active_applyAll {rule r : Rule} (hr : m.lastRule rule.code = some r)
    (clock : Nat → Nat) (s : FaultStore) :
    decide (rule.code ∈ (m.applyAll cat ctx nowMs clock s).2.center.active) =
      m.active ctx nowMs r := by
  rw [applyAll_eq, FaultStore.active_setAll, lastSetting_settings, hr]
  rfl

theorem anyRuleCounts_iff (clock : Nat → Nat) (s : FaultStore) :
    m.AnyRuleCounts ctx nowMs (m.applyAll cat ctx nowMs clock s).2 ↔
      ∀ rule ∈ m.rules, m.active ctx nowMs rule = true →
        (m.lastRule rule.code).any (m.active ctx nowMs) = true := by
  have hcode : ∀ rule ∈ m.rules,
      (rule.code ∈ (m.applyAll cat ctx nowMs clock s).2.center.active ↔
        (m.lastRule rule.code).any (m.active ctx nowMs) = true) := by
    intro rule hrule
    obtain ⟨r, -, hlast, -⟩ := lastRule_of_mem hrule
    have hactive := m.active_applyAll cat ctx nowMs hlast clock s
    rw [hlast, Option.any_some, ← hactive, decide_eq_true_iff]
  constructor
  · intro hany rule hrule hon
    exact (hcode rule hrule).mp ((hany rule hrule).mpr ⟨rule, hrule, rfl, hon⟩)
  · intro hlast rule hrule
    rw [hcode rule hrule]
    constructor
    · intro hon
      obtain ⟨r, hr, hfind, hsame⟩ := lastRule_of_mem hrule
      rw [hfind, Option.any_some] at hon
      exact ⟨r, hr, hsame, hon⟩
    · intro ⟨r, hr, hsame, hon⟩
      rw [← hsame]
      exact hlast r hr hon

/-- A second pass that leaves the states unchanged finds the same rules active. -/
theorem active_second {nowMs' : Nat} {clock clock' : Nat → Nat} {s s' : FaultStore}
    (h : ∀ key,
      ((m.applyAll cat ctx nowMs clock s).1.applyAll cat ctx nowMs' clock' s').1.debounceStates.at
        key = (m.applyAll cat ctx nowMs clock s).1.debounceStates.at key)
    {rule : Rule} (hrule : rule ∈ m.rules) :
    (m.applyAll cat ctx nowMs clock s).1.active ctx nowMs' rule = m.active ctx nowMs rule := by
  apply evalRule_congr
  have hkey := h rule.debounceKey
  rw [applyAll_eq, applyAll_eq] at hkey
  rw [applyAll_eq]
  simp only at hkey ⊢
  rw [at_statesAfter ctx nowMs' hrule] at hkey
  rw [hkey, at_statesAfter ctx nowMs hrule]

/-- The settings of a second pass over unchanged states are those of the first. -/
theorem settings_second {nowMs' : Nat} {clock clock' : Nat → Nat} {s s' : FaultStore}
    (h : ∀ key,
      ((m.applyAll cat ctx nowMs clock s).1.applyAll cat ctx nowMs' clock' s').1.debounceStates.at
        key = (m.applyAll cat ctx nowMs clock s).1.debounceStates.at key)
    {c : CodeSetting} (hc : c ∈ settings ctx nowMs' clock'
      (m.applyAll cat ctx nowMs clock s).1.debounceStates m.rules.zipIdx) :
    ∃ rule ∈ m.rules, c.code = rule.code ∧ c.on = m.active ctx nowMs rule := by
  obtain ⟨r, hr, he⟩ := List.mem_map.mp hc
  have hrule : r.1 ∈ m.rules := by
    rw [← List.zipIdx_map_fst 0 m.rules]
    exact List.mem_map_of_mem hr
  refine ⟨r.1, hrule, ?_, ?_⟩
  · rw [← he]
  · rw [← m.active_second cat ctx nowMs h hrule, ← he]
    rfl

/-- Every rule of a pass makes a setting. -/
theorem exists_setting {rule : Rule} (hrule : rule ∈ m.rules) (clock : Nat → Nat)
    (d : DebounceStates) : ∃ c ∈ settings ctx nowMs clock d m.rules.zipIdx,
      c.code = rule.code ∧ c.on = (evalRule ctx nowMs d rule).2 := by
  rw [← List.zipIdx_map_fst 0 m.rules] at hrule
  obtain ⟨r, hr, he⟩ := List.mem_map.mp hrule
  refine ⟨_, List.mem_map_of_mem hr, ?_, ?_⟩
  · rw [← he]
  · rw [← he]

/-- A pass repeated at the same time leaves the states as they are. -/
theorem at_applyAll_applyAll (clock clock' : Nat → Nat) (s s' : FaultStore) (key : DebounceKey) :
    ((m.applyAll cat ctx nowMs clock s).1.applyAll cat ctx nowMs clock' s').1.debounceStates.at
      key = (m.applyAll cat ctx nowMs clock s).1.debounceStates.at key := by
  rw [applyAll_eq, applyAll_eq]
  apply at_statesAfter_of_forall
  intro rule hrule
  rw [at_statesAfter ctx nowMs hrule, stepRule_stepRule]

/-- Where a second pass records nothing, each rule of a recorded code says what the code is. -/
theorem active_of_quiet {clock : Nat → Nat} {s : FaultStore}
    (hquiet : (m.applyAll cat ctx nowMs clock s).1.SecondPassQuiet cat ctx
      (m.applyAll cat ctx nowMs clock s).2) {rule : Rule} (hrule : rule ∈ m.rules)
    (hrec : shouldRecordToDb cat rule.code = true) :
    m.active ctx nowMs rule =
      decide (rule.code ∈ (m.applyAll cat ctx nowMs clock s).2.center.active) := by
  have hstates := m.at_applyAll_applyAll cat ctx nowMs clock clock s
    (m.applyAll cat ctx nowMs clock s).2
  have hsame := hquiet nowMs clock hstates
  obtain ⟨r, hr, hfind, -⟩ := lastRule_of_mem hrule
  have hfirst := m.active_applyAll cat ctx nowMs hfind clock s
  have hsecond := (m.applyAll cat ctx nowMs clock s).1.active_applyAll cat ctx nowMs hfind clock
    (m.applyAll cat ctx nowMs clock s).2
  rw [m.active_second cat ctx nowMs hstates hr] at hsecond
  rw [applyAll_eq cat (m.applyAll cat ctx nowMs clock s).1] at hsame hsecond
  have hrows := congrArg List.length hsame.2
  obtain ⟨-, hsettled⟩ := FaultStore.settled_of_rows hrows hrec
  obtain ⟨c, hc, hcode, hon⟩ := m.exists_setting ctx nowMs hrule clock
    (m.applyAll cat ctx nowMs clock s).1.debounceStates
  obtain ⟨hbefore, hafter⟩ := hsettled c hc hcode
  have hvalue : c.on = m.active ctx nowMs rule := by
    rw [hon, ← m.active_second cat ctx nowMs hstates hrule]
    rfl
  cases hactive : m.active ctx nowMs rule with
  | true =>
    rw [hactive] at hvalue
    exact (decide_eq_true (hbefore hvalue)).symm
  | false =>
    by_contra hmem
    have hlast : m.active ctx nowMs r = true := by
      rw [← hfirst]
      exact Bool.eq_true_of_not_eq_false fun e => hmem e.symm
    have hfinal := hafter (of_decide_eq_true (hsecond.trans hlast))
    rw [hvalue, hactive] at hfinal
    exact Bool.false_ne_true hfinal

/-- After a pass each code is active exactly when a rule of it is, and a second pass over an
unchanged situation records nothing, exactly when the last rule of a code is active wherever
one of them is, and the rules of a recorded code agree. -/
theorem applyAll_iff (clock : Nat → Nat) (s : FaultStore) :
    (m.AnyRuleCounts ctx nowMs (m.applyAll cat ctx nowMs clock s).2 ∧
      (m.applyAll cat ctx nowMs clock s).1.SecondPassQuiet cat ctx
        (m.applyAll cat ctx nowMs clock s).2) ↔
      m.RulesAgree cat ctx nowMs := by
  rw [anyRuleCounts_iff]
  constructor
  · intro ⟨hlast, hquiet⟩
    refine ⟨hlast, ?_⟩
    intro r hr r' hr' hcode hrec
    have hrec' : shouldRecordToDb cat r'.code = true := by rw [← hcode]; exact hrec
    rw [m.active_of_quiet cat ctx nowMs hquiet hr hrec,
      m.active_of_quiet cat ctx nowMs hquiet hr' hrec', hcode]
  · intro hagree
    refine ⟨hagree.last, ?_⟩
    intro nowMs' clock' hstates
    rw [applyAll_eq cat _ ctx nowMs']
    apply FaultStore.sameRecords_setAll
    intro c hc hrec
    obtain ⟨rule, hrule, hcode, hon⟩ := m.settings_second cat ctx nowMs hstates hc
    obtain ⟨r, hr, hfind, hsame⟩ := lastRule_of_mem hrule
    rw [hcode, m.active_applyAll cat ctx nowMs hfind, hon]
    rw [hcode, ← hsame] at hrec
    exact (hagree.recorded r hr rule hrule hsame hrec).symm

/-- Two rules of one code, of which only the first is active. -/
def sharedRules : FaultRuntimeMapper where
  rules := [⟨0x1000, .logic, "any_fault", 0⟩, ⟨0x1000, .logic, "sdcard_fault", 0⟩]

def anyFaultOnly : RuleContext where
  logicFaults := { anyFault := true }

/-- The code is not active, and each pass adds a row to the database. -/
theorem shared_code_flaps :
    let first := sharedRules.applyAll recordAll anyFaultOnly 0 (fun _ => 10) ⟨{}, {}⟩
    let second := first.1.applyAll recordAll anyFaultOnly 100 (fun _ => 110) first.2
    ¬ sharedRules.AnyRuleCounts anyFaultOnly 0 first.2 ∧
      ¬ first.1.SecondPassQuiet recordAll anyFaultOnly first.2 ∧
      first.2.db.rows.length = 1 ∧ second.2.db.rows.length = 2 := by
  intro first second
  have hone : first.2.db.rows.length = 1 := by decide
  have htwo : second.2.db.rows.length = 2 := by decide
  refine ⟨?_, ?_, hone, htwo⟩
  · unfold AnyRuleCounts
    decide
  · intro hquiet
    have hstates : ∀ key, second.1.debounceStates.at key = first.1.debounceStates.at key :=
      fun _ => rfl
    have hrows := congrArg List.length (hquiet 100 (fun _ => 110) hstates).2
    rw [hone] at hrows
    exact absurd (htwo.symm.trans hrows) (by decide)

end FaultRuntimeMapper
end Fault
end EnergyStorage
