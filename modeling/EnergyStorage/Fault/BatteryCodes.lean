import EnergyStorage.Bms.FaultEvaluator
import EnergyStorage.Fault.SharedCodes

/-! # The fault codes of the batteries

The mapper gives each confirmed signal of a battery its code, the rules of the fault map set
theirs after it.  What the code of a signal says after a refresh is told from the cache of its
battery alone. -/

namespace EnergyStorage
namespace Fault

open Lib
open Bms (BmsLogicCache BmsPerInstanceCache)
open Bms.BmsCommandManager (instances)
open Bms.BmsFaultEvaluator

namespace BmsFaultMapper

/-- The codes of BMS_1 with the signals they stand for, in the order they are set. -/
def mappedSignals : List (BitVec 16 × String) :=
  [(0x2000#16, "cell_overvoltage_lvl1"), (0x2001#16, "cell_overvoltage_lvl2"),
    (0x2002#16, "cell_overvoltage_lvl3"), (0x2003#16, "cell_undervoltage_lvl1"),
    (0x2004#16, "cell_undervoltage_lvl2"), (0x2005#16, "cell_undervoltage_lvl3"),
    (0x2006#16, "cell_overdischarge_fault"), (0x2007#16, "total_voltage_overvoltage_lvl1"),
    (0x2008#16, "total_voltage_overvoltage_lvl2"), (0x2009#16, "total_voltage_overvoltage_lvl3"),
    (0x200A#16, "total_voltage_undervoltage_lvl1"), (0x200B#16, "total_voltage_undervoltage_lvl2"),
    (0x200C#16, "total_voltage_undervoltage_lvl3"), (0x200D#16, "cell_overtemp_lvl1"),
    (0x200E#16, "cell_overtemp_lvl2"), (0x200F#16, "cell_overtemp_lvl3"),
    (0x2010#16, "cell_lowtemp_alarm"), (0x2011#16, "temp_diff_over_lvl1"),
    (0x2012#16, "temp_diff_over_lvl2"), (0x2013#16, "temp_diff_over_lvl3"),
    (0x2014#16, "fire_alarm"), (0x2015#16, "pulse_discharge_current_overflow_lvl1"),
    (0x2016#16, "pulse_discharge_current_overflow_lvl2"),
    (0x2017#16, "pulse_discharge_current_overflow_lvl3"),
    (0x2018#16, "pulse_charge_current_overflow_lvl1"),
    (0x2019#16, "pulse_charge_current_overflow_lvl2"),
    (0x201A#16, "pulse_charge_current_overflow_lvl3"), (0x201B#16, "current_sensor_fault"),
    (0x201C#16, "low_voltage_supply_alarm"), (0x201D#16, "soc_imbalance_alarm"),
    (0x201E#16, "soc_jump_alarm"), (0x201F#16, "soc_low_lvl1"), (0x2020#16, "soc_low_lvl2"),
    (0x2021#16, "soc_low_lvl3"), (0x2022#16, "tms_unit_fault"),
    (0x2023#16, "battery_self_protect_fault"), (0x2024#16, "precharge_fault"),
    (0x2025#16, "driving_insulation_low_lvl1"), (0x2026#16, "driving_insulation_low_lvl2"),
    (0x2027#16, "driving_insulation_low_lvl3"), (0x2028#16, "charge_insulation_low_alarm"),
    (0x2029#16, "acan_comm_fault"), (0x202A#16, "internal_comm_fault"),
    (0x202B#16, "branch_circuit_open_fault"), (0x202C#16, "hvil_alarm"),
    (0x202D#16, "heat_relay_open_fault"), (0x202E#16, "heat_relay_weld_fault"),
    (0x202F#16, "main_pos_relay_open_fault"), (0x2030#16, "main_pos_relay_weld_fault"),
    (0x2031#16, "main_neg_relay_open_fault"), (0x2032#16, "main_neg_relay_weld_fault"),
    (0x2033#16, "dc_chrg_pos1_relay_open_fault"), (0x2034#16, "dc_chrg_pos1_relay_weld_fault"),
    (0x2035#16, "dc_chrg_neg1_relay_open_fault"), (0x2036#16, "dc_chrg_neg1_relay_weld_fault"),
    (0x2037#16, "dc_chrg_pos2_relay_open_fault"), (0x2038#16, "dc_chrg_pos2_relay_weld_fault"),
    (0x2039#16, "dc_chrg_neg2_relay_open_fault"), (0x203A#16, "dc_chrg_neg2_relay_weld_fault"),
    (0x203B#16, "charge_gun_connection_abnormal"), (0x203C#16, "storage_mismatch_alarm"),
    (0x203D#16, "charge_discharge_current_overflow"), (0x203E#16, "charge_current_overflow_alarm"),
    (0x203F#16, "charge_connector_ntc_fault"), (0x2040#16, "charge_connector_overtemp_lvl1"),
    (0x2041#16, "charge_connector_overtemp_lvl2"), (0x2042#16, "cell_consistency_poor_alarm"),
    (0x2043#16, "soc_high_alarm"), (0x2044#16, "internal_hv_circuit_open_fault"),
    (0x2082#16, "tms_panel_aircon_fault"), (0x208B#16, "tms_ats_water_pump_fault")]

/-- Another instance than the four keeps the code of the first. -/
def codeByInst (inst : Nat) (bms1Code : BitVec 16) : BitVec 16 :=
  if inst < 1 ∨ 4 < inst then bms1Code else bms1Code + BitVec.ofNat 16 ((inst - 1) * 0x100)

def confirmedOn (signals : ConfirmedSignals) (inst : Nat) (signal : String) : Bool :=
  (signals.get (Bms.BmsFaultEvaluator.makeSignalKey inst signal)).getD false

/-- The settings of one instance; the clock shows `clock code` when `code` is set. -/
def settings (signals : ConfirmedSignals) (clock : BitVec 16 → Nat) (inst : Nat) :
    List CodeSetting :=
  mappedSignals.map fun p =>
    ⟨codeByInst inst p.1, confirmedOn signals inst p.2, clock (codeByInst inst p.1)⟩

def applyToFaultPages (cat : FaultCatalog) (signals : ConfirmedSignals)
    (clock : BitVec 16 → Nat) (s : FaultStore) : FaultStore :=
  s.setAll cat (instances.flatMap (settings signals clock))

/-! ### Codes and signals -/

theorem codes_nodup : (mappedSignals.map Prod.fst).Nodup := by decide

theorem code_range {p : BitVec 16 × String} (hp : p ∈ mappedSignals) :
    0x2000 ≤ p.1.toNat ∧ p.1.toNat < 0x2100 := by
  have hall : (mappedSignals.all fun p => 0x2000 ≤ p.1.toNat && p.1.toNat < 0x2100) = true := by
    decide
  have hrange := List.all_eq_true.mp hall p hp
  rw [Bool.and_eq_true, decide_eq_true_eq, decide_eq_true_eq] at hrange
  exact hrange

theorem mem_instances {inst : Nat} (h : inst ∈ instances) : 1 ≤ inst ∧ inst ≤ 4 := by
  have hcases : inst = 1 ∨ inst = 2 ∨ inst = 3 ∨ inst = 4 := by simpa [instances] using h
  omega

theorem toNat_codeByInst {inst : Nat} (hinst : inst ∈ instances) {p : BitVec 16 × String}
    (hp : p ∈ mappedSignals) :
    (codeByInst inst p.1).toNat = p.1.toNat + (inst - 1) * 0x100 := by
  have hrange := code_range hp
  have hbounds := mem_instances hinst
  rw [codeByInst, if_neg (by omega), BitVec.toNat_add, BitVec.toNat_ofNat]
  omega

/-- The code tells the battery and the signal. -/
theorem codeByInst_inj {a b : Nat} (ha : a ∈ instances) (hb : b ∈ instances)
    {p q : BitVec 16 × String} (hp : p ∈ mappedSignals) (hq : q ∈ mappedSignals)
    (h : codeByInst a p.1 = codeByInst b q.1) : a = b ∧ p = q := by
  have hcodes := congrArg BitVec.toNat h
  rw [toNat_codeByInst ha hp, toNat_codeByInst hb hq] at hcodes
  have hprange := code_range hp
  have hqrange := code_range hq
  have habounds := mem_instances ha
  have hbbounds := mem_instances hb
  have hsame : p.1 = q.1 := BitVec.eq_of_toNat_eq (by omega)
  exact ⟨by omega, List.inj_on_of_nodup_map codes_nodup hp hq hsame⟩

/-- Each mapped signal is one that the evaluator writes. -/
theorem exists_evaluated {p : BitVec 16 × String} (hp : p ∈ mappedSignals)
    (x : BmsPerInstanceCache) (nowMs : Nat) : ∃ on, (p.2, on) ∈ evaluated x nowMs := by
  have hnames : ∀ s ∈ mappedSignals.map Prod.snd, s ∈ (evaluated x nowMs).map Prod.fst := by
    simp only [evaluated, fault1Levels, fault1Bits, fault2Levels, fault2Bits, setLevel3,
      setLevel2, List.map_append, List.map_cons, List.map_nil]
    decide
  obtain ⟨q, hq, hname⟩ := List.mem_map.mp (hnames p.2 (List.mem_map_of_mem hp))
  exact ⟨q.2, hname ▸ hq⟩

theorem mem_implemented {p : BitVec 16 × String} (hp : p ∈ mappedSignals) :
    p.2 ∈ kImplementedBmsSignals := by
  -- the two codes at the end stand out of the order of the evaluator
  have hfirst : ((mappedSignals.take 69).map Prod.snd).Sublist kImplementedBmsSignals := by decide
  have hlast : ∀ s ∈ (mappedSignals.drop 69).map Prod.snd, s ∈ kImplementedBmsSignals := by decide
  rw [← List.take_append_drop 69 mappedSignals, List.mem_append] at hp
  rcases hp with hp | hp
  · exact hfirst.subset (List.mem_map_of_mem hp)
  · exact hlast p.2 (List.mem_map_of_mem hp)

/-- The battery has been seen, and the evaluator confirms the signal. -/
def Signalled (cache : BmsLogicCache) (nowMs inst : Nat) (signal : String) : Prop :=
  ∃ x, cache.items.get (makeInstName inst) = some x ∧ x.seenOnce = true ∧
    (signal, true) ∈ evaluated x nowMs

theorem confirmedOn_evaluateAll {inst : Nat} (hinst : inst ∈ instances)
    {p : BitVec 16 × String} (hp : p ∈ mappedSignals) (cache : BmsLogicCache) (nowMs : Nat)
    (signals : ConfirmedSignals) :
    confirmedOn (evaluateAll cache nowMs signals) inst p.2 = true ↔
      Signalled cache nowMs inst p.2 := by
  have hcleared : (∀ x, cache.items.get (makeInstName inst) = some x → ¬ x.seenOnce = true) →
      (confirmedOn (evaluateAll cache nowMs signals) inst p.2 = true ↔
        Signalled cache nowMs inst p.2) := by
    intro hunseen
    have hget : (evaluateAll cache nowMs signals).get
        (Bms.BmsFaultEvaluator.makeSignalKey inst p.2) = some false := by
      apply get_evaluateAll hinst
      intro signals
      unfold evaluateOne
      cases hx : cache.items.get (makeInstName inst) with
      | none => exact get_clearInstSignals hinst (mem_implemented hp) signals
      | some x =>
        dsimp only
        rw [if_pos (hunseen x hx)]
        exact get_clearInstSignals hinst (mem_implemented hp) signals
    rw [confirmedOn, hget]
    constructor
    · intro h
      cases h
    · rintro ⟨x, hx, hseen, -⟩
      exact absurd hseen (hunseen x hx)
  cases hx : cache.items.get (makeInstName inst) with
  | none =>
    apply hcleared
    intro x hx'
    rw [hx] at hx'
    cases hx'
  | some x =>
    by_cases hseen : x.seenOnce = true
    · obtain ⟨on, hon⟩ := exists_evaluated hp x nowMs
      have hget : (evaluateAll cache nowMs signals).get
          (Bms.BmsFaultEvaluator.makeSignalKey inst p.2) = some on := by
        apply get_evaluateAll hinst
        intro signals
        rw [hx]
        show (if ¬ x.seenOnce = true then _ else _ : ConfirmedSignals).get _ = _
        rw [if_neg (not_not.mpr hseen)]
        exact get_foldl_evaluated hinst hon signals
      rw [confirmedOn, hget]
      constructor
      · intro htrue
        have hval : on = true := htrue
        exact ⟨x, hx, hseen, hval ▸ hon⟩
      · rintro ⟨y, hy, -, htrue⟩
        have hxy : x = y := Option.some_inj.mp (hx.symm.trans hy)
        rw [← hxy] at htrue
        have heq : (p.2, on) = (p.2, true) :=
          List.inj_on_of_nodup_map (evaluated_nodup x nowMs) hon htrue rfl
        exact (Prod.mk.inj heq).2
    · apply hcleared
      intro y hy
      rw [hx] at hy
      cases hy
      exact hseen

/-! ### The settings of a refresh -/

theorem lastSetting_eq_none {code : BitVec 16} {cs : List CodeSetting}
    (h : ∀ c ∈ cs, c.code ≠ code) : FaultStore.lastSetting code cs = none := by
  rw [FaultStore.lastSetting, List.findSome?_eq_none_iff]
  intro c hc
  exact if_neg (h c (List.mem_reverse.mp hc))

theorem lastSetting_eq_some {code : BitVec 16} {cs : List CodeSetting} {c : CodeSetting}
    (hc : c ∈ cs) (hcode : c.code = code) (hall : ∀ d ∈ cs, d.code = code → d.on = c.on) :
    FaultStore.lastSetting code cs = some c.on := by
  cases hlast : FaultStore.lastSetting code cs with
  | none =>
    rw [FaultStore.lastSetting, List.findSome?_eq_none_iff] at hlast
    have hnone := hlast c (List.mem_reverse.mpr hc)
    rw [if_pos hcode] at hnone
    cases hnone
  | some on =>
    obtain ⟨d, hd, hset⟩ := List.exists_of_findSome?_eq_some hlast
    split_ifs at hset with hdcode
    rw [← hall d (List.mem_reverse.mp hd) hdcode]
    exact hset.symm

/-- A code is one of the mapper's. -/
def IsBatteryCode (code : BitVec 16) : Prop :=
  ∃ inst ∈ instances, ∃ p ∈ mappedSignals, code = codeByInst inst p.1

variable (signals : ConfirmedSignals) (clock : BitVec 16 → Nat)

theorem mem_settings {c : CodeSetting}
    (h : c ∈ instances.flatMap (settings signals clock)) :
    ∃ inst ∈ instances, ∃ p ∈ mappedSignals, c.code = codeByInst inst p.1 ∧
      c.on = confirmedOn signals inst p.2 := by
  obtain ⟨inst, hinst, hc⟩ := List.mem_flatMap.mp h
  obtain ⟨p, hp, rfl⟩ := List.mem_map.mp hc
  exact ⟨inst, hinst, p, hp, rfl, rfl⟩

theorem lastSetting_settings {inst : Nat} (hinst : inst ∈ instances) {p : BitVec 16 × String}
    (hp : p ∈ mappedSignals) :
    FaultStore.lastSetting (codeByInst inst p.1) (instances.flatMap (settings signals clock)) =
      some (confirmedOn signals inst p.2) := by
  have hmem : (⟨codeByInst inst p.1, confirmedOn signals inst p.2,
      clock (codeByInst inst p.1)⟩ : CodeSetting) ∈ instances.flatMap (settings signals clock) :=
    List.mem_flatMap.mpr ⟨inst, hinst, List.mem_map_of_mem hp⟩
  apply lastSetting_eq_some hmem rfl
  intro d hd hcode
  obtain ⟨b, hb, q, hq, hdcode, hdon⟩ := mem_settings signals clock hd
  obtain ⟨hsame, hpq⟩ := codeByInst_inj hb hinst hq hp (hdcode.symm.trans hcode)
  rw [hdon, hsame, hpq]

theorem lastSetting_settings_of_not {code : BitVec 16} (h : ¬ IsBatteryCode code) :
    FaultStore.lastSetting code (instances.flatMap (settings signals clock)) = none := by
  apply lastSetting_eq_none
  intro c hc hcode
  obtain ⟨inst, hinst, p, hp, hccode, -⟩ := mem_settings signals clock hc
  exact h ⟨inst, hinst, p, hp, hcode.symm.trans hccode⟩

end BmsFaultMapper

/-! ### Refreshes -/

open BmsFaultMapper

/-- What a refresh of the fault pages reads. -/
structure RefreshInput where
  cache : BmsLogicCache
  ruleContext : RuleContext
  nowMs : Nat
  bmsClock : BitVec 16 → Nat
  ruleClock : Nat → Nat

structure FaultRefresh where
  signals : ConfirmedSignals := .empty
  mapper : FaultRuntimeMapper
  store : FaultStore

variable (cat : FaultCatalog)

/-- `refreshFaultPagesOnly` up to the pages: the evaluator of the batteries, their mapper, and the
rules of the fault map. -/
def FaultRefresh.refresh (s : FaultRefresh) (e : RefreshInput) : FaultRefresh :=
  let signals := evaluateAll e.cache e.nowMs s.signals
  let store := applyToFaultPages cat signals e.bmsClock s.store
  let applied := s.mapper.applyAll cat e.ruleContext e.nowMs e.ruleClock store
  ⟨signals, applied.1, applied.2⟩

def faultRefresh (s : FaultRefresh) : Machine FaultRefresh RefreshInput Unit where
  start := s
  step := fun s e => (s.refresh cat e, [])

/-- A code after a refresh: the last rule of the fault map that has it decides, else the mapper of
the batteries. -/
theorem active_refresh (s : FaultRefresh) (e : RefreshInput) (code : BitVec 16) :
    decide (code ∈ (s.refresh cat e).store.center.active) =
      ((s.mapper.lastRule code).map (s.mapper.active e.ruleContext e.nowMs)).getD
        ((FaultStore.lastSetting code (instances.flatMap
          (BmsFaultMapper.settings (evaluateAll e.cache e.nowMs s.signals) e.bmsClock))).getD
            (decide (code ∈ s.store.center.active))) := by
  rw [FaultRefresh.refresh]
  dsimp only
  rw [FaultRuntimeMapper.applyAll_eq, FaultStore.active_setAll,
    FaultRuntimeMapper.lastSetting_settings, applyToFaultPages, FaultStore.active_setAll]

theorem lastRule_run (s : FaultRefresh) (es : List RefreshInput) (code : BitVec 16) :
    ((faultRefresh cat s).run es).mapper.lastRule code = s.mapper.lastRule code := by
  induction es using List.reverseRecOn with
  | nil => rfl
  | append_singleton es e ih =>
    rw [Machine.run_snoc]
    show ((((faultRefresh cat s).run es).refresh cat e).mapper).lastRule code = _
    rw [FaultRefresh.refresh]
    dsimp only
    rw [FaultRuntimeMapper.applyAll_eq]
    exact ih

/-! ### Levels -/

/-- The first code of each fault with three levels. -/
def levelCodes : List (BitVec 16) :=
  [0x2000#16, 0x2003#16, 0x2007#16, 0x200A#16, 0x200D#16, 0x2011#16, 0x2015#16, 0x2018#16,
    0x201F#16, 0x2025#16]

theorem fault1Levels_subset (x : BmsPerInstanceCache) (nowMs : Nat) :
    fault1Levels x x.online ⊆ evaluated x nowMs := by
  intro p hp
  simp only [evaluated, List.mem_append, hp, true_or]

theorem fault2Levels_subset (x : BmsPerInstanceCache) (nowMs : Nat) :
    fault2Levels x x.online ⊆ evaluated x nowMs := by
  intro p hp
  simp only [evaluated, List.mem_append, hp, true_or, or_true]

/-- The three signals of a fault with levels stand for one level in the cache. -/
theorem exists_level {base : BitVec 16} (hbase : base ∈ levelCodes) (x : BmsPerInstanceCache)
    (nowMs : Nat) :
    ∃ lvl1 lvl2 lvl3 level, (base, lvl1) ∈ mappedSignals ∧ (base + 1#16, lvl2) ∈ mappedSignals ∧
      (base + 2#16, lvl3) ∈ mappedSignals ∧ setLevel3 lvl1 lvl2 lvl3 level ⊆ evaluated x nowMs := by
  let level (l : Int) : Int := if x.online then l else 0
  simp only [levelCodes, List.mem_cons, List.not_mem_nil, or_false] at hbase
  rcases hbase with rfl | rfl | rfl | rfl | rfl | rfl | rfl | rfl | rfl | rfl
  · exact ⟨"cell_overvoltage_lvl1", "cell_overvoltage_lvl2",
      "cell_overvoltage_lvl3", level x.fault1.overUcell, by decide, by decide, by decide,
      fun p hp => fault1Levels_subset x nowMs (by
        simp only [fault1Levels, List.mem_append]
        simp only [level] at hp
        simp only [hp, true_or])⟩
  · exact ⟨"cell_undervoltage_lvl1", "cell_undervoltage_lvl2",
      "cell_undervoltage_lvl3", level x.fault1.lowUcell, by decide, by decide, by decide,
      fun p hp => fault1Levels_subset x nowMs (by
        simp only [fault1Levels, List.mem_append]
        simp only [level] at hp
        simp only [hp, true_or, or_true])⟩
  · exact ⟨"total_voltage_overvoltage_lvl1", "total_voltage_overvoltage_lvl2",
      "total_voltage_overvoltage_lvl3", level x.fault1.packOverHvolt, by decide,
      by decide, by decide,
      fun p hp => fault1Levels_subset x nowMs (by
        simp only [fault1Levels, List.mem_append]
        simp only [level] at hp
        simp only [hp, true_or, or_true])⟩
  · exact ⟨"total_voltage_undervoltage_lvl1", "total_voltage_undervoltage_lvl2",
      "total_voltage_undervoltage_lvl3", level x.fault1.packLowHvolt, by decide,
      by decide, by decide,
      fun p hp => fault1Levels_subset x nowMs (by
        simp only [fault1Levels, List.mem_append]
        simp only [level] at hp
        simp only [hp, true_or, or_true])⟩
  · exact ⟨"cell_overtemp_lvl1", "cell_overtemp_lvl2",
      "cell_overtemp_lvl3", level x.fault1.overTemp, by decide, by decide, by decide,
      fun p hp => fault1Levels_subset x nowMs (by
        simp only [fault1Levels, List.mem_append]
        simp only [level] at hp
        simp only [hp, true_or, or_true])⟩
  · exact ⟨"temp_diff_over_lvl1", "temp_diff_over_lvl2",
      "temp_diff_over_lvl3", level x.fault1.delTemp, by decide, by decide, by decide,
      fun p hp => fault1Levels_subset x nowMs (by
        simp only [fault1Levels, List.mem_append]
        simp only [level] at hp
        simp only [hp, true_or, or_true])⟩
  · exact ⟨"pulse_discharge_current_overflow_lvl1", "pulse_discharge_current_overflow_lvl2",
      "pulse_discharge_current_overflow_lvl3", level x.fault2.overDischrgCurrLevel, by decide,
      by decide, by decide,
      fun p hp => fault2Levels_subset x nowMs (by
        simp only [fault2Levels, List.mem_append]
        simp only [level] at hp
        simp only [hp, true_or])⟩
  · exact ⟨"pulse_charge_current_overflow_lvl1", "pulse_charge_current_overflow_lvl2",
      "pulse_charge_current_overflow_lvl3", level x.fault2.overChrgCurrInDriveLevel, by decide,
      by decide, by decide,
      fun p hp => fault2Levels_subset x nowMs (by
        simp only [fault2Levels, List.mem_append]
        simp only [level] at hp
        simp only [hp, true_or, or_true])⟩
  · exact ⟨"soc_low_lvl1", "soc_low_lvl2",
      "soc_low_lvl3", level x.fault1.lowSoc, by decide, by decide, by decide,
      fun p hp => fault1Levels_subset x nowMs (by
        simp only [fault1Levels, List.mem_append]
        simp only [level] at hp
        simp only [hp, true_or, or_true])⟩
  · exact ⟨"driving_insulation_low_lvl1", "driving_insulation_low_lvl2",
      "driving_insulation_low_lvl3", level x.fault1.lowInsRes, by decide, by decide, by decide,
      fun p hp => fault1Levels_subset x nowMs (by
        simp only [fault1Levels, List.mem_append]
        simp only [level] at hp
        simp only [hp, or_true])⟩

/-- The same with the signals and codes counted from the first. -/
theorem exists_signals {base : BitVec 16} (hbase : base ∈ levelCodes) (x : BmsPerInstanceCache)
    (nowMs : Nat) :
    ∃ (signal : Nat → String) (level : Int), ∀ k < 3,
      (base + BitVec.ofNat 16 k, signal k) ∈ mappedSignals ∧
        (signal k, decide (level = k + 1)) ∈ evaluated x nowMs := by
  obtain ⟨lvl1, lvl2, lvl3, level, h1, h2, h3, hsub⟩ := exists_level hbase x nowMs
  refine ⟨fun k => if k = 0 then lvl1 else if k = 1 then lvl2 else lvl3, level, ?_⟩
  intro k hk
  have hcases : k = 0 ∨ k = 1 ∨ k = 2 := by omega
  rcases hcases with rfl | rfl | rfl
  · exact ⟨(BitVec.add_zero base).symm ▸ h1, hsub List.mem_cons_self⟩
  · exact ⟨h2, hsub (List.mem_cons_of_mem _ List.mem_cons_self)⟩
  · exact ⟨h3, hsub (List.mem_cons_of_mem _ (List.mem_cons_of_mem _ List.mem_cons_self))⟩

/-- What is written as true of a signal. -/
theorem evaluated_unique {x : BmsPerInstanceCache} {nowMs : Nat} {signal : String} {on : Bool}
    (hon : (signal, on) ∈ evaluated x nowMs) (h : (signal, true) ∈ evaluated x nowMs) :
    on = true :=
  (Prod.mk.inj (List.inj_on_of_nodup_map (evaluated_nodup x nowMs) hon h rfl)).2

/-! ### Whole runs -/

section Run

variable (s : FaultRefresh) (es : List RefreshInput) (e : RefreshInput)

/-- The code of a signal that no rule has is active after a refresh exactly when the evaluator
confirms the signal. -/
theorem active_iff_signalled {inst : Nat} (hinst : inst ∈ instances) {p : BitVec 16 × String}
    (hp : p ∈ mappedSignals) (hfree : s.mapper.lastRule (codeByInst inst p.1) = none) :
    codeByInst inst p.1 ∈ ((faultRefresh cat s).run (es ++ [e])).store.center.active ↔
      Signalled e.cache e.nowMs inst p.2 := by
  have hactive := active_refresh cat ((faultRefresh cat s).run es) e (codeByInst inst p.1)
  rw [lastRule_run, hfree, BmsFaultMapper.lastSetting_settings _ _ hinst hp] at hactive
  rw [Machine.run_snoc, ← confirmedOn_evaluateAll hinst hp e.cache e.nowMs
    ((faultRefresh cat s).run es).signals]
  rw [← decide_eq_true_iff (p := codeByInst inst p.1 ∈ _)]
  exact Eq.congr_left hactive

/-- Whatever was refreshed before, after a refresh the codes of a battery tell what its own cache
says: a code is active exactly when the battery has been seen and its signal is confirmed, and of
the codes of one fault with levels at most one is.  Other codes that no rule has stay as they
were. -/
theorem battery_codes :
    (∀ inst ∈ instances, ∀ p ∈ mappedSignals,
      s.mapper.lastRule (codeByInst inst p.1) = none →
      (codeByInst inst p.1 ∈ ((faultRefresh cat s).run (es ++ [e])).store.center.active ↔
        Signalled e.cache e.nowMs inst p.2)) ∧
    (∀ inst ∈ instances, ∀ base ∈ levelCodes,
      (∀ k < 3, s.mapper.lastRule (codeByInst inst (base + BitVec.ofNat 16 k)) = none) →
      ∀ j < 3, ∀ k < 3,
        codeByInst inst (base + BitVec.ofNat 16 j) ∈
          ((faultRefresh cat s).run (es ++ [e])).store.center.active →
        codeByInst inst (base + BitVec.ofNat 16 k) ∈
          ((faultRefresh cat s).run (es ++ [e])).store.center.active → j = k) ∧
    ∀ code, ¬ IsBatteryCode code → s.mapper.lastRule code = none →
      (code ∈ ((faultRefresh cat s).run (es ++ [e])).store.center.active ↔
        code ∈ s.store.center.active) := by
  refine ⟨fun inst hinst p hp hfree => active_iff_signalled cat s es e hinst hp hfree, ?_, ?_⟩
  · intro inst hinst base hbase hfree j hj k hk hjon hkon
    have hunknown : ∀ x, e.cache.items.get (makeInstName inst) = some x →
        ∃ level : Int, ∀ n < 3, codeByInst inst (base + BitVec.ofNat 16 n) ∈
          ((faultRefresh cat s).run (es ++ [e])).store.center.active → level = n + 1 := by
      intro x hx
      obtain ⟨signal, level, hsignals⟩ := exists_signals hbase x e.nowMs
      refine ⟨level, ?_⟩
      intro n hn hon
      obtain ⟨hmapped, hlevel⟩ := hsignals n hn
      obtain ⟨y, hy, -, htrue⟩ := (active_iff_signalled cat s es e hinst hmapped
        (hfree n hn)).mp hon
      have hxy : x = y := Option.some_inj.mp (hx.symm.trans hy)
      rw [← hxy] at htrue
      exact of_decide_eq_true (evaluated_unique hlevel htrue)
    cases hx : e.cache.items.get (makeInstName inst) with
    | none =>
      -- an unknown battery has no code
      obtain ⟨signal, level, hsignals⟩ := exists_signals hbase {} e.nowMs
      obtain ⟨y, hy, -⟩ := (active_iff_signalled cat s es e hinst (hsignals j hj).1
        (hfree j hj)).mp hjon
      rw [hx] at hy
      cases hy
    | some x =>
      obtain ⟨level, hlevel⟩ := hunknown x hx
      have hj1 := hlevel j hj hjon
      have hk1 := hlevel k hk hkon
      omega
  · intro code hcode hfree
    induction es using List.reverseRecOn generalizing e with
    | nil =>
      have hactive := active_refresh cat s e code
      rw [hfree, lastSetting_settings_of_not _ _ hcode] at hactive
      exact decide_eq_decide.mp hactive
    | append_singleton es d ih =>
      have hactive := active_refresh cat ((faultRefresh cat s).run (es ++ [d])) e code
      rw [lastRule_run, hfree, lastSetting_settings_of_not _ _ hcode] at hactive
      rw [Machine.run_snoc]
      exact (decide_eq_decide.mp hactive).trans (ih d)

end Run

/-- BMS_2 reports an overvoltage of the second level. -/
def overvoltage : RefreshInput where
  cache :=
    { items := Dict.empty.insert "BMS_2"
        { seenOnce := true, online := true, fault1 := { overUcell := 2 } } }
  ruleContext := {}
  nowMs := 10
  bmsClock := fun _ => 10
  ruleClock := fun _ => 10

/-- No rules, and no fault yet. -/
def noFaults : FaultRefresh where
  mapper := {}
  store := ⟨{}, {}⟩

theorem battery_codes_overvoltage :
    0x2101#16 ∈ ((faultRefresh (fun _ => none) noFaults).run [overvoltage]).store.center.active ∧
      0x2102#16 ∉
        ((faultRefresh (fun _ => none) noFaults).run [overvoltage]).store.center.active := by
  have hfree : ∀ code, noFaults.mapper.lastRule code = none := fun _ => rfl
  have hsignalled : Signalled overvoltage.cache overvoltage.nowMs 2 "cell_overvoltage_lvl2" := by
    refine ⟨_, rfl, rfl, fault1Levels_subset _ _ ?_⟩
    simp only [fault1Levels, setLevel3, List.mem_append]
    decide
  obtain ⟨hcodes, hlevels, -⟩ := battery_codes (fun _ => none) noFaults [] overvoltage
  rw [List.nil_append] at hlevels
  have hsecond : codeByInst 2 (0x2000#16 + BitVec.ofNat 16 1) = 0x2101#16 := by decide
  have hthird : codeByInst 2 (0x2000#16 + BitVec.ofNat 16 2) = 0x2102#16 := by decide
  have hmapped : (0x2000#16 + BitVec.ofNat 16 1, "cell_overvoltage_lvl2") ∈ mappedSignals := by
    decide
  have hcode := hcodes 2 (by decide) _ hmapped (hfree _)
  have honly := hlevels 2 (by decide) 0x2000#16 (by decide) (fun _ _ => hfree _) 1 (by decide) 2
    (by decide)
  rw [hsecond, List.nil_append] at hcode
  rw [hsecond, hthird] at honly
  generalize ((faultRefresh (fun _ => none) noFaults).run [overvoltage]).store.center.active =
    active at hcode honly ⊢
  have hon := hcode.mpr hsignalled
  refine ⟨hon, ?_⟩
  intro hmem
  cases honly hon hmem

end Fault
end EnergyStorage
