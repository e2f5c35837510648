import EnergyStorage.Control.Business
import EnergyStorage.Pcu.Tx

/-! # The two readings of the gun inputs

The business layer takes an analog channel of more than 8 V for a plugged gun, the telegrams to
the PCUs one of less than 8 V.  No voltage is plugged for both. -/

namespace EnergyStorage
namespace Pcu

open Logic (LogicContext testDi)
open Control (BusinessEngine)
open Control.BusinessEngine (gunByAdc)

def gunDiChannels : List Nat := [13, 14, 15, 16, 17, 18]

/-- What the business layer and the telegrams make of the guns in one tick go together. -/
structure GunsAgree (b : BusinessEngine) (ctx : LogicContext) : Prop where
  channel : ∀ ch ∈ [1, 2],
    gunByAdc ctx.ai ch = isPlugByAdcForPcu (readAiVoltageForPcu ctx.ai ch)
  plugState : (∀ ch ∈ gunDiChannels, testDi ctx.diBits ch = false) →
    ((pcuTxContent ctx).plugState = true ↔ gunByAdc ctx.ai 1 = true ∨ gunByAdc ctx.ai 2 = true)
  powerOn : b.outHvOn = false → (b.decideHv ctx).outHvOn = true →
    (∀ ch ∈ gunDiChannels, testDi ctx.diBits ch = true) ∧
      ∀ ch ∈ [1, 2], isPlugByAdcForPcu (readAiVoltageForPcu ctx.ai ch) = true

/-- A channel on which neither reading sees a gun: it is not sampled, or holds hardly any voltage
or the threshold itself. -/
def SeenByNeither (ai : List ℚ) (ch : Nat) : Prop :=
  ∀ v, ai[ch - 1]? = some v → v ≤ 1 / 100 ∨ v = 8

theorem isPlugByAdcForPcu_iff (v : ℚ) : isPlugByAdcForPcu v = true ↔ 1 / 100 < v ∧ v < 8 := by
  rw [isPlugByAdcForPcu, Bool.and_eq_true, decide_eq_true_iff, decide_eq_true_iff]
  rfl

/-- The two readings of a channel exclude each other. -/
theorem channel_agrees_iff (ai : List ℚ) {ch : Nat} (hch : 1 ≤ ch) :
    gunByAdc ai ch = isPlugByAdcForPcu (readAiVoltageForPcu ai ch) ↔ SeenByNeither ai ch := by
  have hpos : ¬ ch < 1 := by omega
  rw [gunByAdc, BusinessEngine.readAiVoltage, readAiVoltageForPcu, if_neg hpos, if_neg hpos,
    SeenByNeither]
  cases hv : ai[ch - 1]? with
  | none =>
    refine iff_of_true ?_ fun v hv => by cases hv
    exact (Bool.eq_false_iff.mpr fun h =>
      absurd ((isPlugByAdcForPcu_iff 0).mp h).1 (by norm_num)).symm
  | some v =>
    rw [Option.any_some, Option.getD_some, Bool.eq_iff_iff, decide_eq_true_iff,
      isPlugByAdcForPcu_iff]
    constructor
    · intro hiff v' hv'
      obtain rfl := Option.some_inj.mp hv'
      by_contra hneither
      obtain ⟨hlow, hne⟩ := not_or.mp hneither
      obtain hless | hmore := lt_or_gt_of_ne hne
      · exact absurd (hiff.mpr ⟨not_le.mp hlow, hless⟩) (not_lt.mpr hless.le)
      · exact absurd (hiff.mp hmore).2 (not_lt.mpr hmore.le)
    · intro h
      obtain hlow | rfl := h v rfl
      · refine iff_of_false (fun hmore => ?_) fun hplug => absurd hplug.1 (not_lt.mpr hlow)
        exact absurd (hmore.trans_le hlow) (by norm_num)
      · exact iff_of_false (lt_irrefl _) fun hplug => absurd hplug.2 (lt_irrefl _)

theorem gunByAdc_of_powerOn {b : BusinessEngine} {ctx : LogicContext} (hoff : b.outHvOn = false)
    (hon : (b.decideHv ctx).outHvOn = true) :
    BusinessEngine.gunStateAllOk ctx = true := by
  obtain hwas | hready := (b.decideHv_outHvOn ctx).mp hon
  · rw [hoff] at hwas
    cases hwas
  · rw [BusinessEngine.powerOnReady, Bool.and_eq_true, Bool.and_eq_true, Bool.and_eq_true]
      at hready
    exact hready.1.1.1

theorem gunStateAllOk_iff (ctx : LogicContext) :
    BusinessEngine.gunStateAllOk ctx = true ↔
      (∀ ch ∈ gunDiChannels, testDi ctx.diBits ch = true) ∧
        ∀ ch ∈ [1, 2], gunByAdc ctx.ai ch = true := by
  rw [BusinessEngine.gunStateAllOk, Bool.and_eq_true, List.all_eq_true, List.all_eq_true]
  rfl

theorem plugState_iff (ctx : LogicContext) :
    (pcuTxContent ctx).plugState = true ↔
      (∃ ch ∈ gunDiChannels, testDi ctx.diBits ch = true) ∨
        ∃ ch ∈ [1, 2], isPlugByAdcForPcu (readAiVoltageForPcu ctx.ai ch) = true := by
  show calcPcuPlugState ctx = true ↔ _
  rw [calcPcuPlugState, Bool.or_eq_true, List.any_eq_true, List.any_eq_true]
  rfl

/-- The two readings go together exactly in the ticks in which neither sees a gun on an analog
channel. -/
theorem gunsAgree_iff (b : BusinessEngine) (ctx : LogicContext) :
    GunsAgree b ctx ↔
      ∀ ch ∈ [1, 2], ∀ v, ctx.ai[ch - 1]? = some v → v ≤ 1 / 100 ∨ v = 8 := by
  have hchannels : ∀ ch ∈ [1, 2], 1 ≤ ch := by decide
  constructor
  · intro h ch hch
    exact (channel_agrees_iff ctx.ai (hchannels ch hch)).mp (h.channel ch hch)
  · intro h
    have hagree : ∀ ch ∈ [1, 2],
        gunByAdc ctx.ai ch = isPlugByAdcForPcu (readAiVoltageForPcu ctx.ai ch) := fun ch hch =>
      (channel_agrees_iff ctx.ai (hchannels ch hch)).mpr (h ch hch)
    refine ⟨hagree, fun hdi => ?_, fun hoff hon => ?_⟩
    · rw [plugState_iff, hagree 1 (by decide), hagree 2 (by decide)]
      constructor
      · rintro (⟨ch, hch, hon⟩ | ⟨ch, hch, hplug⟩)
        · rw [hdi ch hch] at hon
          cases hon
        · obtain rfl | hch := List.mem_cons.mp hch
          · exact Or.inl hplug
          · obtain rfl := List.mem_singleton.mp hch
            exact Or.inr hplug
      · rintro (hplug | hplug)
        · exact Or.inr ⟨1, by decide, hplug⟩
        · exact Or.inr ⟨2, by decide, hplug⟩
    · obtain ⟨hdi, hadc⟩ := (gunStateAllOk_iff ctx).mp (gunByAdc_of_powerOn hoff hon)
      refine ⟨hdi, fun ch hch => ?_⟩
      rw [← hagree ch hch]
      exact hadc ch hch

/-- Every gun input is on, with 12 V on the analog channels, and the batteries report high
voltage. -/
def poweredContext : LogicContext where
  diBits := 0b111111000000000000
  ai := [12, 12]
  bmsCache :=
    { items := fun name =>
        if name ∈ ["BMS_1", "BMS_2", "BMS_3", "BMS_4"] then some { st1 := { bmsHvStatus := 1 } }
        else none }

/-- High voltage is requested with two channels that the telegrams count as unplugged. -/
theorem powered_unplugged :
    (BusinessEngine.decideHv {} poweredContext).outHvOn = true ∧
      isPlugByAdcForPcu (readAiVoltageForPcu poweredContext.ai 1) = false ∧
      isPlugByAdcForPcu (readAiVoltageForPcu poweredContext.ai 2) = false ∧
      ¬ GunsAgree {} poweredContext := by
  have hon : (BusinessEngine.decideHv {} poweredContext).outHvOn = true := by decide
  have hunplugged : isPlugByAdcForPcu 12 = false := Bool.eq_false_iff.mpr fun h =>
    absurd ((isPlugByAdcForPcu_iff 12).mp h).2 (by norm_num)
  refine ⟨hon, hunplugged, hunplugged, fun h => ?_⟩
  have hplugged := (h.powerOn rfl hon).2 1 (by decide)
  exact Bool.false_ne_true (hunplugged.symm.trans hplugged)

end Pcu
end EnergyStorage
