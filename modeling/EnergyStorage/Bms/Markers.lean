import EnergyStorage.Bms.Intake

/-! # Marked codes

The table marks some codes of a measurement as invalid or abnormal, and the adapter
shows the measurement with a validity flag.  For each such measurement this file
finds the codes on which the flag is right. -/

namespace EnergyStorage
namespace Bms

open Lib
open BmsProto LogicAdapter TableRuntime FrameRouter

/-- The measurements with marked codes and a validity flag. -/
inductive Marked
  | soc | soh | packI | packV
  | insPosRes | insNegRes | insSysRes
  | tempMax | tempMin | tempAvg
  | maxUcell | minUcell | avgUcell
  | gun1DcPosTemp | gun1DcNegTemp | gun2DcPosTemp | gun2DcNegTemp | gunAcPosTemp | gunAcNegTemp
  deriving DecidableEq

namespace Marked

def group : Marked → BmsGroup
  | soc | soh | packI | packV => .st2
  | insPosRes | insNegRes | insSysRes => .st3
  | tempMax | tempMin | tempAvg => .st4
  | maxUcell | minUcell | avgUcell => .st5
  | gun1DcPosTemp | gun1DcNegTemp | gun2DcPosTemp | gun2DcNegTemp | gunAcPosTemp
  | gunAcNegTemp => .st7

def name : Marked → String
  | soc => "B2V_ST2_SOC"
  | soh => "B2V_ST2_SOH"
  | packI => "B2V_ST2_PackCurrent"
  | packV => "B2V_ST2_PackInsideVolt"
  | insPosRes => "B2V_ST3_PosInsRes"
  | insNegRes => "B2V_ST3_NegInsRes"
  | insSysRes => "B2V_ST3_SysInsRes"
  | tempMax => "B2V_ST4_Max_Temp"
  | tempMin => "B2V_ST4_Min_Temp"
  | tempAvg => "B2V_ST4_Avg_Temp"
  | maxUcell => "B2V_ST5_Max_Ucell"
  | minUcell => "B2V_ST5_Min_Ucell"
  | avgUcell => "B2V_ST5_Avg_Ucell"
  | gun1DcPosTemp => "B2V_ST7_Gun1DCPosTemp"
  | gun1DcNegTemp => "B2V_ST7_Gun1DCNegTemp"
  | gun2DcPosTemp => "B2V_ST7_Gun2DCPosTemp"
  | gun2DcNegTemp => "B2V_ST7_Gun2DCNegTemp"
  | gunAcPosTemp => "B2V_ST7_GunACPosTemp"
  | gunAcNegTemp => "B2V_ST7_GunACNegTemp"

def get (m : Marked) (x : BmsPerInstanceCache) : Reading :=
  match m with
  | soc => x.st2.soc
  | soh => x.st2.soh
  | packI => x.st2.packI
  | packV => x.st2.packV
  | insPosRes => x.st3.insPosRes
  | insNegRes => x.st3.insNegRes
  | insSysRes => x.st3.insSysRes
  | tempMax => x.st4.tempMax
  | tempMin => x.st4.tempMin
  | tempAvg => x.st4.tempAvg
  | maxUcell => x.st5.maxUcell
  | minUcell => x.st5.minUcell
  | avgUcell => x.st5.avgUcell
  | gun1DcPosTemp => x.st7.gun1DcPosTemp
  | gun1DcNegTemp => x.st7.gun1DcNegTemp
  | gun2DcPosTemp => x.st7.gun2DcPosTemp
  | gun2DcNegTemp => x.st7.gun2DcNegTemp
  | gunAcPosTemp => x.st7.gunAcPosTemp
  | gunAcNegTemp => x.st7.gunAcNegTemp

/-- The plausibility check the handler applies. -/
def check : Marked → ℚ → Bool
  | soc => isSocInvalid
  | soh => isSohInvalid
  | packI => isPackCurrentInvalid
  | packV => isPackVoltageInvalid
  | insPosRes | insNegRes | insSysRes => isInsResInvalid
  | tempMax | tempMin | tempAvg => isTempInvalid
  | _ => isNeverInvalid

/-- The codes on which the flag of the measurement is right. -/
def CodeOk : Marked → Nat → Prop
  | soc, _ | soh, _ | insPosRes, _ | insNegRes, _ | insSysRes, _ => True
  | packI, raw | packV, raw | maxUcell, raw | minUcell, raw | avgUcell, raw => raw ≠ 65535
  | tempMax, raw | tempMin, raw | tempAvg, raw => raw < 128 ∨ 196 ≤ raw ∧ raw ≤ 253
  | gun1DcPosTemp, raw | gun1DcNegTemp, raw | gun2DcPosTemp, raw | gun2DcNegTemp, raw
  | gunAcPosTemp, raw | gunAcNegTemp, raw => raw ≠ 255

/-- The table's entry for the measurement. -/
def signal (m : Marked) : SignalDef :=
  (findSignal (groupMessage m.group) m.name).get (by cases m <;> decide +kernel)

end Marked

/-! ### One code -/

/-- The table marks the code as invalid or abnormal. -/
def IsMarker (sig : SignalDef) (raw : Nat) : Prop :=
  ∃ e ∈ sig.enums, e.1 = raw ∧ (e.2 = "Signal Invalid" ∨ e.2 = "Abnormal")

instance (sig : SignalDef) (raw : Nat) : Decidable (IsMarker sig raw) :=
  inferInstanceAs (Decidable (∃ e ∈ sig.enums, _ ∧ _))

/-- The value the parser stores for a code. -/
def storedPhys (sig : SignalDef) (raw : Nat) : ℚ :=
  if SignFolded sig raw then physOf sig raw - 2 ^ sig.length * sig.factor else physOf sig raw

/-- The check refuses the code if it is marked and passes it if it is an ordinary code
in range. -/
def FlagRight (sig : SignalDef) (refused : ℚ → Bool) (raw : Nat) : Prop :=
  (IsMarker sig raw → refused (storedPhys sig raw) = true) ∧
    (¬ IsMarker sig raw → InRange sig raw → refused (storedPhys sig raw) = false)

instance (sig : SignalDef) (refused : ℚ → Bool) (raw : Nat) :
    Decidable (FlagRight sig refused raw) :=
  inferInstanceAs (Decidable ((_ → _) ∧ (_ → _ → _)))

/-- Everything of an entry that the flag depends on. -/
structure Coding where
  length : Nat
  factor : ℚ
  offset : ℚ
  min : ℚ
  max : ℚ
  enums : List (Nat × String)
  deriving DecidableEq

def codingOf (sig : SignalDef) : Coding :=
  ⟨sig.length, sig.factor, sig.offset, sig.min, sig.max, sig.enums⟩

theorem flagRight_congr {s t : SignalDef} (h : codingOf s = codingOf t) (refused : ℚ → Bool)
    (raw : Nat) : FlagRight s refused raw ↔ FlagRight t refused raw := by
  obtain ⟨_, _, _, _, _, _, _, _, _⟩ := s
  obtain ⟨_, _, _, _, _, _, _, _, _⟩ := t
  simp only [codingOf, Coding.mk.injEq] at h
  obtain ⟨rfl, rfl, rfl, rfl, rfl, rfl⟩ := h
  exact Iff.rfl

section Codes

variable {raw : Nat}

theorem storedPhys_of_nonneg {sig : SignalDef} (h : 0 ≤ sig.offset) (raw : Nat) :
    storedPhys sig raw = raw * sig.factor + sig.offset :=
  if_neg (not_signFolded_of_nonneg h raw)

/-- The checks of the measurements of one byte. -/
theorem byte_flagRight :
    (∀ raw < 256, FlagRight (.mk "" 0 8 0.4 0 0 100 [(255, "Signal Invalid")]) isSocInvalid raw) ∧
    (∀ raw < 256,
      FlagRight (.mk "" 0 8 1 (-40) (-40) 215 [(254, "Abnormal"), (255, "Signal Invalid")])
        isTempInvalid raw ↔ raw < 128 ∨ 196 ≤ raw ∧ raw ≤ 253) ∧
    ∀ raw < 256,
      FlagRight (.mk "" 0 8 1 (-40) (-40) 215 [(255, "Signal Invalid")]) isNeverInvalid raw ↔
        raw ≠ 255 := by
  decide +kernel

/-- A check that refuses no code in reach is right on the unmarked codes. -/
theorem flagRight_iff_of_passes {sig : SignalDef} {refused : ℚ → Bool}
    (h : refused (storedPhys sig raw) = false) :
    FlagRight sig refused raw ↔ ¬ IsMarker sig raw := by
  simp [FlagRight, h]

theorem isMarker_65535_iff {sig : SignalDef} (h : sig.enums = [(65535, "Signal Invalid")]) :
    IsMarker sig raw ↔ raw = 65535 := by
  simp [IsMarker, h, eq_comm]

theorem current_flagRight_iff (h : raw < 65536) :
    FlagRight (.mk "" 0 16 0.1 (-1000) (-1000) 1000 [(65535, "Signal Invalid")])
      isPackCurrentInvalid raw ↔ raw ≠ 65535 := by
  have hcast : (raw : ℚ) < 65536 := by exact_mod_cast h
  have hpos : (0 : ℚ) ≤ raw := Nat.cast_nonneg raw
  rw [flagRight_iff_of_passes, isMarker_65535_iff rfl]
  simp only [isPackCurrentInvalid, storedPhys, physOf, Bool.or_eq_false_iff]
  split
  · constructor <;> norm_num <;> linarith
  · constructor <;> norm_num <;> linarith

theorem voltage_flagRight_iff (h : raw < 65536) :
    FlagRight (.mk "" 0 16 0.1 0 0 65535 [(65535, "Signal Invalid")])
      isPackVoltageInvalid raw ↔ raw ≠ 65535 := by
  have hcast : (raw : ℚ) < 65536 := by exact_mod_cast h
  have hpos : (0 : ℚ) ≤ raw := Nat.cast_nonneg raw
  rw [flagRight_iff_of_passes, isMarker_65535_iff rfl]
  rw [storedPhys_of_nonneg (le_refl 0)]
  simp only [isPackVoltageInvalid, Bool.or_eq_false_iff, decide_eq_false_iff_not, not_lt]
  constructor <;> norm_num <;> linarith

theorem cell_flagRight_iff :
    FlagRight (.mk "" 0 16 0.001 0 0 65.535 [(65535, "Signal Invalid")]) isNeverInvalid raw ↔
      raw ≠ 65535 := by
  rw [flagRight_iff_of_passes rfl, isMarker_65535_iff rfl]

theorem resistance_flagRight :
    FlagRight (.mk "" 0 16 1 0 0 60000 [(65535, "Signal Invalid")]) isInsResInvalid raw := by
  rw [FlagRight, isMarker_65535_iff rfl, storedPhys_of_nonneg (le_refl 0)]
  simp only [InRange, physOf, isInsResInvalid]
  constructor
  · rintro rfl
    norm_num
  · intro _ hrange
    have hpos : (0 : ℚ) ≤ raw := Nat.cast_nonneg raw
    have hmax : (raw : ℚ) ≤ 60000 := by linarith [hrange.2]
    simp only [Bool.or_eq_false_iff, decide_eq_false_iff_not, not_lt]
    constructor <;> linarith

end Codes

/-! ### Frames -/

section Frames

open Marked

/-- The table gives all measurements of a kind one coding. -/
def pattern : Marked → SignalDef
  | soc | soh => .mk "" 0 8 0.4 0 0 100 [(255, "Signal Invalid")] byte_fits
  | packI => .mk "" 0 16 0.1 (-1000) (-1000) 1000 [(65535, "Signal Invalid")] word_fits
  | packV => .mk "" 0 16 0.1 0 0 65535 [(65535, "Signal Invalid")] word_fits
  | insPosRes | insNegRes | insSysRes =>
    .mk "" 0 16 1 0 0 60000 [(65535, "Signal Invalid")] word_fits
  | tempMax | tempMin | tempAvg =>
    .mk "" 0 8 1 (-40) (-40) 215 [(254, "Abnormal"), (255, "Signal Invalid")] byte_fits
  | maxUcell | minUcell | avgUcell =>
    .mk "" 0 16 0.001 0 0 65.535 [(65535, "Signal Invalid")] word_fits
  | _ => .mk "" 0 8 1 (-40) (-40) 215 [(255, "Signal Invalid")] byte_fits

/-- What the table says of each measurement. -/
theorem signal_facts (m : Marked) :
    codingOf m.signal = codingOf (pattern m) ∧ m.signal.name = m.name ∧
      m.signal ∈ (groupMessage m.group).signals ∧ IsPhysical m.signal ∧
      lastSignal (groupMessage m.group) m.name = some m.signal := by
  cases m <;> decide +kernel

theorem flagRight_iff_codeOk (m : Marked) {raw : Nat} (h : raw < 2 ^ m.signal.length) :
    FlagRight m.signal m.check raw ↔ m.CodeOk raw := by
  have hlen : m.signal.length = (pattern m).length :=
    congrArg Coding.length (signal_facts m).1
  rw [hlen] at h
  rw [flagRight_congr (signal_facts m).1]
  cases m with
  | soc | soh => exact iff_true_intro (byte_flagRight.1 raw h)
  | packI => exact current_flagRight_iff h
  | packV => exact voltage_flagRight_iff h
  | insPosRes | insNegRes | insSysRes => exact iff_true_intro resistance_flagRight
  | tempMax | tempMin | tempAvg => exact byte_flagRight.2.1 raw h
  | maxUcell | minUcell | avgUcell => exact cell_flagRight_iff
  | gun1DcPosTemp | gun1DcNegTemp | gun2DcPosTemp | gun2DcNegTemp | gunAcPosTemp
  | gunAcNegTemp => exact byte_flagRight.2.2 raw h

/-- The entry's reading is the decoded quantity behind the check. -/
theorem get_of_fills (m : Marked) {c : Content} {tsMs : Nat} {old new : BmsPerInstanceCache}
    (h : c.Fills m.group tsMs old new) : ∃ r, m.get new = c.reading m.name m.check r := by
  cases m with
  | soc | soh | packV => exact ⟨_, by rw [Marked.get, show new.st2 = _ from h]; rfl⟩
  | packI => exact ⟨_, by rw [Marked.get, show new.st2 = _ from h]; rfl⟩
  | insPosRes | insNegRes | insSysRes =>
    exact ⟨_, by rw [Marked.get, show new.st3 = _ from h]; rfl⟩
  | tempMax | tempMin | tempAvg =>
    exact ⟨_, by rw [Marked.get, show new.st4 = _ from h]; rfl⟩
  | maxUcell | minUcell | avgUcell =>
    exact ⟨{}, by rw [Marked.get, show new.st5 = _ from h]; rfl⟩
  | gun1DcPosTemp | gun1DcNegTemp | gun2DcPosTemp | gun2DcNegTemp | gunAcPosTemp
  | gunAcNegTemp => exact ⟨{}, by rw [Marked.get, show new.st7 = _ from h]; rfl⟩

theorem quantity_signal (m : Marked) {fr : CanFrame} (hfr : Carries fr (groupMessage m.group)) :
    parsedNum fr (groupMessage m.group) m.signal =
        some (storedPhys m.signal (rawOf fr.data m.signal).toNat) ∧
      (contentOf (groupMessage m.group) fr.data).quantity m.name =
        storedPhys m.signal (rawOf fr.data m.signal).toNat := by
  obtain ⟨-, hname, hmem, hphys, hlast⟩ := signal_facts m
  have hraw := rawToPhys_eq (rawOf_lt fr.data m.signal)
  refine ⟨?_, ?_⟩
  · rw [parsedNum_eq hfr hmem hphys (by rw [hname]; exact hlast), hraw]
    rfl
  · simp only [contentOf, hlast, Option.bind_some, storedNum_of_kind hphys.kind,
      Option.getD_some]
    exact hraw

/-- After the frame the flag tells marked codes from ordinary ones, and an ordinary code
is shown as it was decoded. -/
def FlagTells (m : Marked) (fr : CanFrame) (tsMs : Nat) (cache : BmsLogicCache) : Prop :=
  ∃ d, parse fr = some d ∧ ∃ x, (onDeviceData d tsMs cache).items.get
      (makeInstanceName (extractInstanceIndex fr.id29)) = some x ∧
    (IsMarker m.signal (rawOf fr.data m.signal).toNat → (m.get x).valid = false) ∧
    (¬ IsMarker m.signal (rawOf fr.data m.signal).toNat →
      InRange m.signal (rawOf fr.data m.signal).toNat →
      (m.get x).valid = true ∧
        parsedNum fr (groupMessage m.group) m.signal = some (m.get x).value)

theorem group_ne_fire2b (m : Marked) : m.group ≠ .fire2b := by
  cases m <;> decide

/-- For every measurement with a flag, every frame and every cache: the flag is right
exactly on the codes `CodeOk` lists. -/
theorem flagTells_iff (m : Marked) (fr : CanFrame) (hfr : Carries fr (groupMessage m.group))
    (tsMs : Nat) (cache : BmsLogicCache) :
    FlagTells m fr tsMs cache ↔ m.CodeOk (rawOf fr.data m.signal).toNat := by
  have hmem := groupMessage_mem m.group
  obtain ⟨hparsed, hquantity⟩ := quantity_signal m hfr
  rw [← flagRight_iff_codeOk m (rawOf_lt fr.data m.signal), FlagRight]
  have hget : ∃ x, (onDeviceData (parseMessage fr (groupMessage m.group)) tsMs cache).items.get
      (makeInstanceName (extractInstanceIndex fr.id29)) = some x ∧
      ∃ r, m.get x = (contentOf (groupMessage m.group) fr.data).reading m.name m.check r := by
    refine ⟨_, ?_, get_of_fills m (receive_updated (group_ne_fire2b m) fr tsMs
      (cache.ensure (makeInstanceName (extractInstanceIndex fr.id29))
        (parseInstanceIndex (parseMessage fr (groupMessage m.group))))).fields⟩
    rw [get_onDeviceData, if_pos ((addressed_parseMessage hmem fr _).mpr rfl)]
  obtain ⟨x, hx, r, hr⟩ := hget
  have hread : m.get x =
      if m.check (storedPhys m.signal (rawOf fr.data m.signal).toNat) then
        { r with valid := false }
      else ⟨true, storedPhys m.signal (rawOf fr.data m.signal).toNat⟩ := by
    rw [hr, Content.reading, Content.measured, hquantity]
  have hvalid : (m.get x).valid =
      !m.check (storedPhys m.signal (rawOf fr.data m.signal).toNat) := by
    rw [hread]
    cases m.check (storedPhys m.signal (rawOf fr.data m.signal).toNat) <;> rfl
  have hvalue : (m.get x).valid = true →
      parsedNum fr (groupMessage m.group) m.signal = some (m.get x).value := by
    intro h
    rw [hvalid, Bool.not_eq_true'] at h
    rw [hparsed, hread, h]
    rfl
  constructor
  · rintro ⟨d, hd, y, hy, hmark, hplain⟩
    obtain rfl := Option.some_inj.mp (hfr.parse.symm.trans hd)
    obtain rfl := Option.some_inj.mp (hx.symm.trans hy)
    refine ⟨fun h => ?_, fun h hrange => ?_⟩
    · have := hmark h
      rwa [hvalid, Bool.not_eq_false'] at this
    · have := (hplain h hrange).1
      rwa [hvalid, Bool.not_eq_true'] at this
  · rintro ⟨hmark, hplain⟩
    refine ⟨_, hfr.parse, x, hx, fun h => ?_, fun h hrange => ?_⟩
    · rw [hvalid, hmark h]
      rfl
    · have hv : (m.get x).valid = true := by
        rw [hvalid, hplain h hrange]
        rfl
      exact ⟨hv, hvalue hv⟩

theorem flagTells_mild_cell : FlagTells tempMax (st4Frame 60) 100 {} :=
  (flagTells_iff tempMax (st4Frame 60) (st4Frame_carries 60) 100 {}).mpr
    (Or.inl (by decide +kernel))

/-- A current marked invalid is shown as a valid one. -/
theorem marked_shown_valid :
    Carries (extendedFrame 0x1884E105#32 0xFFFF0000#64) (groupMessage .st2) ∧
      IsMarker packI.signal
        (rawOf (extendedFrame 0x1884E105#32 0xFFFF0000#64).data packI.signal).toNat ∧
      (parse (extendedFrame 0x1884E105#32 0xFFFF0000#64)).isSome = true ∧
      ∀ d ∈ parse (extendedFrame 0x1884E105#32 0xFFFF0000#64),
        ∀ x ∈ (onDeviceData d 100 {}).items.get "BMS_1",
          x.st2.packI = ⟨true, -1000.1⟩ := by
  decide +kernel

/-- The names the adapter shows with a flag. -/
def flaggedNames : BmsGroup → List String
  | .st2 => ["B2V_ST2_SOC", "B2V_ST2_SOH", "B2V_ST2_PackInsideVolt", "B2V_ST2_PackCurrent"]
  | .st3 => ["B2V_ST3_PosInsRes", "B2V_ST3_NegInsRes", "B2V_ST3_SysInsRes",
      "B2V_ST3_InsDetectorSt"]
  | .st4 => ["B2V_ST4_Max_Temp", "B2V_ST4_Min_Temp", "B2V_ST4_Avg_Temp",
      "B2V_ST4_MaxTemp_Position", "B2V_ST4_MinTemp_Position"]
  | .st5 => ["B2V_ST5_Max_Ucell", "B2V_ST5_Min_Ucell", "B2V_ST5_Avg_Ucell"]
  | .st7 => ["B2V_ST7_Gun1DCPosTemp", "B2V_ST7_Gun1DCNegTemp", "B2V_ST7_Gun2DCPosTemp",
      "B2V_ST7_Gun2DCNegTemp", "B2V_ST7_GunACPosTemp", "B2V_ST7_GunACNegTemp"]
  | .elecEnergy => ["B2V_TotChgEnergy", "B2V_TotDischgEnergy", "B2V_SingleChgEnergy"]
  | .currentLimit => ["B2V_AvailInpulseDischrgCurr", "B2V_AvailInpulseChrgCurr",
      "B2V_AvailFollowChrgCurr", "B2V_AvailFollowDishrgCurr"]
  | .fire2b => ["Fire_Max_Tmp", "Fire_Max_Gus", "Fire_Max_Fog"]
  | _ => []

def allMarked : List Marked :=
  [soc, soh, packI, packV, insPosRes, insNegRes, insSysRes, tempMax, tempMin, tempAvg,
    maxUcell, minUcell, avgUcell, gun1DcPosTemp, gun1DcNegTemp, gun2DcPosTemp, gun2DcNegTemp,
    gunAcPosTemp, gunAcNegTemp]

/-- No flagged signal with a marked code is left out. -/
theorem allMarked_complete (g : BmsGroup) : ∀ sig ∈ (groupMessage g).signals,
    sig.name ∈ flaggedNames g →
    (∃ e ∈ sig.enums, e.2 = "Signal Invalid" ∨ e.2 = "Abnormal") →
    ∃ m ∈ allMarked, m.group = g ∧ m.signal = sig := by
  cases g <;> decide +kernel

end Frames

end Bms
end EnergyStorage
