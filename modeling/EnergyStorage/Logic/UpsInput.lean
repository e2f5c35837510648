import EnergyStorage.Fault.DeviceSignals
import EnergyStorage.Logic.DeviceInput

/-! # What the UPS reports

The UPS answers three questions in turn.  `Q1` and `WA` bring a word of status bits each, `Q6`
the warnings and the faults; the record keeps the latest word of each kind beside the flags that
are read off them. -/

namespace EnergyStorage
namespace Logic

structure UpsRecord extends Fault.UpsFaultState where
  seenOnce : Bool := false
  lastRxMs : Nat := 0
  (q1Seen q6Seen waSeen : Bool := false)
  (workMode batteryLow bypassActive upsFaultCode : Int := 0)
  (q1StatusBits waStatusBits warningBits : BitVec 32 := 0)
  (faultCode1 faultCode2 faultCode3 faultCode4 : Int := 0)
  batteryOverchargePersist : Bool := false

/-- The answer that a message holds: `1` for `Q1`, `2` for `Q6`, `3` for `WA`. -/
def upsCmd (d : DeviceData) : Int := (d.value.get "__ups_cmd").getD 0

def statusU32 (d : DeviceData) (key : String) : BitVec 32 :=
  BitVec.ofNat 32 ((d.status.get key).getD 0)

def valueI32 (d : DeviceData) (key : String) (defv : Int) : Int := (d.value.get key).getD defv

/-- The warnings of the latest `Q6` are in the record, the status bits of the other kind too. -/
def applyStatusBits (bits : BitVec 32) (u : UpsRecord) : UpsRecord :=
  { u with
    batteryLowState := bits.getLsbD 6
    bypassMode := bits.getLsbD 5
    upsFaultState := bits.getLsbD 4
    backupMode := bits.getLsbD 3
    selfTestActive := bits.getLsbD 2
    mainsAbnormal := bits.getLsbD 7 || u.warningBits.getLsbD 3 }

def applyWarningBits (w : BitVec 32) (u : UpsRecord) : UpsRecord :=
  { u with
    warningBits := w
    mainsAbnormal := w.getLsbD 3 || u.q1StatusBits.getLsbD 7 || u.waStatusBits.getLsbD 7
    internalWarning := w.getLsbD 0
    epoActive := w.getLsbD 1
    moduleUnlock := w.getLsbD 2
    neutralLost := w.getLsbD 4
    mainsPhaseError := w.getLsbD 5
    lnReverse := w.getLsbD 6
    bypassAbnormal := w.getLsbD 7
    bypassPhaseError := w.getLsbD 8
    batteryNotConnected := w.getLsbD 9
    batteryLowWarning := w.getLsbD 10
    batteryOvercharge := w.getLsbD 11
    batteryReverse := w.getLsbD 12
    overloadWarning := w.getLsbD 13
    overloadAlarm := w.getLsbD 14
    fanFault := w.getLsbD 15
    bypassCoverOpen := w.getLsbD 16
    chargerFault := w.getLsbD 17
    positionError := w.getLsbD 18
    bootConditionNotMet := w.getLsbD 19
    redundancyLost := w.getLsbD 20
    moduleLoose := w.getLsbD 21
    batteryMaintDue := w.getLsbD 22
    inspectionMaintDue := w.getLsbD 23
    warrantyMaintDue := w.getLsbD 24
    tempLowWarning := w.getLsbD 25
    tempHighWarning := w.getLsbD 26
    batteryOvertemp := w.getLsbD 27
    fanMaintDue := w.getLsbD 28
    busCapMaintDue := w.getLsbD 29
    systemOverload := w.getLsbD 30
    reservedWarning := w.getLsbD 31 }

def applyFaultCodes (c1 c2 c3 c4 : Int) (u : UpsRecord) : UpsRecord :=
  let hasFault := fun code : Int => decide (c1 = code ∨ c2 = code ∨ c3 = code ∨ c4 = code)
  { u with
    faultCode1 := c1
    faultCode2 := c2
    faultCode3 := c3
    faultCode4 := c4
    busSoftstartTimeout := hasFault 1
    busOvervoltageFault := hasFault 2
    busUndervoltageFault := hasFault 3
    busImbalanceFault := hasFault 4
    busShortCircuit := hasFault 5
    invSoftstartTimeout := hasFault 6
    invOvervoltageFault := hasFault 7
    invUndervoltageFault := hasFault 8
    outputShortCircuit := hasFault 9
    rInvShortCircuit := hasFault 10
    sInvShortCircuit := hasFault 11
    tInvShortCircuit := hasFault 12
    rsShortCircuit := hasFault 13
    stShortCircuit := hasFault 14
    trShortCircuit := hasFault 15
    reversePowerFault := hasFault 16
    rReversePowerFault := hasFault 17
    sReversePowerFault := hasFault 18
    tReversePowerFault := hasFault 19
    totalReversePowerFault := hasFault 20
    currentImbalanceFault := hasFault 21
    overloadFault := hasFault 22
    overtempFault := hasFault 23
    invRelayFailClose := hasFault 24
    invRelayStuck := hasFault 25
    mainsScrFault := hasFault 26
    batteryScrFault := hasFault 27
    bypassScrFault := hasFault 28
    rectifierFault := hasFault 29
    inputOvercurrentFault := hasFault 30
    wiringError := hasFault 31
    commCableDisconnected := hasFault 32
    hostCableFault := hasFault 33
    canCommFault := hasFault 34
    syncSignalFault := hasFault 35
    powerSupplyFault := hasFault 36
    allFanFault := hasFault 37
    dspError := hasFault 38
    chargerSoftstartTimeout := hasFault 39
    allModuleFault := hasFault 40
    mainsNtcOpenFault := hasFault 41
    mainsFuseOpenFault := hasFault 42
    outputImbalanceFault := hasFault 43
    inputMismatchFault := hasFault 44
    eepromDataLost := hasFault 45
    mainsSupportFailed := hasFault 46
    powerFailed := hasFault 47
    systemOverloadFault := hasFault 48
    ads7869Error := hasFault 49
    bypassModeNoOp := hasFault 50
    opBreakerOffParallel := hasFault 51
    rBusFuseFault := hasFault 52
    sBusFuseFault := hasFault 53
    tBusFuseFault := hasFault 54
    ntcFault := hasFault 55
    parallelCableFault := hasFault 56
    batteryFault := hasFault 57
    frequentOvercurrentFault := hasFault 58
    batteryOverchargeFault := hasFault 59
    epoCriticalFault := hasFault 60
    batteryOverchargePersist := false }

def onUpsQ1 (d : DeviceData) (u : UpsRecord) : UpsRecord :=
  let bits := statusU32 d "q1.status.bits"
  applyStatusBits bits { u with q1Seen := true, q1StatusBits := bits }

def onUpsWa (d : DeviceData) (u : UpsRecord) : UpsRecord :=
  let bits := statusU32 d "wa.status.bits"
  applyStatusBits bits { u with waSeen := true, waStatusBits := bits }

def onUpsQ6 (d : DeviceData) (u : UpsRecord) : UpsRecord :=
  let faultBits := statusU32 d "fault.bits"
  let u := { u with q6Seen := true, workMode := valueI32 d "system.mode" u.workMode }
  let u := applyWarningBits (statusU32 d "warning.bits") u
  let u := { u with faultBits := faultBits, upsFaultCode := faultBits.toInt }
  applyFaultCodes (valueI32 d "fault.code.1" 0) (valueI32 d "fault.code.2" 0)
    (valueI32 d "fault.code.3" 0) (valueI32 d "fault.code.4" 0) u

/-- What every message of the UPS ends with. -/
def summariseUps (u : UpsRecord) : UpsRecord :=
  { u with
    batteryLow := if u.batteryLowState then 1 else 0
    bypassActive := if u.bypassMode then 1 else 0
    alarmAny := u.mainsAbnormal || u.batteryLowState || u.bypassMode || u.warningBits != 0
    faultAny := u.upsFaultState || u.faultBits != 0 }

def applyUpsCmd (d : DeviceData) (u : UpsRecord) : UpsRecord :=
  if upsCmd d = 1 then onUpsQ1 d u
  else if upsCmd d = 2 then onUpsQ6 d u
  else if upsCmd d = 3 then onUpsWa d u
  else u

def onUpsData (d : DeviceData) (ts : Nat) (u : UpsRecord) : UpsRecord :=
  summariseUps (applyUpsCmd d { u with seenOnce := true, online := true, lastRxMs := ts })

/-- The record after the messages `ms`, oldest first. -/
def upsAfter (ms : List (DeviceData × Nat)) : UpsRecord :=
  ms.foldl (fun u m => onUpsData m.1 m.2 u) {}

/-! ### The latest message of each kind -/

/-- The word under `key` in the latest message of the kind, `0` before the first one. -/
def latestWord (cmd : Int) (key : String) (ms : List (DeviceData × Nat)) : BitVec 32 :=
  ((ms.filter fun m => decide (upsCmd m.1 = cmd)).getLast?).elim 0 fun m => statusU32 m.1 key

/-- The kind of the latest message that is of one of the three. -/
def latestKind (ms : List (DeviceData × Nat)) : Option Int :=
  ((ms.map fun m => upsCmd m.1).filter fun c => decide (c = 1 ∨ c = 2 ∨ c = 3)).getLast?

/-- The latest message of the kind reports abnormal mains. -/
def q1Mains (ms : List (DeviceData × Nat)) : Bool := (latestWord 1 "q1.status.bits" ms).getLsbD 7

def waMains (ms : List (DeviceData × Nat)) : Bool := (latestWord 3 "wa.status.bits" ms).getLsbD 7

def q6Mains (ms : List (DeviceData × Nat)) : Bool := (latestWord 2 "warning.bits" ms).getLsbD 3

/-- The latest status word is normal, the warnings too, and the other status word is not: the
handler of the one has written over what the other reports. -/
def MainsHidden (ms : List (DeviceData × Nat)) : Prop :=
  q6Mains ms = false ∧
    (latestKind ms = some 1 ∧ q1Mains ms = false ∧ waMains ms = true ∨
      latestKind ms = some 3 ∧ waMains ms = false ∧ q1Mains ms = true)

theorem latestWord_snoc (cmd : Int) (key : String) (ms : List (DeviceData × Nat))
    (m : DeviceData × Nat) :
    latestWord cmd key (ms ++ [m]) =
      if upsCmd m.1 = cmd then statusU32 m.1 key else latestWord cmd key ms := by
  unfold latestWord
  rw [List.filter_append, List.filter_singleton]
  by_cases hcmd : upsCmd m.1 = cmd
  · rw [if_pos hcmd, decide_eq_true hcmd, cond_true, List.getLast?_concat]
    rfl
  · rw [if_neg hcmd, decide_eq_false hcmd, cond_false, List.append_nil]

theorem latestKind_snoc (ms : List (DeviceData × Nat)) (m : DeviceData × Nat) :
    latestKind (ms ++ [m]) =
      if upsCmd m.1 = 1 ∨ upsCmd m.1 = 2 ∨ upsCmd m.1 = 3 then some (upsCmd m.1)
      else latestKind ms := by
  unfold latestKind
  rw [List.map_append, List.filter_append, List.map_singleton, List.filter_singleton]
  by_cases hcmd : upsCmd m.1 = 1 ∨ upsCmd m.1 = 2 ∨ upsCmd m.1 = 3
  · rw [if_pos hcmd, decide_eq_true hcmd, cond_true, List.getLast?_concat]
  · rw [if_neg hcmd, decide_eq_false hcmd, cond_false, List.append_nil]

theorem upsAfter_snoc (ms : List (DeviceData × Nat)) (m : DeviceData × Nat) :
    upsAfter (ms ++ [m]) = onUpsData m.1 m.2 (upsAfter ms) := by
  unfold upsAfter
  rw [List.foldl_append]
  rfl

/-- The record holds the latest words, and the flag is what the latest handler has made of
them. -/
structure UpsTracks (ms : List (DeviceData × Nat)) (u : UpsRecord) : Prop where
  q1 : u.q1StatusBits = latestWord 1 "q1.status.bits" ms
  wa : u.waStatusBits = latestWord 3 "wa.status.bits" ms
  q6 : u.warningBits = latestWord 2 "warning.bits" ms
  mains : u.mainsAbnormal =
    if latestKind ms = some 1 then q1Mains ms || q6Mains ms
    else if latestKind ms = some 3 then waMains ms || q6Mains ms
    else q6Mains ms || q1Mains ms || waMains ms

theorem UpsTracks.snoc {ms : List (DeviceData × Nat)} {u : UpsRecord} (h : UpsTracks ms u)
    (m : DeviceData × Nat) : UpsTracks (ms ++ [m]) (onUpsData m.1 m.2 u) := by
  have hq1 := latestWord_snoc 1 "q1.status.bits" ms m
  have hwa := latestWord_snoc 3 "wa.status.bits" ms m
  have hq6 := latestWord_snoc 2 "warning.bits" ms m
  have hkind := latestKind_snoc ms m
  unfold onUpsData
  by_cases h1 : upsCmd m.1 = 1
  · rw [h1] at hq1 hwa hq6 hkind
    rw [applyUpsCmd, if_pos h1]
    refine ⟨hq1.symm, h.wa.trans hwa.symm, h.q6.trans hq6.symm, ?_⟩
    show ((statusU32 m.1 "q1.status.bits").getLsbD 7 || u.warningBits.getLsbD 3) = _
    have hother : latestKind (ms ++ [m]) = some 1 := hkind
    rw [if_pos hother, q1Mains, q6Mains, hq1, hq6, h.q6]
    rfl
  by_cases h2 : upsCmd m.1 = 2
  · rw [h2] at hq1 hwa hq6 hkind
    rw [applyUpsCmd, if_neg h1, if_pos h2]
    refine ⟨h.q1.trans hq1.symm, h.wa.trans hwa.symm, hq6.symm, ?_⟩
    show ((statusU32 m.1 "warning.bits").getLsbD 3 || u.q1StatusBits.getLsbD 7 ||
      u.waStatusBits.getLsbD 7) = _
    have hother : latestKind (ms ++ [m]) = some 2 := hkind
    rw [hother, if_neg (by decide), if_neg (by decide), q1Mains, q6Mains, waMains, hq1, hq6, hwa,
      h.q1, h.wa]
    rfl
  by_cases h3 : upsCmd m.1 = 3
  · rw [h3] at hq1 hwa hq6 hkind
    rw [applyUpsCmd, if_neg h1, if_neg h2, if_pos h3]
    refine ⟨h.q1.trans hq1.symm, hwa.symm, h.q6.trans hq6.symm, ?_⟩
    show ((statusU32 m.1 "wa.status.bits").getLsbD 7 || u.warningBits.getLsbD 3) = _
    have hother : latestKind (ms ++ [m]) = some 3 := hkind
    rw [hother, if_neg (by decide), if_pos rfl, waMains, q6Mains, hwa, hq6, h.q6]
    rfl
  -- a message of no kind leaves the words and the flag
  · rw [if_neg h1] at hq1
    rw [if_neg h3] at hwa
    rw [if_neg h2] at hq6
    have hnone : ¬ (upsCmd m.1 = 1 ∨ upsCmd m.1 = 2 ∨ upsCmd m.1 = 3) := by
      rintro (hc | hc | hc)
      · exact h1 hc
      · exact h2 hc
      · exact h3 hc
    rw [if_neg hnone] at hkind
    rw [applyUpsCmd, if_neg h1, if_neg h2, if_neg h3]
    refine ⟨h.q1.trans hq1.symm, h.wa.trans hwa.symm, h.q6.trans hq6.symm, ?_⟩
    rw [hkind, q1Mains, waMains, q6Mains, hq1, hwa, hq6]
    exact h.mains

theorem upsTracks_after (ms : List (DeviceData × Nat)) : UpsTracks ms (upsAfter ms) := by
  induction ms using List.reverseRecOn with
  | nil => exact ⟨rfl, rfl, rfl, rfl⟩
  | append_singleton ms m ih =>
    rw [upsAfter_snoc]
    exact ih.snoc m

/-- After any sequence of messages of the UPS the flag is set iff one of the latest of each kind
reports abnormal mains, unless the latest status word hides what the other one reports. -/
theorem mainsAbnormal_iff (ms : List (DeviceData × Nat)) :
    (upsAfter ms).mainsAbnormal = (q1Mains ms || waMains ms || q6Mains ms) ↔ ¬ MainsHidden ms := by
  rw [(upsTracks_after ms).mains, MainsHidden]
  by_cases h1 : latestKind ms = some 1
  · rw [if_pos h1, h1]
    cases q1Mains ms <;> cases waMains ms <;> cases q6Mains ms <;> simp
  by_cases h3 : latestKind ms = some 3
  · rw [if_neg h1, if_pos h3, h3]
    cases q1Mains ms <;> cases waMains ms <;> cases q6Mains ms <;> simp
  · rw [if_neg h1, if_neg h3]
    simp only [h1, h3, false_and, or_false, and_false, not_false_eq_true, iff_true]
    cases q1Mains ms <;> cases waMains ms <;> cases q6Mains ms <;> rfl

/-- A `Q1` with normal mains after a `WA` that reports them abnormal, and the other way round:
the same latest messages, and two values of the flag. -/
theorem mains_depend_on_order :
    let q1 : DeviceData := ({ deviceName := "UPS" : DeviceData }.setValue "__ups_cmd" 1).setStatus
      "q1.status.bits" 0
    let wa : DeviceData := ({ deviceName := "UPS" : DeviceData }.setValue "__ups_cmd" 3).setStatus
      "wa.status.bits" 0x80
    (upsAfter [(wa, 1), (q1, 2)]).mainsAbnormal = false ∧ waMains [(wa, 1), (q1, 2)] = true ∧
      (upsAfter [(q1, 1), (wa, 2)]).mainsAbnormal = true :=
  ⟨by decide, by decide, by decide⟩

end Logic
end EnergyStorage
