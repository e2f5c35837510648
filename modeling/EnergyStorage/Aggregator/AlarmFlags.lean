import EnergyStorage.Lib.Machine
import EnergyStorage.Lib.Numeral
import EnergyStorage.Bms.LogicAdapter
import EnergyStorage.Snapshot.SystemSnapshot

/-! # The alarm flags of the snapshot

The smoke sensor, the gas detector and the air conditioner have a flag each.  It is computed
when data come, from these data or from what was stored of earlier ones, and the gas detector's
and the air conditioner's are taken back when the device drops out. -/

namespace EnergyStorage
namespace Aggregator

open Lib (Dict Machine)
open Bms.LogicAdapter (truncToInt)
open Snapshot (GasChannelState SystemValues)

inductive GasType where
  | combustible
  | co
  | o2
  | temperature
  | humidity
  | co2
  deriving DecidableEq, Repr

def gasTypeOfCode : Nat → Option GasType
  | 0 => some .combustible
  | 1 => some .co
  | 2 => some .o2
  | 3 => some .temperature
  | 4 => some .humidity
  | 5 => some .co2
  | _ => none

def gasTypes : List GasType := [.combustible, .co, .o2, .temperature, .humidity, .co2]

/-- Data with the rest of their gas frame. -/
structure ParsedData extends DeviceData where
  gasRaw : Nat := 0
  gasDecimalCode : Nat := 0
  gasUnitCode : Nat := 0
  gasTypeCode : Nat := 0

/-! ### The item of a BMS message -/

def extractBmsIndexFromCanId (canId : BitVec 32) : Nat :=
  let idx := (canId.toNat % 0x1000) >>> 8
  if 1 ≤ idx ∧ idx ≤ 4 then idx else 0

def makeBmsInstanceName (idx : Nat) : String :=
  if 1 ≤ idx ∧ idx ≤ 4 then "BMS_" ++ toString idx else "BMS_0"

/-- None for a number that is no `int`. -/
def parseBmsIndexFromInstanceName (s : String) : Option Nat :=
  match s.toList with
  | 'B' :: 'M' :: 'S' :: '_' :: tail =>
    if tail = [] ∨ ¬ tail.all Char.isDigit then some 0
    else
      let v := (Lib.Numeral.readDigits 10 0 tail).1
      if v ≥ 2 ^ 31 then none else some (if 1 ≤ v ∧ v ≤ 4 then v else 0)
  | _ => some 0

/-- None if the name cannot be read. -/
def bmsItemName (d : DeviceData) : Option String :=
  let canId : BitVec 32 := BitVec.ofInt 32 ((d.value.get "__bms.id").getD 0)
  let named := (d.str.get "__bms.instance").getD ""
  (parseBmsIndexFromInstanceName named).map fun index =>
    let byId := if index = 0 ∧ canId ≠ 0 then extractBmsIndexFromCanId canId else 0
    let name := if byId ≠ 0 then makeBmsInstanceName byId else named
    if name = "" then "BMS_0" else name

/-! ### The aggregator with its flags -/

/-- The groups of the air conditioner, each under the keys of its fields. -/
structure AirconFields where
  version : Dict String ℚ := Dict.empty
  runState : Dict String ℚ := Dict.empty
  sensorState : Dict String ℚ := Dict.empty
  warnState : Dict String ℚ := Dict.empty
  sysPara : Dict String ℚ := Dict.empty
  remotePara : Dict String ℚ := Dict.empty

/-- The channels are those of the gas detector's item, the groups those of the air
conditioner's. -/
structure SnapshotAggregator extends DataAggregator where
  system : SystemValues := {}
  gasChannels : Dict GasType GasChannelState := Dict.empty
  aircon : AirconFields := {}

def hasPrefix (p k : String) : Bool := p.toList.isPrefixOf k.toList

/-- Writes the new fields whose keys are of the group over the old ones. -/
def mergeFields (ofGroup : String → Bool) (new old : Dict String ℚ) : Dict String ℚ := fun k =>
  if ofGroup k then (new.get k).or (old.get k) else old.get k

def statusFields (d : DeviceData) : Dict String ℚ := fun k =>
  (d.status.get k).map fun v : Nat => Nat.cast v

def AirconFields.merge (d : DeviceData) (ac : AirconFields) : AirconFields where
  version := mergeFields (· == "version") d.num ac.version
  runState := mergeFields (hasPrefix "run.") d.num ac.runState
  sensorState := mergeFields (fun k => hasPrefix "temp." k ||
    k ∈ ["humidity_percent", "current_a", "ac_voltage_v", "dc_voltage_v"]) d.num ac.sensorState
  warnState := mergeFields (hasPrefix "alarm.") (statusFields d) ac.warnState
  sysPara := mergeFields (hasPrefix "param.") d.num ac.sysPara
  remotePara := mergeFields (hasPrefix "remote.") d.num ac.remotePara

def gasChannelOf (ts : Nat) (d : ParsedData) : GasChannelState where
  valid := true
  raw := d.gasRaw
  value := d.gas.value
  status := d.gas.status
  decimalCode := d.gasDecimalCode
  unitCode := d.gasUnitCode
  typeCode := d.gasTypeCode
  faultAny := d.gas.status.testBit 0
  lowAlarm := d.gas.status.testBit 1
  highAlarm := d.gas.status.testBit 2
  alarmAny := d.gas.status.testBit 1 || d.gas.status.testBit 2
  tsMs := ts

def channelAlarm (online : Bool) (c : GasChannelState) : Bool :=
  c.valid && online && (c.faultAny || c.alarmAny)

/-- The status of the sensor comes first, then the code of its alarm. -/
def smokeReport (d : DeviceData) : Bool :=
  match d.status.get "TSS_smoke_alarm" with
  | some v => decide (v ≠ 0)
  | none =>
    match d.num.get "alarm" with
    | some q => decide (truncToInt q ≠ 0)
    | none => false

namespace SnapshotAggregator

def onGasData (a : SnapshotAggregator) (ts : Nat) (d : ParsedData) : SnapshotAggregator :=
  if !d.gas.valid then a
  else
    match gasTypeOfCode d.gasTypeCode with
    | none => a
    | some gt =>
      let channels := a.gasChannels.insert gt (gasChannelOf ts d)
      let online := (a.item "GasDetector").online
      { a with
        gasChannels := channels
        system := { a.system with
          gasAlarm := gasTypes.any fun t =>
            ((channels.get t).map (channelAlarm online)).getD false } }

def onSmokeData (a : SnapshotAggregator) (d : DeviceData) : SnapshotAggregator :=
  { a with
    system := { a.system with
      smokePercent := (d.num.get "smoke_percent").getD a.system.smokePercent
      smokeTemperature := ((d.num.get "temp").map truncToInt).getD a.system.smokeTemperature
      smokeAlarm := smokeReport d } }

def onAirconData (a : SnapshotAggregator) (d : DeviceData) : SnapshotAggregator :=
  let ac := a.aircon.merge d
  { a with
    aircon := ac
    system := { a.system with
      acIndoorTemp := (ac.sensorState.get "temp.indoor_c").getD a.system.acIndoorTemp
      acHumidity := (ac.sensorState.get "humidity_percent").getD a.system.acHumidity
      acPower := ((ac.remotePara.get "remote.power").map truncToInt).getD a.system.acPower
      acRunState := ((ac.runState.get "run.overall").map truncToInt).getD a.system.acRunState
      acAlarm := ((ac.warnState.get "alarm.any").map fun q => decide (q ≠ 0)).getD
        a.system.acAlarm } }

def onDeviceData (a : SnapshotAggregator) (ts : Nat) (d : ParsedData) : SnapshotAggregator :=
  if d.deviceName = "BMS" then
    match bmsItemName d.toDeviceData with
    | none => a
    | some name => { a with toDataAggregator := a.toDataAggregator.markOnline ts name }
  else
    let a := { a with toDataAggregator := a.toDataAggregator.onDeviceData ts d.toDeviceData }
    if d.deviceName = "GasDetector" then a.onGasData ts d
    else if d.deviceName = "SmokeSensor" then a.onSmokeData d.toDeviceData
    else if d.deviceName = "AirConditioner" then a.onAirconData d.toDeviceData
    else a

def updateHealthFromScheduler (a : SnapshotAggregator) (deviceName : String) (online : Bool)
    (lastOkMs disconnectWindowMs lastOfflineMs : Nat) (disconnectCount : BitVec 32) :
    SnapshotAggregator :=
  { a with
    toDataAggregator := a.toDataAggregator.updateHealthFromScheduler deviceName online lastOkMs
      disconnectWindowMs lastOfflineMs disconnectCount
    system := { a.system with
      gasAlarm := if deviceName = "GasDetector" ∧ ¬ online then false else a.system.gasAlarm
      acAlarm := if deviceName = "AirConditioner" ∧ ¬ online then false else a.system.acAlarm } }

end SnapshotAggregator
/-! ### Calls -/

inductive AggregatorCall where
  | data (ts : Nat) (d : ParsedData)
  | health (deviceName : String) (online : Bool)
      (lastOkMs disconnectWindowMs lastOfflineMs : Nat) (disconnectCount : BitVec 32)

namespace SnapshotAggregator

def step (a : SnapshotAggregator) : AggregatorCall → SnapshotAggregator
  | .data ts d => a.onDeviceData ts d
  | .health name online lastOk window lastOffline count =>
    a.updateHealthFromScheduler name online lastOk window lastOffline count

def Online (a : SnapshotAggregator) (name : String) : Prop := (a.item name).online = true

instance (a : SnapshotAggregator) (name : String) : Decidable (a.Online name) :=
  inferInstanceAs (Decidable (_ = true))

/-- A channel that was stored with a fault or an alarm. -/
def StoredGasAlarm (a : SnapshotAggregator) (t : GasType) : Prop :=
  ∃ c ∈ a.gasChannels.get t, channelAlarm true c = true

def StoredAirconAlarm (a : SnapshotAggregator) : Prop :=
  ∃ q ∈ a.aircon.warnState.get "alarm.any", q ≠ 0

end SnapshotAggregator

def snapshotAggregator : Machine SnapshotAggregator AggregatorCall Unit where
  start := {}
  step a e := (a.step e, [])

/-! ### Readings -/

/-- What an alarm is reported of. -/
inductive AlarmChannel where
  | smoke
  | gas (t : GasType)
  | aircon
  deriving DecidableEq

def AlarmChannel.device : AlarmChannel → String
  | .smoke => "SmokeSensor"
  | .gas _ => "GasDetector"
  | .aircon => "AirConditioner"

/-- Bits 0 to 2 of the status are a fault, a low and a high alarm. -/
def gasReport (d : ParsedData) : Option (GasType × Bool) :=
  if d.gas.valid then
    (gasTypeOfCode d.gasTypeCode).map fun t => (t, channelAlarm true (gasChannelOf 0 d))
  else none

/-- The channel that a call brings a reading of, and whether it reports an alarm. -/
def reading : AggregatorCall → Option (AlarmChannel × Bool)
  | .data _ d =>
    if d.deviceName = "GasDetector" then (gasReport d).map fun r => (.gas r.1, r.2)
    else if d.deviceName = "SmokeSensor" then some (.smoke, smokeReport d.toDeviceData)
    else if d.deviceName = "AirConditioner" then
      (d.status.get "alarm.any").map fun v => (.aircon, decide (v ≠ 0))
    else none
  | .health .. => none

theorem reading_gas {ts : Nat} {d : ParsedData} (h : d.deviceName = "GasDetector") :
    reading (.data ts d) = (gasReport d).map fun r => (.gas r.1, r.2) :=
  if_pos h

theorem reading_aircon {ts : Nat} {d : ParsedData} (h : d.deviceName = "AirConditioner") :
    reading (.data ts d) = (d.status.get "alarm.any").map fun v => (.aircon, decide (v ≠ 0)) := by
  unfold reading
  dsimp only
  rw [if_neg (by rw [h]; decide), if_neg (by rw [h]; decide), if_pos h]

theorem reading_none {ts : Nat} {d : ParsedData}
    (h : d.deviceName ∉ ["GasDetector", "SmokeSensor", "AirConditioner"]) :
    reading (.data ts d) = none := by
  simp only [List.mem_cons, List.not_mem_nil, or_false, not_or] at h
  unfold reading
  dsimp only
  rw [if_neg h.1, if_neg h.2.1, if_neg h.2.2]

/-- The device comes back with the call. -/
def Reconnects (name : String) (a : SnapshotAggregator) (e : AggregatorCall) : Prop :=
  ¬ a.Online name ∧ (a.step e).Online name

/-- The latest reading of the channel reports an alarm, and it is not older than the last
reconnect of the device. -/
def Reported (c : AlarmChannel) (es : List AggregatorCall) : Prop :=
  snapshotAggregator.Since (fun _ e => reading e = some (c, true))
    (fun a e => (∃ b, reading e = some (c, b)) ∨ Reconnects c.device a e) es

/-- Each flag that is set is that of a device which is online and reports an alarm. -/
structure Justified (es : List AggregatorCall) : Prop where
  smoke : (snapshotAggregator.run es).system.smokeAlarm = true →
    (snapshotAggregator.run es).Online "SmokeSensor" ∧ Reported .smoke es
  gas : (snapshotAggregator.run es).system.gasAlarm = true →
    (snapshotAggregator.run es).Online "GasDetector" ∧ ∃ t, Reported (.gas t) es
  aircon : (snapshotAggregator.run es).system.acAlarm = true →
    (snapshotAggregator.run es).Online "AirConditioner" ∧ Reported .aircon es

/-- The call takes the device offline. -/
def Drops (name : String) : AggregatorCall → Prop
  | .data .. => False
  | .health deviceName online .. => deviceName = name ∧ online = false

theorem drops_health {n name : String} {online : Bool} {lastOk window lastOffline : Nat}
    {count : BitVec 32} :
    Drops n (.health name online lastOk window lastOffline count) ↔ name = n ∧ ¬ online := by
  rw [Bool.not_eq_true]
  rfl

/-- Data of the air conditioner that leave the alarm out. -/
def OmitsAlarm : AggregatorCall → Prop
  | .data _ d => d.deviceName = "AirConditioner" ∧ d.status.get "alarm.any" = none
  | .health .. => False

/-- The smoke sensor does not drop out while its flag is set; and where the stored readings of
other channels, or of earlier data, set a flag, one of them was reported since the device has
come back. -/
structure StoredAreCurrent (pre : List AggregatorCall) (e : AggregatorCall) : Prop where
  smoke : Drops "SmokeSensor" e → (snapshotAggregator.run pre).system.smokeAlarm = false
  gas : ∀ t, reading e = some (.gas t, false) →
    (∃ t', t' ≠ t ∧ (snapshotAggregator.run pre).StoredGasAlarm t') →
    (snapshotAggregator.run pre).Online "GasDetector" ∧ ∃ t', t' ≠ t ∧ Reported (.gas t') pre
  aircon : OmitsAlarm e → (snapshotAggregator.run pre).StoredAirconAlarm →
    (snapshotAggregator.run pre).Online "AirConditioner" ∧ Reported .aircon pre

/-! ### Coming and going -/

namespace DataAggregator

theorem online_markOnline (a : DataAggregator) (ts : Nat) {name n : String}
    (h : n = name ∨ (a.item n).online = true) : ((a.markOnline ts name).item n).online = true := by
  unfold markOnline
  by_cases hn : n = name
  · rw [hn, item_setItem_self]
  · rw [item_setItem_of_ne a hn]
    exact h.resolve_left hn

/-- Data take no device offline. -/
theorem online_onDeviceData (a : DataAggregator) (ts : Nat) (d : DeviceData) {n : String}
    (h : (a.item n).online = true) : ((a.onDeviceData ts d).item n).online = true := by
  unfold onDeviceData
  dsimp only
  split
  · split
    · exact h
    · exact a.online_markOnline ts (Or.inr h)
  · split
    · split
      · exact h
      · by_cases hn : n = pcuBaseNameFromDeviceData d
        · rw [hn, item_setItem_self, ← hn]
          exact h
        · rw [item_setItem_of_ne a hn]
          exact h
    · exact a.online_markOnline ts (Or.inr h)

/-- A device that is no PCU is online after its data. -/
theorem online_of_own (a : DataAggregator) (ts : Nat) {d : DeviceData}
    (hstate : isPcuStateDeviceName d.deviceName = false)
    (hctrl : isPcuCtrlDeviceName d.deviceName = false) :
    ((a.onDeviceData ts d).item d.deviceName).online = true := by
  unfold onDeviceData
  dsimp only
  rw [hstate, hctrl, if_neg Bool.false_ne_true, if_neg Bool.false_ne_true]
  exact a.online_markOnline ts (Or.inl rfl)

end DataAggregator

namespace SnapshotAggregator

variable (a : SnapshotAggregator)

@[simp] theorem onGasData_items (ts : Nat) (d : ParsedData) :
    (a.onGasData ts d).toDataAggregator = a.toDataAggregator := by
  unfold onGasData
  split
  · rfl
  · split <;> rfl

@[simp] theorem onSmokeData_items (d : DeviceData) :
    (a.onSmokeData d).toDataAggregator = a.toDataAggregator := rfl

@[simp] theorem onAirconData_items (d : DeviceData) :
    (a.onAirconData d).toDataAggregator = a.toDataAggregator := rfl

/-- The items after data. -/
theorem onDeviceData_items (ts : Nat) (d : ParsedData) :
    (a.onDeviceData ts d).toDataAggregator =
      if d.deviceName = "BMS" then
        match bmsItemName d.toDeviceData with
        | none => a.toDataAggregator
        | some name => a.toDataAggregator.markOnline ts name
      else a.toDataAggregator.onDeviceData ts d.toDeviceData := by
  unfold onDeviceData
  split
  · split <;> rfl
  · dsimp only
    split
    · rw [onGasData_items]
    · split
      · rfl
      · split <;> rfl

/-- A device that is online stays so unless the call takes it offline. -/
theorem online_step_iff {n : String} (h : a.Online n) (e : AggregatorCall) :
    (a.step e).Online n ↔ ¬ Drops n e := by
  cases e with
  | data ts d =>
    refine ⟨fun _ => not_false, fun _ => ?_⟩
    unfold Online
    show (((a.onDeviceData ts d).toDataAggregator).item n).online = true
    rw [onDeviceData_items]
    split
    · split
      · exact h
      · exact DataAggregator.online_markOnline _ ts (Or.inr h)
    · exact DataAggregator.online_onDeviceData _ ts _ h
  | health name online lastOk window lastOffline count =>
    show ((DataAggregator.setItem a.toDataAggregator name _).item n).online = true ↔
      ¬ (name = n ∧ online = false)
    by_cases hn : n = name
    · rw [hn, DataAggregator.item_setItem_self]
      show online = true ↔ _
      rw [not_and, Bool.not_eq_false]
      exact ⟨fun h _ => h, fun h => h rfl⟩
    · rw [DataAggregator.item_setItem_of_ne _ hn]
      exact ⟨fun _ hdrop => hn hdrop.1.symm, fun _ => h⟩

/-- A device with a flag is online after its data. -/
theorem online_of_own {n : String} (hn : n ∈ ["GasDetector", "SmokeSensor", "AirConditioner"])
    (ts : Nat) {d : ParsedData} (hd : d.deviceName = n) : (a.onDeviceData ts d).Online n := by
  subst hd
  have hnames : d.deviceName ≠ "BMS" ∧ isPcuStateDeviceName d.deviceName = false ∧
      isPcuCtrlDeviceName d.deviceName = false := by
    simp only [List.mem_cons, List.not_mem_nil, or_false] at hn
    obtain hname | hname | hname := hn
    · rw [hname]
      decide
    · rw [hname]
      decide
    · rw [hname]
      decide
  show (((a.onDeviceData ts d).toDataAggregator).item d.deviceName).online = true
  rw [onDeviceData_items, if_neg hnames.1]
  exact DataAggregator.online_of_own _ ts hnames.2.1 hnames.2.2

end SnapshotAggregator

/-- What brings a reading is data of the channel's device. -/
theorem data_of_reading {e : AggregatorCall} {c : AlarmChannel} {b : Bool}
    (h : reading e = some (c, b)) : ∃ ts d, e = .data ts d ∧ d.deviceName = c.device := by
  cases e with
  | health => cases h
  | data ts d =>
    refine ⟨ts, d, rfl, ?_⟩
    unfold reading at h
    dsimp only at h
    split at h
    · obtain ⟨r, -, hr⟩ := Option.map_eq_some_iff.mp h
      rw [← (Prod.mk.inj hr).1]
      assumption
    · split at h
      · rw [← (Prod.mk.inj (Option.some_inj.mp h)).1]
        assumption
      · split at h
        · obtain ⟨v, -, hv⟩ := Option.map_eq_some_iff.mp h
          rw [← (Prod.mk.inj hv).1]
          assumption
        · cases h

theorem AlarmChannel.device_mem (c : AlarmChannel) :
    c.device ∈ ["GasDetector", "SmokeSensor", "AirConditioner"] := by
  cases c with
  | smoke => exact List.mem_cons_of_mem _ List.mem_cons_self
  | gas t => exact List.mem_cons_self
  | aircon => exact List.mem_cons_of_mem _ (List.mem_cons_of_mem _ List.mem_cons_self)

theorem online_of_reading (a : SnapshotAggregator) {e : AggregatorCall} {c : AlarmChannel}
    {b : Bool} (h : reading e = some (c, b)) : (a.step e).Online c.device := by
  obtain ⟨ts, d, rfl, hd⟩ := data_of_reading h
  exact a.online_of_own c.device_mem ts hd

theorem not_drops_of_reading {e : AggregatorCall} {c : AlarmChannel} {b : Bool} {n : String}
    (h : reading e = some (c, b)) : ¬ Drops n e := by
  obtain ⟨ts, d, rfl, -⟩ := data_of_reading h
  exact not_false

/-! ### Reported, one call later -/

section Reported

variable {es : List AggregatorCall} {e : AggregatorCall} {c : AlarmChannel}

theorem reported_of_alarm (h : reading e = some (c, true)) : Reported c (es ++ [e]) :=
  (Machine.since_snoc _ _ _ es e).mpr (Or.inl h)

theorem not_reported_of_clear (h : reading e = some (c, false)) : ¬ Reported c (es ++ [e]) := by
  intro hr
  obtain halarm | ⟨-, hquiet⟩ := (Machine.since_snoc _ _ _ es e).mp hr
  · rw [h] at halarm
    cases halarm
  · exact hquiet (Or.inl ⟨false, h⟩)

/-- A call without a reading of the channel, after which the device is online. -/
theorem reported_snoc_of_quiet (h : ∀ b, reading e ≠ some (c, b))
    (honline : ((snapshotAggregator.run es).step e).Online c.device) :
    Reported c (es ++ [e]) ↔
      (snapshotAggregator.run es).Online c.device ∧ Reported c es := by
  refine (Machine.since_snoc _ _ _ es e).trans ?_
  constructor
  · rintro (halarm | ⟨hsince, hquiet⟩)
    · exact absurd halarm (h true)
    · refine ⟨?_, hsince⟩
      by_contra hoff
      exact hquiet (Or.inr ⟨hoff, honline⟩)
  · rintro ⟨hon, hsince⟩
    refine Or.inr ⟨hsince, ?_⟩
    rintro (⟨b, hb⟩ | ⟨hoff, -⟩)
    · exact h b hb
    · exact hoff hon

end Reported

/-! ### The flags after a call -/

namespace SnapshotAggregator

variable (a : SnapshotAggregator)

theorem onGasData_smokeAlarm (ts : Nat) (d : ParsedData) :
    (a.onGasData ts d).system.smokeAlarm = a.system.smokeAlarm := by
  unfold onGasData
  split
  · rfl
  · split <;> rfl

theorem onGasData_acAlarm (ts : Nat) (d : ParsedData) :
    (a.onGasData ts d).system.acAlarm = a.system.acAlarm := by
  unfold onGasData
  split
  · rfl
  · split <;> rfl

theorem smokeAlarm_step (e : AggregatorCall) :
    (a.step e).system.smokeAlarm =
      match reading e with
      | some (.smoke, b) => b
      | _ => a.system.smokeAlarm := by
  cases e with
  | health => rfl
  | data ts d =>
    show (a.onDeviceData ts d).system.smokeAlarm = _
    unfold onDeviceData
    split
    · rename_i hbms
      rw [reading_none (by rw [hbms]; decide)]
      split <;> rfl
    · unfold reading
      dsimp only
      split
      · rw [onGasData_smokeAlarm]
        cases gasReport d <;> rfl
      · split
        · rfl
        · split
          · cases d.status.get "alarm.any" <;> rfl
          · rfl

/-- Data of a channel set the flag if they report, or a stored reading of another channel does. -/
theorem gasAlarm_of_reading {e : AggregatorCall} {t : GasType} {b : Bool}
    (h : reading e = some (.gas t, b)) :
    (a.step e).system.gasAlarm = true ↔ b = true ∨ ∃ t', t' ≠ t ∧ a.StoredGasAlarm t' := by
  obtain ⟨ts, d, rfl, hd⟩ := data_of_reading h
  have hname : d.deviceName = "GasDetector" := hd
  have honline := online_of_reading a h
  rw [reading_gas hname] at h
  obtain ⟨r, hreport, hr⟩ := Option.map_eq_some_iff.mp h
  obtain ⟨hgas, rfl⟩ := Prod.mk.inj hr
  unfold gasReport at hreport
  split at hreport
  · rename_i hvalid
    obtain ⟨gt, hgt, rfl⟩ := Option.map_eq_some_iff.mp hreport
    obtain rfl : gt = t := AlarmChannel.gas.inj hgas
    show (a.onDeviceData ts d).system.gasAlarm = true ↔ _
    change (a.onDeviceData ts d).Online "GasDetector" at honline
    unfold Online at honline
    rw [onDeviceData_items, if_neg (by rw [hname]; decide)] at honline
    unfold onDeviceData
    rw [if_neg (by rw [hname]; decide)]
    dsimp only
    rw [if_pos hname]
    unfold onGasData
    rw [hvalid, Bool.not_true, if_neg Bool.false_ne_true, hgt]
    dsimp only
    rw [honline, List.any_eq_true]
    constructor
    · rintro ⟨t', -, ht'⟩
      by_cases hsame : t' = gt
      · rw [hsame, Dict.get_insert_self] at ht'
        exact Or.inl ht'
      · rw [Dict.get_insert_of_ne _ hsame] at ht'
        refine Or.inr ⟨t', hsame, ?_⟩
        cases hc : a.gasChannels.get t' with
        | none =>
          rw [hc] at ht'
          cases ht'
        | some c =>
          rw [hc] at ht'
          exact ⟨c, hc, ht'⟩
    · have hall : ∀ t' : GasType, t' ∈ gasTypes := by
        intro t'
        cases t' <;> decide
      rintro (hb | ⟨t', hne, c, hc, halarm⟩)
      · refine ⟨gt, hall gt, ?_⟩
        rw [Dict.get_insert_self]
        exact hb
      · refine ⟨t', hall t', ?_⟩
        rw [Dict.get_insert_of_ne _ hne, hc]
        exact halarm
  · cases hreport

theorem gasAlarm_of_quiet {e : AggregatorCall} (h : ∀ t b, reading e ≠ some (.gas t, b)) :
    (Drops "GasDetector" e → (a.step e).system.gasAlarm = false) ∧
      (¬ Drops "GasDetector" e → (a.step e).system.gasAlarm = a.system.gasAlarm) := by
  cases e with
  | health name online lastOk window lastOffline count =>
    rw [drops_health]
    exact ⟨fun hdrop => if_pos hdrop, fun hstay => if_neg hstay⟩
  | data ts d =>
    refine ⟨False.elim, fun _ => ?_⟩
    show (a.onDeviceData ts d).system.gasAlarm = _
    unfold onDeviceData
    split
    · split <;> rfl
    · dsimp only
      split
      · rename_i hname
        unfold onGasData
        split
        · rfl
        · rename_i hvalid
          cases hgt : gasTypeOfCode d.gasTypeCode with
          | none => rfl
          | some gt =>
            rw [Bool.not_eq_true', Bool.not_eq_false] at hvalid
            refine absurd ?_ (h gt (channelAlarm true (gasChannelOf 0 d)))
            rw [reading_gas hname, gasReport, if_pos hvalid, hgt]
            rfl
      · split
        · rfl
        · split <;> rfl

theorem mergeFields_get {ofGroup : String → Bool} {new old : Dict String ℚ} {k : String}
    (h : ofGroup k = true) : (mergeFields ofGroup new old).get k = (new.get k).or (old.get k) := by
  show (if ofGroup k then (new.get k).or (old.get k) else old.get k) = _
  rw [if_pos h]

theorem hasPrefix_alarm : hasPrefix "alarm." "alarm.any" = true := by decide

/-- Data of the air conditioner set the flag by the stored alarm, which they may write first. -/
theorem acAlarm_of_own {ts : Nat} {d : ParsedData} (hd : d.deviceName = "AirConditioner") :
    (a.step (.data ts d)).system.acAlarm =
      match d.status.get "alarm.any", a.aircon.warnState.get "alarm.any" with
      | some v, _ => decide (v ≠ 0)
      | none, some q => decide (q ≠ 0)
      | none, none => a.system.acAlarm := by
  have hfield : (a.aircon.merge d.toDeviceData).warnState.get "alarm.any" =
      ((d.status.get "alarm.any").map fun v : Nat => (Nat.cast v : ℚ)).or
        (a.aircon.warnState.get "alarm.any") :=
    mergeFields_get hasPrefix_alarm
  show (a.onDeviceData ts d).system.acAlarm = _
  unfold onDeviceData
  rw [if_neg (by rw [hd]; decide)]
  dsimp only
  rw [if_neg (by rw [hd]; decide), if_neg (by rw [hd]; decide), if_pos hd]
  show ((((a.aircon.merge d.toDeviceData).warnState.get "alarm.any").map _).getD _) = _
  rw [hfield]
  cases d.status.get "alarm.any" with
  | some v => simp
  | none =>
    cases a.aircon.warnState.get "alarm.any" with
    | some q => rfl
    | none => rfl

theorem acAlarm_of_quiet {e : AggregatorCall}
    (h : ∀ ts d, e = .data ts d → d.deviceName ≠ "AirConditioner") :
    (Drops "AirConditioner" e → (a.step e).system.acAlarm = false) ∧
      (¬ Drops "AirConditioner" e → (a.step e).system.acAlarm = a.system.acAlarm) := by
  cases e with
  | health name online lastOk window lastOffline count =>
    rw [drops_health]
    exact ⟨fun hdrop => if_pos hdrop, fun hstay => if_neg hstay⟩
  | data ts d =>
    refine ⟨False.elim, fun _ => ?_⟩
    show (a.onDeviceData ts d).system.acAlarm = _
    unfold onDeviceData
    split
    · split <;> rfl
    · dsimp only
      split
      · rw [onGasData_acAlarm]
      · split
        · rfl
        · rw [if_neg (h ts d rfl)]

end SnapshotAggregator

/-! ### Runs -/

section Step

variable {pre : List AggregatorCall} {e : AggregatorCall}

theorem run_snoc (pre : List AggregatorCall) (e : AggregatorCall) :
    snapshotAggregator.run (pre ++ [e]) = (snapshotAggregator.run pre).step e :=
  Machine.run_snoc _ pre e

/-- A flag that the call leaves alone stays justified, as far as the device stays online. -/
theorem kept_of_quiet {c : AlarmChannel} (h : ∀ b, reading e ≠ some (c, b))
    (honline : (snapshotAggregator.run pre).Online c.device) (hstay : ¬ Drops c.device e)
    (hreported : Reported c pre) :
    (snapshotAggregator.run (pre ++ [e])).Online c.device ∧ Reported c (pre ++ [e]) := by
  have hafter := (SnapshotAggregator.online_step_iff _ honline e).mpr hstay
  rw [run_snoc]
  exact ⟨hafter, (reported_snoc_of_quiet h hafter).mpr ⟨honline, hreported⟩⟩

theorem smoke_snoc
    (h : (snapshotAggregator.run pre).system.smokeAlarm = true →
      (snapshotAggregator.run pre).Online "SmokeSensor" ∧ Reported .smoke pre) :
    ((snapshotAggregator.run (pre ++ [e])).system.smokeAlarm = true →
        (snapshotAggregator.run (pre ++ [e])).Online "SmokeSensor" ∧
          Reported .smoke (pre ++ [e])) ↔
      (Drops "SmokeSensor" e → (snapshotAggregator.run pre).system.smokeAlarm = false) := by
  have hflag := (snapshotAggregator.run pre).smokeAlarm_step e
  by_cases hreading : ∃ b, reading e = some (.smoke, b)
  · obtain ⟨b, hb⟩ := hreading
    rw [hb] at hflag
    refine ⟨fun _ hdrop => absurd hdrop (not_drops_of_reading hb), fun _ hset => ?_⟩
    rw [run_snoc] at hset ⊢
    obtain rfl : b = true := hflag.symm.trans hset
    exact ⟨online_of_reading _ hb, reported_of_alarm hb⟩
  · have hquiet : ∀ b, reading e ≠ some (.smoke, b) := fun b hb => hreading ⟨b, hb⟩
    have hsame : (snapshotAggregator.run (pre ++ [e])).system.smokeAlarm =
        (snapshotAggregator.run pre).system.smokeAlarm := by
      rw [run_snoc, hflag]
      split
      · rename_i b hb
        exact absurd hb (hquiet b)
      · rfl
    rw [hsame]
    constructor
    · intro hafter hdrop
      rw [← Bool.not_eq_true]
      intro hset
      have honline := (h hset).1
      have hgone := (hafter hset).1
      rw [run_snoc] at hgone
      exact (SnapshotAggregator.online_step_iff _ honline e).mp hgone hdrop
    · intro hcond hset
      obtain ⟨honline, hreported⟩ := h hset
      refine kept_of_quiet hquiet honline (fun hdrop => ?_) hreported
      rw [hcond hdrop] at hset
      cases hset

theorem gas_snoc
    (h : (snapshotAggregator.run pre).system.gasAlarm = true →
      (snapshotAggregator.run pre).Online "GasDetector" ∧ ∃ t, Reported (.gas t) pre) :
    ((snapshotAggregator.run (pre ++ [e])).system.gasAlarm = true →
        (snapshotAggregator.run (pre ++ [e])).Online "GasDetector" ∧
          ∃ t, Reported (.gas t) (pre ++ [e])) ↔
      ∀ t, reading e = some (.gas t, false) →
        (∃ t', t' ≠ t ∧ (snapshotAggregator.run pre).StoredGasAlarm t') →
        (snapshotAggregator.run pre).Online "GasDetector" ∧
          ∃ t', t' ≠ t ∧ Reported (.gas t') pre := by
  by_cases hreading : ∃ t b, reading e = some (.gas t, b)
  · obtain ⟨t, b, hb⟩ := hreading
    have hflag := SnapshotAggregator.gasAlarm_of_reading (snapshotAggregator.run pre) hb
    have hafter := online_of_reading (snapshotAggregator.run pre) hb
    rw [run_snoc, hflag]
    cases b with
    | true =>
      refine ⟨fun _ t' hclear => ?_, fun _ _ => ⟨hafter, t, reported_of_alarm hb⟩⟩
      rw [hb] at hclear
      cases hclear
    | false =>
      have hother : ∀ t', t' ≠ t → ∀ b, reading e ≠ some (.gas t', b) := by
        intro t' hne b hb'
        rw [hb] at hb'
        exact hne (AlarmChannel.gas.inj (Prod.mk.inj (Option.some_inj.mp hb')).1).symm
      constructor
      · intro hjust t' hclear hstored
        rw [hb] at hclear
        obtain rfl := AlarmChannel.gas.inj (Prod.mk.inj (Option.some_inj.mp hclear)).1
        obtain ⟨-, t'', hreported⟩ := hjust (Or.inr hstored)
        have hne : t'' ≠ t := by
          rintro rfl
          exact not_reported_of_clear hb hreported
        obtain ⟨honline, hbefore⟩ := (reported_snoc_of_quiet (hother t'' hne) hafter).mp hreported
        exact ⟨honline, t'', hne, hbefore⟩
      · rintro hcond (hfalse | hstored)
        · cases hfalse
        · obtain ⟨honline, t', hne, hreported⟩ := hcond t hb hstored
          exact ⟨hafter, t', (reported_snoc_of_quiet (hother t' hne) hafter).mpr
            ⟨honline, hreported⟩⟩
  · have hquiet : ∀ t b, reading e ≠ some (.gas t, b) := fun t b hb => hreading ⟨t, b, hb⟩
    refine ⟨fun _ t hclear => absurd hclear (hquiet t false), fun _ hset => ?_⟩
    obtain ⟨hdropped, hsame⟩ :=
      SnapshotAggregator.gasAlarm_of_quiet (snapshotAggregator.run pre) hquiet
    rw [run_snoc] at hset
    by_cases hdrop : Drops "GasDetector" e
    · rw [hdropped hdrop] at hset
      cases hset
    · rw [hsame hdrop] at hset
      obtain ⟨honline, t, hreported⟩ := h hset
      obtain ⟨hafter, hstill⟩ := kept_of_quiet (hquiet t) honline hdrop hreported
      exact ⟨hafter, t, hstill⟩

theorem aircon_snoc
    (h : (snapshotAggregator.run pre).system.acAlarm = true →
      (snapshotAggregator.run pre).Online "AirConditioner" ∧ Reported .aircon pre) :
    ((snapshotAggregator.run (pre ++ [e])).system.acAlarm = true →
        (snapshotAggregator.run (pre ++ [e])).Online "AirConditioner" ∧
          Reported .aircon (pre ++ [e])) ↔
      (OmitsAlarm e → (snapshotAggregator.run pre).StoredAirconAlarm →
        (snapshotAggregator.run pre).Online "AirConditioner" ∧ Reported .aircon pre) := by
  by_cases hown : ∃ ts d, e = .data ts d ∧ d.deviceName = "AirConditioner"
  · obtain ⟨ts, d, rfl, hd⟩ := hown
    have hflag := @SnapshotAggregator.acAlarm_of_own (snapshotAggregator.run pre) ts d hd
    have hafter : ((snapshotAggregator.run pre).step (.data ts d)).Online "AirConditioner" :=
      SnapshotAggregator.online_of_own _ (AlarmChannel.device_mem .aircon) ts hd
    rw [run_snoc]
    cases hv : d.status.get "alarm.any" with
    | some v =>
      rw [hv] at hflag
      have hreading : reading (.data ts d) = some (.aircon, decide (v ≠ 0)) := by
        rw [reading_aircon hd, hv]
        rfl
      refine ⟨fun _ homits => ?_, fun _ hset => ⟨hafter, reported_of_alarm ?_⟩⟩
      · rw [homits.2] at hv
        cases hv
      · rw [hreading, ← hset, hflag]
    | none =>
      rw [hv] at hflag
      have hquiet : ∀ b, reading (.data ts d) ≠ some (.aircon, b) := by
        intro b hb
        rw [reading_aircon hd, hv] at hb
        cases hb
      cases hq : (snapshotAggregator.run pre).aircon.warnState.get "alarm.any" with
      | none =>
        rw [hq] at hflag
        constructor
        · rintro - - ⟨q, hstored, -⟩
          rw [hq] at hstored
          cases hstored
        · intro _ hset
          obtain ⟨honline, hreported⟩ := h (hflag.symm.trans hset)
          exact ⟨hafter, (reported_snoc_of_quiet hquiet hafter).mpr ⟨honline, hreported⟩⟩
      | some q =>
        rw [hq] at hflag
        rw [hflag, decide_eq_true_eq]
        constructor
        · rintro hjust - ⟨q', hstored, hne⟩
          rw [hq] at hstored
          obtain rfl := Option.some_inj.mp hstored
          exact (reported_snoc_of_quiet hquiet hafter).mp (hjust hne).2
        · intro hcond hne
          exact ⟨hafter, (reported_snoc_of_quiet hquiet hafter).mpr
            (hcond ⟨hd, hv⟩ ⟨q, hq, hne⟩)⟩
  · have hother : ∀ ts d, e = .data ts d → d.deviceName ≠ "AirConditioner" :=
      fun ts d he hd => hown ⟨ts, d, he, hd⟩
    have hquiet : ∀ b, reading e ≠ some (.aircon, b) := by
      intro b hb
      obtain ⟨ts, d, he, hd⟩ := data_of_reading hb
      exact hother ts d he hd
    constructor
    · intro _ homits
      cases e with
      | data ts d => exact absurd homits.1 (hother ts d rfl)
      | health => exact homits.elim
    · intro _ hset
      obtain ⟨hdropped, hsame⟩ :=
        SnapshotAggregator.acAlarm_of_quiet (snapshotAggregator.run pre) hother
      rw [run_snoc] at hset
      by_cases hdrop : Drops "AirConditioner" e
      · rw [hdropped hdrop] at hset
        cases hset
      · rw [hsame hdrop] at hset
        obtain ⟨honline, hreported⟩ := h hset
        exact kept_of_quiet hquiet honline hdrop hreported

/-- What one more call keeps of the flags. -/
theorem justified_snoc (h : Justified pre) :
    Justified (pre ++ [e]) ↔ StoredAreCurrent pre e := by
  constructor
  · intro hafter
    exact ⟨(smoke_snoc h.smoke).mp hafter.smoke, (gas_snoc h.gas).mp hafter.gas,
      (aircon_snoc h.aircon).mp hafter.aircon⟩
  · intro hcond
    exact ⟨(smoke_snoc h.smoke).mpr hcond.smoke, (gas_snoc h.gas).mpr hcond.gas,
      (aircon_snoc h.aircon).mpr hcond.aircon⟩

end Step

/-- The flags stay those of devices that are online and report an alarm in exactly the runs in
which the smoke sensor never drops out with its flag set, and each stored alarm that sets a flag
has one beside it that was reported since the device came back. -/
theorem alarms_justified_iff (es : List AggregatorCall) :
    (∀ pre, pre <+: es → Justified pre) ↔ ∀ pre e, pre ++ [e] <+: es → StoredAreCurrent pre e := by
  refine Machine.prefixes_iff ⟨?_, ?_, ?_⟩ (fun _ _ h => justified_snoc h) es
  · exact fun h => absurd h Bool.false_ne_true
  · exact fun h => absurd h Bool.false_ne_true
  · exact fun h => absurd h Bool.false_ne_true

/-- A reading of the gas detector. -/
def gasData (typeCode status : Nat) : AggregatorCall :=
  .data 1000
    { deviceName := "GasDetector", gas := { valid := true, status }, gasTypeCode := typeCode }

def smokeData (status : Nat) : AggregatorCall :=
  .data 1000 { deviceName := "SmokeSensor", status := Dict.empty.insert "TSS_smoke_alarm" status }

/-- The flag of the smoke sensor outlives its dropping out; that of the gas detector is set again
by a channel that has not reported since. -/
theorem stale_alarms :
    ¬ Justified [smokeData 1, .health "SmokeSensor" false 1000 2000 4000 1] ∧
      (snapshotAggregator.run [smokeData 1,
        .health "SmokeSensor" false 1000 2000 4000 1]).system.smokeAlarm = true ∧
      ¬ Justified [gasData 1 4, .health "GasDetector" false 1000 2000 4000 1, gasData 2 0] ∧
      (snapshotAggregator.run [gasData 1 4, .health "GasDetector" false 1000 2000 4000 1,
        gasData 2 0]).system.gasAlarm = true := by
  refine ⟨fun h => ?_, by decide, fun h => ?_, by decide⟩
  · exact absurd (h.smoke (by decide)).1 (by decide)
  · have hclear : reading (gasData 2 0) = some (.gas .o2, false) := by decide
    obtain ⟨-, t, hreported⟩ := h.gas (by decide)
    change Reported (.gas t) ([gasData 1 4, .health "GasDetector" false 1000 2000 4000 1] ++
      [gasData 2 0]) at hreported
    by_cases ht : t = .o2
    · rw [ht] at hreported
      exact not_reported_of_clear hclear hreported
    · have hquiet : ∀ b, reading (gasData 2 0) ≠ some (.gas t, b) := by
        intro b hb
        rw [hclear] at hb
        exact ht (AlarmChannel.gas.inj (Prod.mk.inj (Option.some_inj.mp hb)).1).symm
      have hafter : SnapshotAggregator.Online _ "GasDetector" := online_of_reading
        (snapshotAggregator.run [gasData 1 4, .health "GasDetector" false 1000 2000 4000 1]) hclear
      have hback := (reported_snoc_of_quiet hquiet hafter).mp hreported
      exact absurd hback.1 (by show ¬ SnapshotAggregator.Online _ "GasDetector"; decide)

end Aggregator
end EnergyStorage
