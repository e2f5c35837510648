import EnergyStorage.Lib.ChangeCache
import EnergyStorage.Lib.Sql
import EnergyStorage.Snapshot.SystemSnapshot

/-! # The flat tables of the system

A snapshot of the system goes into the tables in one transaction: a row of its own, a row of the
health of each device, and the state of each device that has changed.  The BMS has a sink of its
own and is passed over.  The tables are those of the file and those that the schema adds before it
stops. -/

namespace EnergyStorage
namespace Snapshot

open Lib (Dict Json)
open Lib.Sql (Table Tx Conn Faults script statement transact afterwards)

def isBmsShadowItem (name : String) : Bool := "BMS_".toList.isPrefixOf name.toList

/-! ### The text of the state of a device -/

def GasChannelState.toJson (ch : GasChannelState) : Json :=
  .object [
    ("valid", .boolean ch.valid),
    ("value", .float ch.value),
    ("raw", .unsigned ch.raw),
    ("status", .unsigned ch.status),
    ("decimal", .unsigned ch.decimalCode),
    ("type_code", .unsigned ch.typeCode),
    ("unit_code", .unsigned ch.unitCode),
    ("fault_any", .boolean ch.faultAny),
    ("low_alarm", .boolean ch.lowAlarm),
    ("high_alarm", .boolean ch.highAlarm),
    ("alarm_any", .boolean ch.alarmAny),
    ("ts_ms", .unsigned ch.tsMs)]

def AirconSnapshot.toJson (ac : AirconSnapshot) : Json :=
  .object [
    ("remote_para", numJson ac.remotePara.fields),
    ("run_state", numJson ac.runState.fields),
    ("sensor_state", numJson ac.sensorState.fields),
    ("sys_para", numJson ac.sysPara.fields),
    ("version", numJson ac.version.fields),
    ("warn_state", numJson ac.warnState.fields)]

/-- The texts of a group are left out. -/
def PcuGroupData.toJson (g : PcuGroupData) : Json :=
  .object [
    ("num", numJson g.num),
    ("value", valueJson g.value),
    ("status", statusJson g.status),
    ("ts_ms", .unsigned g.tsMs)]

def PcuSnapshot.toJson (p : PcuSnapshot) : Json :=
  .object ([("state", p.state.toJson)] ++
    if p.ctrl.tsMs ≠ 0 ∨ p.ctrl.num ≠ [] ∨ p.ctrl.value ≠ [] ∨ p.ctrl.status ≠ [] then
      [("ctrl", p.ctrl.toJson)]
    else [])

def SnapshotItem.dataJson (item : SnapshotItem) : Json :=
  .object [
    ("num", numJson item.data.num),
    ("value", valueJson item.data.value),
    ("status", statusJson item.data.status)]

def deviceStateJson (name : String) (item : SnapshotItem) : Json :=
  if isBmsShadowItem name ∨ name = "BMS" then
    .object [
      ("kind", .string "bms_shadow"),
      ("online", .boolean item.online),
      ("last_ok_ms", .unsigned item.lastOkMs)]
  else if name = "GasDetector" then
    .object [("gas_channels",
      .object (item.gasChannels.map fun ch => (toString ch.1, ch.2.toJson)))]
  else if name = "SmokeSensor" then .object [("num", numJson item.data.num)]
  else if name = "UPS" then upsJson item.upsGroups
  else
    match if name = "AirConditioner" then item.aircon else none with
    | some ac => ac.toJson
    | none =>
      match if isPcuName name then item.pcu else none with
      | some p => p.toJson
      | none => item.dataJson

/-! ### The tables -/

inductive StateTable where
  | gasChannelState
  | smokeState
  | upsQ1State
  | upsQ6State
  | pcuState
  | pcuTxState
  | airconState
  deriving DecidableEq

/-- What the columns of a state are read off. -/
inductive StateContent where
  | gasChannel (gas : Nat) (ch : GasChannelState)
  | smoke (num : List (String × ℚ))
  | upsQ1 (g : UpsGroupData)
  | upsQ6 (g : UpsGroupData)
  | pcu (g : PcuGroupData)
  | pcuTx (g : PcuGroupData)
  | aircon (ac : AirconSnapshot)

def StateContent.table : StateContent → StateTable
  | .gasChannel _ _ => .gasChannelState
  | .smoke _ => .smokeState
  | .upsQ1 _ => .upsQ1State
  | .upsQ6 _ => .upsQ6State
  | .pcu _ => .pcuState
  | .pcuTx _ => .pcuTxState
  | .aircon _ => .airconState

structure StateRow where
  snapshotId : Nat
  tsMs : Nat
  deviceName : String
  content : StateContent

structure DeviceHealthRow where
  snapshotId : Nat
  tsMs : Nat
  deviceName : String
  health : Aggregator.SnapshotItem

structure SnapshotMainRow where
  tsMs : Nat
  system : SystemValues

/-- The tables that the file has.  `gasPollEvent` tells whether it has the one of that name, which
the sink does not write to. -/
structure SystemDb where
  main : Option (Table SnapshotMainRow) := none
  deviceHealth : Option (Table DeviceHealthRow) := none
  gasPollEvent : Bool := false
  state : StateTable → Option (Table StateRow) := fun _ => none

/-! ### The schema -/

inductive SystemTable where
  | snapshotMain
  | deviceHealth
  | gasPollEvent
  | state (t : StateTable)
  deriving DecidableEq

inductive SchemaStatement where
  | createTable (t : SystemTable)
  | createIndex (t : SystemTable)

namespace SystemDb

def has (db : SystemDb) : SystemTable → Bool
  | .snapshotMain => db.main.isSome
  | .deviceHealth => db.deviceHealth.isSome
  | .gasPollEvent => db.gasPollEvent
  | .state t => (db.state t).isSome

/-- `CREATE TABLE IF NOT EXISTS`. -/
def create (db : SystemDb) : SystemTable → SystemDb
  | .snapshotMain => { db with main := some (db.main.getD Table.empty) }
  | .deviceHealth => { db with deviceHealth := some (db.deviceHealth.getD Table.empty) }
  | .gasPollEvent => { db with gasPollEvent := true }
  | .state t =>
    { db with state := Function.update db.state t (some ((db.state t).getD Table.empty)) }

/-- `CREATE INDEX IF NOT EXISTS` fails on a table that is not there. -/
def exec : SchemaStatement → SystemDb → Option SystemDb
  | .createTable t, db => some (db.create t)
  | .createIndex t, db => if db.has t then some db else none

def healthRows (db : SystemDb) : List DeviceHealthRow :=
  (db.deviceHealth.map Table.values).getD []

def stateRows (db : SystemDb) (t : StateTable) : List StateRow :=
  ((db.state t).map Table.values).getD []

/-- The id of the next row of the main table. -/
def nextMainId (db : SystemDb) : Nat := (db.main.getD Table.empty).nextId

end SystemDb

def StateTable.all : List StateTable :=
  [.gasChannelState, .smokeState, .upsQ1State, .upsQ6State, .pcuState, .pcuTxState, .airconState]

/-- A table and its index. -/
def withIndex (t : SystemTable) : List SchemaStatement := [.createTable t, .createIndex t]

/-- No statement creates the table of the third index. -/
def schema : List SchemaStatement :=
  withIndex .snapshotMain ++ withIndex .deviceHealth ++ [.createIndex .gasPollEvent] ++
    StateTable.all.flatMap fun t => withIndex (.state t)

/-- `left` is the number of statements that still succeed, none for no failure at all. -/
def initSchema (left : Option Nat) (db : SystemDb) : SystemDb × Bool :=
  script SystemDb.exec left schema db

/-! ### The statements of a transaction -/

def insertSystemMain (snap : SystemSnapshot) : Tx SystemDb Nat :=
  statement fun db => db.main.map fun t =>
    (t.nextId, { db with main := some (t.insert ⟨snap.timestampMs, snap.system⟩) })

def insertDeviceHealth (snapshotId tsMs : Nat) (name : String) (item : SnapshotItem) :
    Tx SystemDb Unit :=
  statement fun db => db.deviceHealth.map fun t => ((), { db with
    deviceHealth := some (t.insert ⟨snapshotId, tsMs, name, item.toSnapshotItem⟩) })

def insertStateRow (row : StateRow) : Tx SystemDb Unit :=
  statement fun db => (db.state row.content.table).map fun t => ((), { db with
    state := Function.update db.state row.content.table (some (t.insert row)) })

/-- Only the channels that have just been updated. -/
def gasChannelDelta (item : SnapshotItem) : List StateContent :=
  (item.gasChannels.filter fun ch => ch.2.tsMs = item.tsMs).map fun ch => .gasChannel ch.1 ch.2

def upsStates (item : SnapshotItem) : List StateContent :=
  ((item.upsGroups.lookup "Q1").map StateContent.upsQ1).toList ++
    ((item.upsGroups.lookup "Q6").map StateContent.upsQ6).toList

/-- The frames sent to the PCU are left out as long as there were none. -/
def pcuTxState (p : PcuSnapshot) : List StateContent :=
  if p.ctrl.tsMs ≠ 0 ∨ p.ctrl.num ≠ [] ∨ p.ctrl.value ≠ [] ∨ p.ctrl.status ≠ [] ∨
      p.ctrl.str ≠ [] then [.pcuTx p.ctrl]
  else []

def pcuStates (item : SnapshotItem) : List StateContent :=
  item.pcu.toList.flatMap fun p => .pcu p.state :: pcuTxState p

/-- What is written of a device that has changed. -/
def stateContents (name : String) (item : SnapshotItem) : List StateContent :=
  if name = "GasDetector" then gasChannelDelta item
  else if name = "SmokeSensor" then [.smoke item.data.num]
  else if name = "UPS" then upsStates item
  else if name = "AirConditioner" then (item.aircon.map StateContent.aircon).toList
  else if isPcuName name then pcuStates item
  else []

def insertState (snapshotId tsMs : Nat) (name : String) (item : SnapshotItem) :
    Tx SystemDb Unit :=
  (stateContents name item).forM fun content =>
    insertStateRow ⟨snapshotId, tsMs, name, content⟩

/-! ### The sink -/

structure SnapshotFlatSink where
  writeMainEverySnapshot : Bool := true
  opened : Bool := true
  db : SystemDb := {}
  lastDeviceJsonCache : Dict String String := Dict.empty
  lastDeviceHealthCache : Dict String String := Dict.empty

/-- How the constructor fares: whether the file is opened, and after how many statements the schema
fails. -/
structure Opening where
  opens : Bool := true
  schemaLeft : Option Nat := none

/-- The constructor goes on where the schema has failed. -/
def SnapshotFlatSink.create (writeMain : Bool) (o : Opening) (file : SystemDb) :
    SnapshotFlatSink :=
  if o.opens then
    { writeMainEverySnapshot := writeMain, db := (initSchema o.schemaLeft file).1 }
  else { writeMainEverySnapshot := writeMain, opened := false, db := file }

/-- A snapshot, and what fails of its transaction. -/
structure SystemWrite where
  snap : SystemSnapshot
  faults : Faults := {}

namespace SnapshotFlatSink

-- how a JSON value is written out
variable (dump : Json → String)

/-- The health is looked at only where the state is the same. -/
def collectChangedDevices (device health : Dict String String) :
    List (String × SnapshotItem) → (Dict String String × Dict String String) × List String
  | [] => ((device, health), [])
  | (name, item) :: items =>
    if isBmsShadowItem name then collectChangedDevices device health items
    else
      let d := device.note name (dump (deviceStateJson name item))
      let h := if d.2 then (health, true) else health.note name (dump (healthKeyJson item))
      let rest := collectChangedDevices d.1 h.1 items
      (rest.1, if h.2 then name :: rest.2 else rest.2)

/-- What is done inside the transaction. -/
def write (changedDevices : List String) (snap : SystemSnapshot) : Tx SystemDb Unit := do
  let snapshotId ← insertSystemMain snap
  snap.items.forM fun entry =>
    if isBmsShadowItem entry.1 ∨ entry.1 = "BMS" then pure ()
    else insertDeviceHealth snapshotId snap.timestampMs entry.1 entry.2
  snap.items.forM fun entry =>
    if (isBmsShadowItem entry.1 ∨ entry.1 = "BMS") ∨ entry.1 ∉ changedDevices then pure ()
    else insertState snapshotId snap.timestampMs entry.1 entry.2

/-- Both caches take the texts over before the transaction begins. -/
def onSnapshot (s : SnapshotFlatSink) (e : SystemWrite) : SnapshotFlatSink :=
  if !s.opened then s
  else
    let found :=
      collectChangedDevices dump s.lastDeviceJsonCache s.lastDeviceHealthCache e.snap.items
    let s := { s with lastDeviceJsonCache := found.1.1, lastDeviceHealthCache := found.1.2 }
    if ¬ s.writeMainEverySnapshot ∧ found.2 = [] then s
    else { s with db := afterwards e.faults (write found.2 e.snap) s.db }

def changedDevices (s : SnapshotFlatSink) (snap : SystemSnapshot) : List String :=
  (collectChangedDevices dump s.lastDeviceJsonCache s.lastDeviceHealthCache snap.items).2

theorem onSnapshot_closed {s : SnapshotFlatSink} (h : s.opened = false) (e : SystemWrite) :
    s.onSnapshot dump e = s := by
  rw [onSnapshot, h]
  rfl

theorem opened_onSnapshot (s : SnapshotFlatSink) (e : SystemWrite) :
    (s.onSnapshot dump e).opened = s.opened := by
  unfold onSnapshot
  dsimp only
  split_ifs <;> rfl

theorem onSnapshot_db {s : SnapshotFlatSink} (h : s.opened = true) (e : SystemWrite) :
    (s.onSnapshot dump e).db =
      if ¬ s.writeMainEverySnapshot ∧ changedDevices dump s e.snap = [] then s.db
      else afterwards e.faults (write (changedDevices dump s e.snap) e.snap) s.db := by
  rw [onSnapshot, h, if_neg (by decide)]
  exact apply_ite SnapshotFlatSink.db _ _ _

/-! ### What is found changed -/

def deviceTexts (items : List (String × SnapshotItem)) : List (String × String) :=
  (items.filter fun entry => ¬ isBmsShadowItem entry.1).map fun entry =>
    (entry.1, dump (deviceStateJson entry.1 entry.2))

def healthTexts (items : List (String × SnapshotItem)) : List (String × String) :=
  (items.filter fun entry => ¬ isBmsShadowItem entry.1).map fun entry =>
    (entry.1, dump (healthKeyJson entry.2))

section Collect

variable {dump} {device health : Dict String String} {items : List (String × SnapshotItem)}
  {name : String} {item : SnapshotItem}

theorem collect_cons_shadow (h : isBmsShadowItem name = true) :
    collectChangedDevices dump device health ((name, item) :: items) =
      collectChangedDevices dump device health items :=
  if_pos h

theorem texts_cons_shadow (h : isBmsShadowItem name = true) :
    deviceTexts dump ((name, item) :: items) = deviceTexts dump items ∧
      healthTexts dump ((name, item) :: items) = healthTexts dump items := by
  unfold deviceTexts healthTexts
  rw [List.filter_cons_of_neg (by simp [h])]
  exact ⟨rfl, rfl⟩

theorem texts_cons (h : ¬ isBmsShadowItem name = true) :
    deviceTexts dump ((name, item) :: items) =
        (name, dump (deviceStateJson name item)) :: deviceTexts dump items ∧
      healthTexts dump ((name, item) :: items) =
        (name, dump (healthKeyJson item)) :: healthTexts dump items := by
  unfold deviceTexts healthTexts
  rw [List.filter_cons_of_pos (by simp [h])]
  exact ⟨rfl, rfl⟩

/-- Where the state has changed, the health is not looked at. -/
theorem collect_cons_changed (h : ¬ isBmsShadowItem name = true)
    (hchanged : device.get name ≠ some (dump (deviceStateJson name item))) :
    collectChangedDevices dump device health ((name, item) :: items) =
      let rest := collectChangedDevices dump
        (device.insert name (dump (deviceStateJson name item))) health items
      (rest.1, name :: rest.2) := by
  rw [collectChangedDevices, if_neg h, Dict.note_of_change hchanged]
  rfl

theorem collect_cons_same (h : ¬ isBmsShadowItem name = true)
    (hsame : device.get name = some (dump (deviceStateJson name item))) :
    collectChangedDevices dump device health ((name, item) :: items) =
      let h := health.note name (dump (healthKeyJson item))
      let rest := collectChangedDevices dump device h.1 items
      (rest.1, if h.2 then name :: rest.2 else rest.2) := by
  rw [collectChangedDevices, if_neg h, Dict.note_of_same hsame]
  rfl

/-- The cache of the states takes over the text of each device. -/
theorem collect_device (device health : Dict String String)
    (items : List (String × SnapshotItem)) :
    (collectChangedDevices dump device health items).1.1 =
      (device.noteAll (deviceTexts dump items)).1 := by
  induction items generalizing device health with
  | nil => rfl
  | cons entry items ih =>
    obtain ⟨name, item⟩ := entry
    by_cases hshadow : isBmsShadowItem name = true
    · rw [collect_cons_shadow hshadow, (texts_cons_shadow hshadow).1, ih]
    · rw [(texts_cons hshadow).1]
      show _ = (Dict.noteAll (device.note name _).1 _).1
      by_cases hsame : device.get name = some (dump (deviceStateJson name item))
      · rw [collect_cons_same hshadow hsame, Dict.note_of_same hsame]
        exact ih _ _
      · rw [collect_cons_changed hshadow hsame, Dict.note_of_change hsame]
        exact ih _ _

/-- A device with another state is found changed. -/
theorem mem_collect (h : name ∈ (device.noteAll (deviceTexts dump items)).2) :
    name ∈ (collectChangedDevices dump device health items).2 := by
  induction items generalizing device health with
  | nil => exact h
  | cons entry items ih =>
    obtain ⟨other, item⟩ := entry
    by_cases hshadow : isBmsShadowItem other = true
    · rw [(texts_cons_shadow hshadow).1] at h
      rw [collect_cons_shadow hshadow]
      exact ih h
    · rw [(texts_cons hshadow).1] at h
      change name ∈ (if (device.note other _).2 then _ else _) at h
      by_cases hsame : device.get other = some (dump (deviceStateJson other item))
      · rw [Dict.note_of_same hsame, if_neg Bool.false_ne_true] at h
        rw [collect_cons_same hshadow hsame]
        have hrest : name ∈ (collectChangedDevices dump device
            (health.note other (dump (healthKeyJson item))).1 items).2 := ih h
        dsimp only
        split
        · exact List.mem_cons_of_mem _ hrest
        · exact hrest
      · rw [Dict.note_of_change hsame, if_pos rfl] at h
        rw [collect_cons_changed hshadow hsame]
        rcases List.mem_cons.mp h with rfl | hmem
        · exact List.mem_cons_self
        · exact List.mem_cons_of_mem _ (ih hmem)

/-- Where no state has changed, the health of every device is looked at. -/
theorem collect_of_quiet (h : (device.noteAll (deviceTexts dump items)).2 = []) :
    (collectChangedDevices dump device health items).1.2 =
        (health.noteAll (healthTexts dump items)).1 ∧
      (collectChangedDevices dump device health items).2 =
        (health.noteAll (healthTexts dump items)).2 := by
  induction items generalizing device health with
  | nil => exact ⟨rfl, rfl⟩
  | cons entry items ih =>
    obtain ⟨name, item⟩ := entry
    by_cases hshadow : isBmsShadowItem name = true
    · rw [(texts_cons_shadow hshadow).1] at h
      rw [collect_cons_shadow hshadow, (texts_cons_shadow hshadow).2]
      exact ih h
    · rw [(texts_cons hshadow).1, Dict.noteAll_eq_nil_iff, List.forall_mem_cons] at h
      obtain ⟨hsame, hrest⟩ := h
      rw [collect_cons_same hshadow hsame, (texts_cons hshadow).2]
      obtain ⟨hcache, hfound⟩ :=
        @ih device (health.note name (dump (healthKeyJson item))).1
          (Dict.noteAll_eq_nil_iff.mpr hrest)
      refine ⟨hcache, ?_⟩
      dsimp only
      rw [hfound]
      rfl

theorem nodup_texts {snap : SystemSnapshot} :
    ((deviceTexts dump snap.items).map Prod.fst).Nodup ∧
      ((healthTexts dump snap.items).map Prod.fst).Nodup := by
  have hnames : ((snap.items.filter fun entry => ¬ isBmsShadowItem entry.1).map Prod.fst).Nodup :=
    snap.nodup.sublist (List.filter_sublist.map Prod.fst)
  constructor
  · rw [deviceTexts, List.map_map]
    exact hnames
  · rw [healthTexts, List.map_map]
    exact hnames

/-- A snapshot leaves the caches alone exactly when they have all its texts. -/
theorem collect_eq_self_iff {snap : SystemSnapshot} :
    (collectChangedDevices dump device health snap.items).1 = (device, health) ↔
      device.Has (deviceTexts dump snap.items) ∧ health.Has (healthTexts dump snap.items) := by
  rw [Prod.ext_iff, collect_device, Dict.noteAll_eq_self_iff]
  refine and_congr_right fun hdevice => ?_
  rw [(collect_of_quiet ((Dict.has_iff_of_nodup nodup_texts.1).mp hdevice)).1,
    Dict.noteAll_eq_self_iff]

/-- Where no device is found changed, the caches have all texts. -/
theorem collect_of_none {snap : SystemSnapshot}
    (h : (collectChangedDevices dump device health snap.items).2 = []) :
    (collectChangedDevices dump device health snap.items).1 = (device, health) := by
  have hdevice : (device.noteAll (deviceTexts dump snap.items)).2 = [] := by
    rw [List.eq_nil_iff_forall_not_mem]
    intro name hname
    have hmem : name ∈ (collectChangedDevices dump device health snap.items).2 := mem_collect hname
    rw [h] at hmem
    cases hmem
  rw [(collect_of_quiet hdevice).2] at h
  exact collect_eq_self_iff.mpr
    ⟨(Dict.has_iff_of_nodup nodup_texts.1).mpr hdevice, (Dict.has_iff_of_nodup nodup_texts.2).mpr h⟩

end Collect

/-! ### What a transaction writes -/

section Write

variable {c c' : Conn SystemDb} {snapshotId tsMs : Nat} {changedDevices : List String}
  {snap : SystemSnapshot}

/-- The rows that are there stay, and so do the tables, without a new one. -/
structure Keeps (before after : SystemDb) : Prop where
  health : ∀ row ∈ before.healthRows, row ∈ after.healthRows
  state : ∀ t, ∀ row ∈ before.stateRows t, row ∈ after.stateRows t
  tables : ∀ t, after.has t = before.has t

theorem Keeps.refl (db : SystemDb) : Keeps db db := ⟨fun _ h => h, fun _ _ h => h, fun _ => rfl⟩

theorem Keeps.trans {db₁ db₂ db₃ : SystemDb} (h₁ : Keeps db₁ db₂) (h₂ : Keeps db₂ db₃) :
    Keeps db₁ db₃ :=
  ⟨fun row h => h₂.health row (h₁.health row h), fun t row h => h₂.state t row (h₁.state t row h),
    fun t => (h₂.tables t).trans (h₁.tables t)⟩

theorem of_insertSystemMain {id : Nat} (h : insertSystemMain snap c = some (id, c')) :
    Keeps c.db c'.db ∧ id = c.db.nextMainId := by
  have hrun := Lib.Sql.of_statement h
  obtain ⟨t, ht, hr⟩ := Option.map_eq_some_iff.mp hrun
  rw [← (Prod.mk.inj hr).2, ← (Prod.mk.inj hr).1, SystemDb.nextMainId, ht]
  refine ⟨⟨fun _ hrow => hrow, fun _ _ hrow => hrow, fun u => ?_⟩, rfl⟩
  cases u with
  | snapshotMain =>
    show true = c.db.main.isSome
    rw [ht]
    rfl
  | _ => rfl

theorem of_insertDeviceHealth {name : String} {item : SnapshotItem}
    (h : insertDeviceHealth snapshotId tsMs name item c = some ((), c')) :
    Keeps c.db c'.db ∧
      ⟨snapshotId, tsMs, name, item.toSnapshotItem⟩ ∈ c'.db.healthRows := by
  have hrun := Lib.Sql.of_statement h
  obtain ⟨t, ht, hr⟩ := Option.map_eq_some_iff.mp hrun
  have hrows : c'.db.healthRows =
      c.db.healthRows ++ [⟨snapshotId, tsMs, name, item.toSnapshotItem⟩] := by
    rw [← (Prod.mk.inj hr).2, SystemDb.healthRows, SystemDb.healthRows, ht]
    exact Table.values_insert t _
  rw [hrows]
  refine ⟨⟨fun row hrow => ?_, ?_, ?_⟩, List.mem_append_right _ (List.mem_singleton_self _)⟩
  · rw [hrows]
    exact List.mem_append_left _ hrow
  · rw [← (Prod.mk.inj hr).2]
    exact fun _ _ hrow => hrow
  · rw [← (Prod.mk.inj hr).2]
    intro u
    cases u with
    | deviceHealth =>
      show true = c.db.deviceHealth.isSome
      rw [ht]
      rfl
    | _ => rfl

theorem of_insertStateRow {row : StateRow} (h : insertStateRow row c = some ((), c')) :
    Keeps c.db c'.db ∧ row ∈ c'.db.stateRows row.content.table := by
  have hrun := Lib.Sql.of_statement h
  obtain ⟨t, ht, hr⟩ := Option.map_eq_some_iff.mp hrun
  have hself : c'.db.state row.content.table = some (t.insert row) := by
    rw [← (Prod.mk.inj hr).2]
    exact Function.update_self _ _ _
  have hrows : c'.db.stateRows row.content.table =
      c.db.stateRows row.content.table ++ [row] := by
    rw [SystemDb.stateRows, SystemDb.stateRows, ht, hself]
    exact Table.values_insert t row
  have hother : ∀ u, u ≠ row.content.table → c'.db.state u = c.db.state u := by
    intro u hu
    rw [← (Prod.mk.inj hr).2]
    exact Function.update_of_ne hu _ _
  refine ⟨⟨?_, fun u old hold => ?_, fun u => ?_⟩, ?_⟩
  · rw [← (Prod.mk.inj hr).2]
    exact fun _ hrow => hrow
  · by_cases hu : u = row.content.table
    · subst hu
      rw [hrows]
      exact List.mem_append_left _ hold
    · rw [SystemDb.stateRows, hother u hu]
      exact hold
  · cases u with
    | state u =>
      show (c'.db.state u).isSome = (c.db.state u).isSome
      by_cases hu : u = row.content.table
      · rw [hu, ht, hself]
        rfl
      · rw [hother u hu]
    | _ =>
      rw [← (Prod.mk.inj hr).2]
      rfl
  · rw [hrows]
    exact List.mem_append_right _ (List.mem_singleton_self _)

/-- A loop of statements that keep the rows, each of which leaves what it is there for. -/
theorem forM_leaves {α : Type} {f : α → Tx SystemDb Unit} {Q : α → SystemDb → Prop} {xs : List α}
    (hstep : ∀ x ∈ xs, ∀ c c', f x c = some ((), c') → Keeps c.db c'.db ∧ Q x c'.db)
    (hkeep : ∀ x db db', Keeps db db' → Q x db → Q x db') (h : xs.forM f c = some ((), c')) :
    Keeps c.db c'.db ∧ ∀ x ∈ xs, Q x c'.db := by
  refine Lib.Sql.forM_induction
    (P := fun done c' => Keeps c.db c'.db ∧ ∀ x ∈ done, Q x c'.db) ?_
    ⟨Keeps.refl _, fun _ hx => absurd hx List.not_mem_nil⟩ h
  rintro before x c₁ c₂ hx ⟨hkeeps, hdone⟩ hfx
  obtain ⟨hkeeps₂, hQ⟩ := hstep x hx c₁ c₂ hfx
  refine ⟨hkeeps.trans hkeeps₂, fun y hy => ?_⟩
  rcases List.mem_append.mp hy with hy | hy
  · exact hkeep y _ _ hkeeps₂ (hdone y hy)
  · rw [List.mem_singleton.mp hy]
    exact hQ

/-- The rows of the state of a device. -/
def HasState (snapshotId tsMs : Nat) (entry : String × SnapshotItem) (db : SystemDb) : Prop :=
  ∀ content ∈ stateContents entry.1 entry.2,
    ⟨snapshotId, tsMs, entry.1, content⟩ ∈ db.stateRows content.table

def HasHealth (snapshotId tsMs : Nat) (entry : String × SnapshotItem) (db : SystemDb) : Prop :=
  ⟨snapshotId, tsMs, entry.1, entry.2.toSnapshotItem⟩ ∈ db.healthRows

theorem of_insertState {entry : String × SnapshotItem}
    (h : insertState snapshotId tsMs entry.1 entry.2 c = some ((), c')) :
    Keeps c.db c'.db ∧ HasState snapshotId tsMs entry c'.db :=
  forM_leaves
    (Q := fun (content : StateContent) (db : SystemDb) =>
      StateRow.mk snapshotId tsMs entry.1 content ∈ db.stateRows content.table)
    (fun _ _ _ _ hrow => of_insertStateRow hrow)
    (fun content _ _ hkeeps hrow => hkeeps.state content.table _ hrow) h

/-- A transaction that succeeds has a row of the health of each device, and the rows of the state
of each that was found changed. -/
theorem of_write (h : write changedDevices snap c = some ((), c')) :
    Keeps c.db c'.db ∧
      ∀ entry ∈ snap.items, ¬ (isBmsShadowItem entry.1 ∨ entry.1 = "BMS") →
        HasHealth c.db.nextMainId snap.timestampMs entry c'.db ∧
          (entry.1 ∈ changedDevices →
            HasState c.db.nextMainId snap.timestampMs entry c'.db) := by
  obtain ⟨snapshotId, c₁, hmain, hrest⟩ := Lib.Sql.of_bind h
  obtain ⟨⟨⟩, c₂, hhealth, hstate⟩ := Lib.Sql.of_bind hrest
  obtain ⟨hkeeps₁, rfl⟩ := of_insertSystemMain hmain
  have hhealth := forM_leaves
    (Q := fun (x : String × SnapshotItem) db => ¬ (isBmsShadowItem x.1 ∨ x.1 = "BMS") →
      HasHealth c.db.nextMainId snap.timestampMs x db) ?_
    (fun _ _ _ hkeeps hQ hx => hkeeps.health _ (hQ hx)) hhealth
  · have hstate := forM_leaves
      (Q := fun (x : String × SnapshotItem) db =>
        ¬ ((isBmsShadowItem x.1 ∨ x.1 = "BMS") ∨ x.1 ∉ changedDevices) → HasState
          c.db.nextMainId snap.timestampMs x db) ?_
      (fun _ _ _ hkeeps hQ hx content hcontent => hkeeps.state _ _ (hQ hx content hcontent)) hstate
    · obtain ⟨hkeeps₂, hhealth⟩ := hhealth
      obtain ⟨hkeeps₃, hstate⟩ := hstate
      refine ⟨(hkeeps₁.trans hkeeps₂).trans hkeeps₃, fun entry hentry hbms => ⟨?_, ?_⟩⟩
      · exact hkeeps₃.health _ (hhealth entry hentry hbms)
      · intro hchanged
        exact hstate entry hentry (not_or.mpr ⟨hbms, not_not.mpr hchanged⟩)
    · intro x _ c c' hx
      split at hx
      · rename_i hskip
        rw [← (Prod.mk.inj (Option.some_inj.mp hx)).2]
        exact ⟨Keeps.refl _, fun hnot => absurd hskip hnot⟩
      · obtain ⟨hkeeps, hrows⟩ := of_insertState hx
        exact ⟨hkeeps, fun _ => hrows⟩
  · intro x _ c c' hx
    split at hx
    · rename_i hskip
      rw [← (Prod.mk.inj (Option.some_inj.mp hx)).2]
      exact ⟨Keeps.refl _, fun hnot => absurd hskip hnot⟩
    · obtain ⟨hkeeps, hrow⟩ := of_insertDeviceHealth hx
      exact ⟨hkeeps, fun _ => hrow⟩

end Write

/-! ### Which tables there are -/

section Tables

theorem has_create (db : SystemDb) (t u : SystemTable) :
    (db.create t).has u = (decide (u = t) || db.has u) := by
  cases t with
  | snapshotMain => cases u <;> simp [SystemDb.create, SystemDb.has]
  | deviceHealth => cases u <;> simp [SystemDb.create, SystemDb.has]
  | gasPollEvent => cases u <;> simp [SystemDb.create, SystemDb.has]
  | state t =>
    cases u with
    | state u =>
      show (Function.update db.state t _ u).isSome = (decide (SystemTable.state u = .state t) || _)
      by_cases hu : u = t
      · subst hu
        rw [Function.update_self]
        simp
      · rw [Function.update_of_ne hu]
        simp [SystemDb.has, hu]
    | _ => simp [SystemDb.create, SystemDb.has]

/-- The index on a table that has just been created is made. -/
theorem script_withIndex (t : SystemTable) (rest : List SchemaStatement) (db : SystemDb) :
    script SystemDb.exec none (withIndex t ++ rest) db =
      script SystemDb.exec none rest (db.create t) := by
  have hindex : SystemDb.exec (.createIndex t) (db.create t) = some (db.create t) :=
    if_pos (by rw [has_create]; simp)
  rw [withIndex, List.cons_append, Lib.Sql.script_of_some rfl, List.cons_append,
    Lib.Sql.script_of_some hindex, List.nil_append]

theorem has_script_states (ts : List StateTable) (db : SystemDb) (t : SystemTable) :
    (script SystemDb.exec none (ts.flatMap fun t => withIndex (.state t)) db).1.has t =
      (decide (∃ u ∈ ts, t = .state u) || db.has t) := by
  induction ts generalizing db with
  | nil => simp [script]
  | cons u ts ih =>
    rw [List.flatMap_cons, script_withIndex, ih, has_create, ← Bool.or_assoc]
    congr 1
    simp [Bool.or_comm]

/-- The schema adds the tables of the states exactly where the file has the table that it does
not create. -/
theorem has_initSchema (db : SystemDb) (t : StateTable) :
    (initSchema none db).1.has (.state t) = (db.gasPollEvent || db.has (.state t)) := by
  have hgas : ((db.create .snapshotMain).create .deviceHealth).has .gasPollEvent =
      db.gasPollEvent := rfl
  have hstate : ((db.create .snapshotMain).create .deviceHealth).has (.state t) =
      db.has (.state t) := rfl
  rw [initSchema, schema, List.append_assoc, List.append_assoc, script_withIndex,
    script_withIndex, List.singleton_append]
  cases hevent : db.gasPollEvent with
  | true =>
    have hindex : SystemDb.exec (.createIndex .gasPollEvent)
        ((db.create .snapshotMain).create .deviceHealth) =
          some ((db.create .snapshotMain).create .deviceHealth) :=
      if_pos (hgas.trans hevent)
    have hall : ∃ u ∈ StateTable.all, SystemTable.state t = .state u := by
      refine ⟨t, ?_, rfl⟩
      cases t <;> decide
    rw [Lib.Sql.script_of_some hindex, has_script_states, decide_eq_true hall, Bool.true_or,
      Bool.true_or]
  | false =>
    have hindex : SystemDb.exec (.createIndex .gasPollEvent)
        ((db.create .snapshotMain).create .deviceHealth) = none :=
      if_neg (by rw [hgas, hevent]; decide)
    rw [Lib.Sql.script_of_none hindex, hstate, Bool.false_or]

end Tables

end SnapshotFlatSink

end Snapshot
end EnergyStorage
