import EnergyStorage.Bms.Proto
import EnergyStorage.Lib.ChangeCache
import EnergyStorage.Lib.Machine
import EnergyStorage.Lib.Sql
import EnergyStorage.Snapshot.SystemSnapshot

/-! # The flat tables of the BMS

A snapshot of the BMS goes into the tables in one transaction: a row of its own, a row of the
health of each instance, and a row for each group whose text has changed. -/

namespace EnergyStorage
namespace Snapshot

open Lib (Dict Json Machine)
open Lib.Sql (Value Table Tx Conn Faults statement transact afterwards bindRow)

/-- The raw frame of a message, as it was last received. -/
structure BmsGroupData where
  tsMs : BitVec 64 := 0
  rxCount : BitVec 32 := 0
  canId : BitVec 32 := 0
  cycleMs : BitVec 32 := -1
  rawHex : String := ""

structure BmsInstanceData where
  bmsIndex : BitVec 32 := 0
  lastMsgName : String := ""
  online : Bool := false
  lastOkMs : BitVec 64 := 0
  disconnectWindowMs : BitVec 32 := 0
  lastOfflineMs : BitVec 64 := 0
  disconnectCount : BitVec 32 := 0
  groups : List (String × BmsGroupData) := []

/-- The instances and the groups of each are those of maps: no name comes twice. -/
structure BmsSnapshot where
  tsMs : BitVec 64 := 0
  items : List (String × BmsInstanceData) := []
  nodup : (items.map Prod.fst).Nodup
  groupsNodup : ∀ entry ∈ items, (entry.2.groups.map Prod.fst).Nodup

/-- A group with its instance. -/
structure GroupEntry where
  instanceName : String
  inst : BmsInstanceData
  msgName : String
  group : BmsGroupData

/-- The groups of all instances, in the order of the loops. -/
def BmsSnapshot.groupEntries (snap : BmsSnapshot) : List GroupEntry :=
  snap.items.flatMap fun entry => entry.2.groups.map fun g => ⟨entry.1, entry.2, g.1, g.2⟩

/-! ### Texts -/

def hexId (id : BitVec 32) : String := "0x" ++ Bms.BmsProto.hex 8 id.toNat

def BmsGroupData.toJson (g : BmsGroupData) : Json :=
  .object ([("ts_ms", .unsigned g.tsMs.toNat), ("rx_count", .unsigned g.rxCount.toNat)] ++
    (if g.canId ≠ 0 then [("can_id", .string (hexId g.canId))] else []) ++
    (if g.rawHex ≠ "" then [("raw_hex", .string g.rawHex)] else []))

def BmsInstanceData.healthKeyJson (inst : BmsInstanceData) : Json :=
  .object [
    ("online", .boolean inst.online),
    ("last_ok_ms", .unsigned inst.lastOkMs.toNat),
    ("disconnect_window_ms", .unsigned inst.disconnectWindowMs.toNat),
    ("last_offline_ms", .unsigned inst.lastOfflineMs.toNat),
    ("disconnect_count", .unsigned inst.disconnectCount.toNat)]

def groupKey (instanceName msgName : String) : String := instanceName ++ "::" ++ msgName

/-! ### The tables -/

/-- The tables that the schema creates. -/
structure BmsDb where
  main : Table (Dict String Value) := Table.empty
  /-- Index and name, both unique. -/
  instances : Table (Int × String) := Table.empty
  /-- The names are unique. -/
  groupTypes : Table String := Table.empty
  health : Table (Dict String Value) := Table.empty
  raw : Table (Dict String Value) := Table.empty

def mainColumns : List String := ["ts_ms", "instance_count"]

def healthColumns : List String :=
  ["snapshot_id", "ts_ms", "bms_id", "online", "last_ok_ms", "timeout_count", "last_msg_group_id"]

def rawColumns : List String :=
  ["snapshot_id", "ts_ms", "bms_id", "group_type_id", "group_ts_ms", "can_id", "raw_hex",
    "rx_count", "cycle_ms"]

def boolValue (b : Bool) : Value := .int (if b then 1 else 0)

/-- The bindings still follow the longer list of columns that the table once had. -/
def healthRow (snapshotId : Nat) (tsMs : BitVec 64) (bmsId : Nat) (inst : BmsInstanceData) :
    Dict String Value :=
  bindRow healthColumns [
    (1, .int snapshotId),
    (2, .int tsMs.toInt),
    (3, .int bmsId),
    (4, boolValue inst.online),
    (5, .int inst.lastOkMs.toInt),
    (6, boolValue inst.online),
    (7, .int inst.lastOkMs.toInt),
    (8, .int inst.disconnectWindowMs.toInt),
    (9, .int inst.lastOfflineMs.toInt),
    (10, .int inst.disconnectCount.toInt)]

def rawRow (snapshotId : Nat) (tsMs : BitVec 64) (bmsId groupTypeId : Nat) (g : BmsGroupData) :
    Dict String Value :=
  bindRow rawColumns [
    (1, .int snapshotId),
    (2, .int tsMs.toInt),
    (3, .int bmsId),
    (4, .int groupTypeId),
    (5, .int g.tsMs.toInt),
    (6, .int g.canId.toNat),
    (7, .text g.rawHex),
    (8, .int g.rxCount.toInt),
    (9, if g.cycleMs.toInt ≥ 0 then .int g.cycleMs.toInt else .null)]

/-! ### The statements of a transaction -/

/-- `INSERT OR IGNORE` into the instances. -/
def enterInstance (t : Table (Int × String)) (name : String) (index : BitVec 32) :
    Table (Int × String) :=
  t.insertOrIgnore (fun r => r.1 = index.toInt ∨ r.2 = name) (index.toInt, name)

/-- `SELECT id … WHERE name=? LIMIT 1`. -/
def instanceId (t : Table (Int × String)) (name : String) : Option Nat :=
  t.idOf fun r => r.2 = name

def enterGroupType (t : Table String) (name : String) : Table String :=
  t.insertOrIgnore (fun r => r = name) name

def groupTypeId (t : Table String) (name : String) : Option Nat :=
  t.idOf fun r => r = name

/-- Fails where no row has the name. -/
def ensureBmsInstance (name : String) (index : BitVec 32) : Tx BmsDb Nat := do
  statement fun db => some ((), { db with instances := enterInstance db.instances name index })
  statement fun db => (instanceId db.instances name).map fun id => (id, db)

def ensureGroupType (name : String) : Tx BmsDb Nat := do
  statement fun db => some ((), { db with groupTypes := enterGroupType db.groupTypes name })
  statement fun db => (groupTypeId db.groupTypes name).map fun id => (id, db)

def insertSnapshotMain (snap : BmsSnapshot) : Tx BmsDb Nat :=
  statement fun db => some (db.main.nextId,
    { db with
      main := db.main.insert (bindRow mainColumns
        [(1, .int snap.tsMs.toInt), (2, .int (BitVec.ofNat 32 snap.items.length).toInt)]) })

def ensureLastMsg (inst : BmsInstanceData) : Tx BmsDb Nat :=
  if inst.lastMsgName ≠ "" then ensureGroupType inst.lastMsgName else pure 0

/-- The id of the last message is looked up, and not bound. -/
def insertInstanceHealth (snapshotId : Nat) (tsMs : BitVec 64) (name : String)
    (inst : BmsInstanceData) : Tx BmsDb Unit := do
  let bmsId ← ensureBmsInstance name inst.bmsIndex
  let _ ← ensureLastMsg inst
  statement fun db => some ((),
    { db with health := db.health.insert (healthRow snapshotId tsMs bmsId inst) })

def insertGroupRaw (snapshotId : Nat) (tsMs : BitVec 64) (e : GroupEntry) : Tx BmsDb Unit := do
  let bmsId ← ensureBmsInstance e.instanceName e.inst.bmsIndex
  let typeId ← ensureGroupType e.msgName
  statement fun db => some ((),
    { db with raw := db.raw.insert (rawRow snapshotId tsMs bmsId typeId e.group) })

/-! ### The sink -/

structure BmsFlatSink where
  writeMainEverySnapshot : Bool := true
  db : BmsDb := {}
  lastGroupJsonCache : Dict String String := Dict.empty
  lastHealthJsonCache : Dict String String := Dict.empty

/-- A snapshot, and what fails of its transaction. -/
structure BmsWrite where
  snap : BmsSnapshot
  faults : Faults := {}

namespace BmsFlatSink

-- how a JSON value is written out
variable (dump : Json → String)

def groupTexts (snap : BmsSnapshot) : List (String × String) :=
  snap.groupEntries.map fun e => (groupKey e.instanceName e.msgName, dump e.group.toJson)

def healthTexts (snap : BmsSnapshot) : List (String × String) :=
  snap.items.map fun entry => (entry.1, dump entry.2.healthKeyJson)

/-- What is done inside the transaction, with the cache of the health as it is by then. -/
def write (healthCache : Dict String String) (changedGroups : List String) (snap : BmsSnapshot) :
    Tx BmsDb Unit := do
  let snapshotId ← insertSnapshotMain snap
  snap.items.forM fun entry =>
    if (healthCache.get entry.1).isSome then
      insertInstanceHealth snapshotId snap.tsMs entry.1 entry.2
    else pure ()
  snap.groupEntries.forM fun e =>
    if groupKey e.instanceName e.msgName ∈ changedGroups then
      insertGroupRaw snapshotId snap.tsMs e
    else pure ()

/-- Both caches take the texts over before the transaction begins. -/
def onBmsSnapshot (s : BmsFlatSink) (e : BmsWrite) : BmsFlatSink :=
  let groups := s.lastGroupJsonCache.noteAll (groupTexts dump e.snap)
  let health := s.lastHealthJsonCache.noteAll (healthTexts dump e.snap)
  let s := { s with lastGroupJsonCache := groups.1, lastHealthJsonCache := health.1 }
  if ¬ s.writeMainEverySnapshot ∧ groups.2 = [] ∧ health.2 = [] then s
  else { s with db := afterwards e.faults (write health.1 groups.2 e.snap) s.db }

/-- The keys of the groups that the sink finds changed. -/
def changedKeys (s : BmsFlatSink) (snap : BmsSnapshot) : List String :=
  (s.lastGroupJsonCache.noteAll (groupTexts dump snap)).2

/-- The cache of the health by the time the rows are written. -/
def healthCacheAfter (s : BmsFlatSink) (snap : BmsSnapshot) : Dict String String :=
  (s.lastHealthJsonCache.noteAll (healthTexts dump snap)).1

theorem onBmsSnapshot_db (s : BmsFlatSink) (e : BmsWrite) :
    (s.onBmsSnapshot dump e).db =
      if ¬ s.writeMainEverySnapshot ∧ changedKeys dump s e.snap = [] ∧
          (s.lastHealthJsonCache.noteAll (healthTexts dump e.snap)).2 = [] then s.db
      else afterwards e.faults
        (write (healthCacheAfter dump s e.snap) (changedKeys dump s e.snap) e.snap) s.db := by
  unfold onBmsSnapshot
  exact apply_ite BmsFlatSink.db _ _ _

end BmsFlatSink

/-! ### What the statements do -/

theorem prefix_enterInstance (t : Table (Int × String)) (name : String) (index : BitVec 32) :
    t.rows <+: (enterInstance t name index).rows :=
  Table.prefix_insertOrIgnore _ _ _

/-- A name that is in the table is not entered again. -/
theorem enterInstance_of_known {t : Table (Int × String)} {name : String} (index : BitVec 32)
    (h : (instanceId t name).isSome) : enterInstance t name index = t := by
  obtain ⟨row, hmem, hrow⟩ := Table.isSome_idOf_iff.mp h
  apply Table.insertOrIgnore_of_clash
  exact ⟨row, hmem, decide_eq_true (Or.inr (of_decide_eq_true hrow))⟩

theorem known_of_enterInstance {t : Table (Int × String)} {name other : String} {index : BitVec 32}
    (h : (instanceId (enterInstance t name index) other).isSome) :
    (instanceId t other).isSome ∨ name = other := by
  rcases Table.isSome_idOf_of_insertOrIgnore h with hold | hnew
  · exact Or.inl hold
  · exact Or.inr (of_decide_eq_true hnew)

theorem groupType_known (t : Table String) (name : String) :
    (groupTypeId (enterGroupType t name) name).isSome :=
  Table.isSome_idOf_insertOrIgnore (fun _ h => h) (decide_eq_true rfl)

/-- The last message of an instance, if there is one. -/
def enterLastMsg (t : Table String) (inst : BmsInstanceData) : Table String :=
  if inst.lastMsgName ≠ "" then enterGroupType t inst.lastMsgName else t

section Statements

variable {c c' : Conn BmsDb} {name : String} {index : BitVec 32} {id : Nat}

theorem of_ensureBmsInstance (h : ensureBmsInstance name index c = some (id, c')) :
    c'.db = { c.db with instances := enterInstance c.db.instances name index } ∧
      instanceId c'.db.instances name = some id := by
  obtain ⟨⟨⟩, c₁, hinsert, hselect⟩ := Lib.Sql.of_bind h
  have hdb := (Prod.mk.inj (Option.some_inj.mp (Lib.Sql.of_statement hinsert))).2
  have hfound := Lib.Sql.of_statement hselect
  obtain ⟨id', hid, heq⟩ := Option.map_eq_some_iff.mp hfound
  obtain ⟨rfl, hsame⟩ := Prod.mk.inj heq
  rw [← hsame, ← hdb]
  rw [← hdb] at hid
  exact ⟨rfl, hid⟩

theorem of_ensureGroupType (h : ensureGroupType name c = some (id, c')) :
    c'.db = { c.db with groupTypes := enterGroupType c.db.groupTypes name } ∧
      groupTypeId c'.db.groupTypes name = some id := by
  obtain ⟨⟨⟩, c₁, hinsert, hselect⟩ := Lib.Sql.of_bind h
  have hdb := (Prod.mk.inj (Option.some_inj.mp (Lib.Sql.of_statement hinsert))).2
  have hfound := Lib.Sql.of_statement hselect
  obtain ⟨id', hid, heq⟩ := Option.map_eq_some_iff.mp hfound
  obtain ⟨rfl, hsame⟩ := Prod.mk.inj heq
  rw [← hsame, ← hdb]
  rw [← hdb] at hid
  exact ⟨rfl, hid⟩

theorem of_insertInstanceHealth {snapshotId : Nat} {tsMs : BitVec 64} {inst : BmsInstanceData}
    (h : insertInstanceHealth snapshotId tsMs name inst c = some ((), c')) :
    ∃ id, instanceId c'.db.instances name = some id ∧
      c'.db = { c.db with
        instances := enterInstance c.db.instances name inst.bmsIndex
        groupTypes := enterLastMsg c.db.groupTypes inst
        health := c.db.health.insert (healthRow snapshotId tsMs id inst) } := by
  obtain ⟨id, c₁, hinstance, hrest⟩ := Lib.Sql.of_bind h
  obtain ⟨gid, c₂, hgroup, hinsert⟩ := Lib.Sql.of_bind hrest
  obtain ⟨h₁, hid⟩ := of_ensureBmsInstance hinstance
  have h₂ : c₂.db = { c₁.db with groupTypes := enterLastMsg c₁.db.groupTypes inst } := by
    unfold enterLastMsg
    unfold ensureLastMsg at hgroup
    split at hgroup
    · rename_i hname
      rw [if_pos hname]
      exact (of_ensureGroupType hgroup).1
    · rename_i hname
      rw [if_neg hname, ← (Prod.mk.inj (Option.some_inj.mp hgroup)).2]
  have h₃ := (Prod.mk.inj (Option.some_inj.mp (Lib.Sql.of_statement hinsert))).2
  refine ⟨id, ?_, ?_⟩
  · rw [← h₃, h₂]
    exact hid
  · rw [← h₃, h₂, h₁]

theorem of_insertGroupRaw {snapshotId : Nat} {tsMs : BitVec 64} {e : GroupEntry}
    (h : insertGroupRaw snapshotId tsMs e c = some ((), c')) :
    ∃ id gid, instanceId c'.db.instances e.instanceName = some id ∧
      groupTypeId c'.db.groupTypes e.msgName = some gid ∧
      c'.db = { c.db with
        instances := enterInstance c.db.instances e.instanceName e.inst.bmsIndex
        groupTypes := enterGroupType c.db.groupTypes e.msgName
        raw := c.db.raw.insert (rawRow snapshotId tsMs id gid e.group) } := by
  obtain ⟨id, c₁, hinstance, hrest⟩ := Lib.Sql.of_bind h
  obtain ⟨gid, c₂, hgroup, hinsert⟩ := Lib.Sql.of_bind hrest
  obtain ⟨h₁, hid⟩ := of_ensureBmsInstance hinstance
  obtain ⟨h₂, hgid⟩ := of_ensureGroupType hgroup
  have h₃ := (Prod.mk.inj (Option.some_inj.mp (Lib.Sql.of_statement hinsert))).2
  refine ⟨id, gid, ?_, ?_, ?_⟩
  · rw [← h₃, h₂]
    exact hid
  · rw [← h₃]
    exact hgid
  · rw [← h₃, h₂, h₁]

/-! ### Without failures -/

theorem ensureBmsInstance_unlimited (name : String) (index : BitVec 32) (h : c.left = none) :
    ensureBmsInstance name index c =
      (instanceId (enterInstance c.db.instances name index) name).map fun id =>
        (id, { db := { c.db with instances := enterInstance c.db.instances name index }
               left := none }) := by
  unfold ensureBmsInstance
  rw [Lib.Sql.bind_of_some (Lib.Sql.statement_of_unlimited h),
    Lib.Sql.statement_of_unlimited rfl, Option.map_map]
  rfl

theorem ensureGroupType_unlimited (name : String) (h : c.left = none) :
    ∃ id, ensureGroupType name c =
      some (id, { db := { c.db with groupTypes := enterGroupType c.db.groupTypes name }
                  left := none }) := by
  obtain ⟨id, hid⟩ := Option.isSome_iff_exists.mp (groupType_known c.db.groupTypes name)
  refine ⟨id, ?_⟩
  unfold ensureGroupType
  rw [Lib.Sql.bind_of_some (Lib.Sql.statement_of_unlimited h),
    Lib.Sql.statement_of_unlimited rfl, Option.map_map]
  show (groupTypeId (enterGroupType c.db.groupTypes name) name).map _ = _
  rw [hid]
  rfl

theorem insertSnapshotMain_unlimited (snap : BmsSnapshot) (hleft : c.left = none) :
    ∃ c', insertSnapshotMain snap c = some (c.db.main.nextId, c') ∧ c'.left = none ∧
      c'.db.instances = c.db.instances := by
  unfold insertSnapshotMain
  rw [Lib.Sql.statement_of_unlimited hleft]
  exact ⟨_, rfl, rfl, rfl⟩

theorem insertInstanceHealth_unlimited (snapshotId : Nat) (tsMs : BitVec 64)
    {inst : BmsInstanceData} (hleft : c.left = none)
    (hknown : (instanceId (enterInstance c.db.instances name inst.bmsIndex) name).isSome) :
    ∃ c', insertInstanceHealth snapshotId tsMs name inst c = some ((), c') ∧ c'.left = none := by
  obtain ⟨id, hid⟩ := Option.isSome_iff_exists.mp hknown
  have hgroup : ∀ c : Conn BmsDb, c.left = none →
      ∃ gid c₁, ensureLastMsg inst c = some (gid, c₁) ∧ c₁.left = none := by
    intro c hleft
    unfold ensureLastMsg
    split
    · obtain ⟨gid, hgid⟩ := ensureGroupType_unlimited inst.lastMsgName hleft
      exact ⟨gid, _, hgid, rfl⟩
    · exact ⟨0, c, rfl, hleft⟩
  have hinstance := ensureBmsInstance_unlimited name inst.bmsIndex hleft
  rw [hid] at hinstance
  obtain ⟨gid, c₁, hgid, hc₁⟩ := hgroup
    { db := { c.db with instances := enterInstance c.db.instances name inst.bmsIndex }
      left := none } rfl
  unfold insertInstanceHealth
  rw [Lib.Sql.bind_of_some hinstance, Lib.Sql.bind_of_some hgid,
    Lib.Sql.statement_of_unlimited hc₁]
  exact ⟨_, rfl, rfl⟩

theorem insertGroupRaw_unlimited (snapshotId : Nat) (tsMs : BitVec 64) {e : GroupEntry}
    (hleft : c.left = none)
    (hknown : (instanceId (enterInstance c.db.instances e.instanceName e.inst.bmsIndex)
      e.instanceName).isSome) :
    ∃ c', insertGroupRaw snapshotId tsMs e c = some ((), c') ∧ c'.left = none := by
  obtain ⟨id, hid⟩ := Option.isSome_iff_exists.mp hknown
  have hinstance :=
    ensureBmsInstance_unlimited e.instanceName e.inst.bmsIndex hleft
  rw [hid] at hinstance
  obtain ⟨gid, hgid⟩ := ensureGroupType_unlimited e.msgName
    (c := { db := { c.db with
                    instances := enterInstance c.db.instances e.instanceName e.inst.bmsIndex }
            left := none }) rfl
  unfold insertGroupRaw
  rw [Lib.Sql.bind_of_some hinstance, Lib.Sql.bind_of_some hgid,
    Lib.Sql.statement_of_unlimited rfl]
  exact ⟨_, rfl, rfl⟩

end Statements

/-! ### The loops -/

/-- The table once all instances are entered. -/
def enterInstances (t : Table (Int × String)) (items : List (String × BmsInstanceData)) :
    Table (Int × String) :=
  items.foldl (fun t entry => enterInstance t entry.1 entry.2.bmsIndex) t

def enterLastMsgs (t : Table String) (items : List (String × BmsInstanceData)) : Table String :=
  items.foldl (fun t entry => enterLastMsg t entry.2) t

def enterMessages (t : Table String) (entries : List GroupEntry) : Table String :=
  entries.foldl (fun t e => enterGroupType t e.msgName) t

theorem instanceId_enterInstance {t : Table (Int × String)} {name : String}
    (h : (instanceId t name).isSome) (other : String) (index : BitVec 32) :
    instanceId (enterInstance t other index) name = instanceId t name := by
  obtain ⟨id, hid⟩ := Option.isSome_iff_exists.mp h
  rw [hid]
  exact Table.idOf_of_prefix (prefix_enterInstance t other index) hid

theorem groupTypeId_enterGroupType {t : Table String} {name : String}
    (h : (groupTypeId t name).isSome) (other : String) :
    groupTypeId (enterGroupType t other) name = groupTypeId t name := by
  obtain ⟨id, hid⟩ := Option.isSome_iff_exists.mp h
  rw [hid]
  exact Table.idOf_of_prefix (Table.prefix_insertOrIgnore _ _ _) hid

theorem known_of_enterInstances {items : List (String × BmsInstanceData)} {name : String}
    (hnew : name ∉ items.map Prod.fst) {t : Table (Int × String)}
    (h : (instanceId (enterInstances t items) name).isSome) : (instanceId t name).isSome := by
  induction items generalizing t with
  | nil => exact h
  | cons entry items ih =>
    rw [List.map_cons, List.mem_cons, not_or] at hnew
    exact (known_of_enterInstance (ih hnew.2 h)).resolve_right (Ne.symm hnew.1)

/-- The rows of the health of some instances. -/
structure HealthWritten (snapshotId : Nat) (tsMs : BitVec 64) (before : BmsDb)
    (done : List (String × BmsInstanceData)) (after : BmsDb) : Prop where
  instances : after.instances = enterInstances before.instances done
  groupTypes : after.groupTypes = enterLastMsgs before.groupTypes done
  raw : after.raw = before.raw
  known : ∀ entry ∈ done, (instanceId after.instances entry.1).isSome
  health : after.health.values = before.health.values ++ done.map fun entry =>
    healthRow snapshotId tsMs ((instanceId after.instances entry.1).getD 0) entry.2

/-- The rows of some groups, whose instances the tables have. -/
structure RawWritten (snapshotId : Nat) (tsMs : BitVec 64) (before : BmsDb)
    (done : List GroupEntry) (after : BmsDb) : Prop where
  instances : after.instances = before.instances
  groupTypes : after.groupTypes = enterMessages before.groupTypes done
  health : after.health = before.health
  known : ∀ e ∈ done, (groupTypeId after.groupTypes e.msgName).isSome
  raw : after.raw.values = before.raw.values ++ done.map fun e =>
    rawRow snapshotId tsMs ((instanceId after.instances e.instanceName).getD 0)
      ((groupTypeId after.groupTypes e.msgName).getD 0) e.group

section Loops

variable {snapshotId : Nat} {tsMs : BitVec 64} {before : BmsDb} {c c' : Conn BmsDb}

theorem HealthWritten.refl : HealthWritten snapshotId tsMs before [] before where
  instances := rfl
  groupTypes := rfl
  raw := rfl
  known _ h := absurd h List.not_mem_nil
  health := (List.append_nil _).symm

theorem RawWritten.refl : RawWritten snapshotId tsMs before [] before where
  instances := rfl
  groupTypes := rfl
  health := rfl
  known _ h := absurd h List.not_mem_nil
  raw := (List.append_nil _).symm

theorem HealthWritten.snoc {done : List (String × BmsInstanceData)}
    {entry : String × BmsInstanceData} (hw : HealthWritten snapshotId tsMs before done c.db)
    (h : insertInstanceHealth snapshotId tsMs entry.1 entry.2 c = some ((), c')) :
    HealthWritten snapshotId tsMs before (done ++ [entry]) c'.db := by
  obtain ⟨id, hid, hdb⟩ := of_insertInstanceHealth h
  have hinstances : c'.db.instances =
      enterInstance c.db.instances entry.1 entry.2.bmsIndex := by rw [hdb]
  have hold : ∀ e ∈ done, instanceId c'.db.instances e.1 = instanceId c.db.instances e.1 := by
    intro e he
    rw [hinstances, instanceId_enterInstance (hw.known e he)]
  constructor
  · rw [hinstances, hw.instances, enterInstances, enterInstances, List.foldl_append]
    rfl
  · rw [hdb, enterLastMsgs, List.foldl_append]
    show enterLastMsg c.db.groupTypes entry.2 = _
    rw [hw.groupTypes]
    rfl
  · rw [hdb]
    exact hw.raw
  · intro e he
    rcases List.mem_append.mp he with he | he
    · rw [hold e he]
      exact hw.known e he
    · rw [List.mem_singleton.mp he, hid]
      rfl
  · have hrow : c'.db.health.values =
        c.db.health.values ++ [healthRow snapshotId tsMs id entry.2] := by
      rw [hdb]
      exact Table.values_insert _ _
    rw [hrow, hw.health, List.map_append, List.append_assoc]
    congr 2
    · exact List.map_congr_left fun e he => by rw [hold e he]
    · rw [List.map_singleton, hid]
      rfl

theorem RawWritten.snoc {done : List GroupEntry} {e : GroupEntry}
    (hw : RawWritten snapshotId tsMs before done c.db)
    (hknown : (instanceId before.instances e.instanceName).isSome)
    (h : insertGroupRaw snapshotId tsMs e c = some ((), c')) :
    RawWritten snapshotId tsMs before (done ++ [e]) c'.db := by
  obtain ⟨id, gid, hid, hgid, hdb⟩ := of_insertGroupRaw h
  have hinstances : c'.db.instances = before.instances := by
    rw [hdb]
    show enterInstance c.db.instances _ _ = _
    rw [hw.instances, enterInstance_of_known _ hknown]
  have htypes : c'.db.groupTypes = enterGroupType c.db.groupTypes e.msgName := by rw [hdb]
  have hold : ∀ x ∈ done,
      groupTypeId c'.db.groupTypes x.msgName = groupTypeId c.db.groupTypes x.msgName := by
    intro x hx
    rw [htypes, groupTypeId_enterGroupType (hw.known x hx)]
  constructor
  · exact hinstances
  · rw [htypes, hw.groupTypes, enterMessages, enterMessages, List.foldl_append]
    rfl
  · rw [hdb]
    exact hw.health
  · intro x hx
    rcases List.mem_append.mp hx with hx | hx
    · rw [hold x hx]
      exact hw.known x hx
    · rw [List.mem_singleton.mp hx, hgid]
      rfl
  · have hrow : c'.db.raw.values =
        c.db.raw.values ++ [rawRow snapshotId tsMs id gid e.group] := by
      rw [hdb]
      exact Table.values_insert _ _
    rw [hrow, hw.raw, List.map_append, List.append_assoc, hinstances, hw.instances]
    congr 2
    · exact List.map_congr_left fun x hx => by rw [hold x hx]
    · rw [List.map_singleton, hgid, ← hinstances, hid]
      rfl

end Loops

/-! ### A whole transaction -/

theorem mem_groupEntries {snap : BmsSnapshot} {e : GroupEntry} :
    e ∈ snap.groupEntries ↔
      (e.instanceName, e.inst) ∈ snap.items ∧ (e.msgName, e.group) ∈ e.inst.groups := by
  unfold BmsSnapshot.groupEntries
  rw [List.mem_flatMap]
  constructor
  · rintro ⟨entry, hentry, he⟩
    obtain ⟨g, hg, rfl⟩ := List.mem_map.mp he
    exact ⟨hentry, hg⟩
  · rintro ⟨hentry, hg⟩
    exact ⟨_, hentry, List.mem_map.mpr ⟨_, hg, rfl⟩⟩

/-- The groups whose key is among the changed ones. -/
def BmsSnapshot.changedEntries (snap : BmsSnapshot) (changedGroups : List String) :
    List GroupEntry :=
  snap.groupEntries.filter fun e => groupKey e.instanceName e.msgName ∈ changedGroups

/-- What a transaction that succeeds has written. -/
structure Written (snap : BmsSnapshot) (changedGroups : List String) (before after : BmsDb) :
    Prop where
  instances : after.instances = enterInstances before.instances snap.items
  groupTypes : after.groupTypes = enterMessages (enterLastMsgs before.groupTypes snap.items)
    (snap.changedEntries changedGroups)
  known : ∀ entry ∈ snap.items, (instanceId after.instances entry.1).isSome
  typesKnown : ∀ e ∈ snap.changedEntries changedGroups,
    (groupTypeId after.groupTypes e.msgName).isSome
  health : after.health.values = before.health.values ++ snap.items.map fun entry =>
    healthRow before.main.nextId snap.tsMs ((instanceId after.instances entry.1).getD 0) entry.2
  raw : after.raw.values = before.raw.values ++ (snap.changedEntries changedGroups).map fun e =>
    rawRow before.main.nextId snap.tsMs ((instanceId after.instances e.instanceName).getD 0)
      ((groupTypeId after.groupTypes e.msgName).getD 0) e.group

namespace BmsFlatSink

variable {healthCache : Dict String String} {changedGroups : List String} {snap : BmsSnapshot}
  {c c' : Conn BmsDb}

/-- The cache has every instance by then, so the test of the loop passes over none. -/
theorem write_eq (hcache : ∀ entry ∈ snap.items, (healthCache.get entry.1).isSome) :
    write healthCache changedGroups snap = (do
      let snapshotId ← insertSnapshotMain snap
      snap.items.forM fun entry =>
        insertInstanceHealth snapshotId snap.tsMs entry.1 entry.2
      (snap.changedEntries changedGroups).forM (insertGroupRaw snapshotId snap.tsMs)) := by
  unfold write
  congr 1
  funext snapshotId
  congr 1
  · exact Lib.Sql.forM_congr fun entry hentry => if_pos (hcache entry hentry)
  · funext _
    exact Lib.Sql.forM_ite
      (fun e : GroupEntry => groupKey e.instanceName e.msgName ∈ changedGroups) _ _

theorem of_forM_insertInstanceHealth {snapshotId : Nat} {tsMs : BitVec 64}
    {items : List (String × BmsInstanceData)}
    (h : (items.forM fun entry => insertInstanceHealth snapshotId tsMs entry.1 entry.2) c =
      some ((), c')) : HealthWritten snapshotId tsMs c.db items c'.db :=
  Lib.Sql.forM_induction (P := fun done c' => HealthWritten snapshotId tsMs c.db done c'.db)
    (fun _ _ _ _ _ hdone hx => hdone.snoc hx) HealthWritten.refl h

theorem of_write (hcache : ∀ entry ∈ snap.items, (healthCache.get entry.1).isSome)
    (h : write healthCache changedGroups snap c = some ((), c')) :
    Written snap changedGroups c.db c'.db := by
  rw [write_eq hcache] at h
  obtain ⟨snapshotId, c₁, hmain, hrest⟩ := Lib.Sql.of_bind h
  obtain ⟨⟨⟩, c₂, hhealth, hraw⟩ := Lib.Sql.of_bind hrest
  obtain ⟨rfl, h₁⟩ := Prod.mk.inj (Option.some_inj.mp (Lib.Sql.of_statement hmain))
  have hw := of_forM_insertInstanceHealth hhealth
  have hinstance : ∀ e ∈ snap.changedEntries changedGroups,
      (instanceId c₂.db.instances e.instanceName).isSome := fun e he =>
    hw.known _ (mem_groupEntries.mp (List.mem_of_mem_filter he)).1
  have hr : RawWritten c.db.main.nextId snap.tsMs c₂.db (snap.changedEntries changedGroups)
      c'.db :=
    Lib.Sql.forM_induction
      (P := fun done c => RawWritten _ snap.tsMs c₂.db done c.db)
      (fun _ e _ _ he hdone hx => hdone.snoc (hinstance e he) hx) RawWritten.refl hraw
  have hbefore : c₁.db.instances = c.db.instances ∧ c₁.db.groupTypes = c.db.groupTypes ∧
      c₁.db.health = c.db.health ∧ c₁.db.raw = c.db.raw := by
    rw [← h₁]
    exact ⟨rfl, rfl, rfl, rfl⟩
  obtain ⟨hinstances, htypes, hhealths, hraws⟩ := hbefore
  constructor
  · rw [hr.instances, hw.instances, hinstances]
  · rw [hr.groupTypes, hw.groupTypes, htypes]
  · rw [hr.instances]
    exact hw.known
  · exact hr.known
  · rw [hr.health, hw.health, hr.instances, hhealths]
  · rw [hr.raw, hw.raw, hr.instances, hraws]

/-- Without failures the loop over the instances goes through if they are all entered. -/
theorem forM_insertInstanceHealth (snapshotId : Nat) (tsMs : BitVec 64)
    {items : List (String × BmsInstanceData)} (hnodup : (items.map Prod.fst).Nodup)
    (hleft : c.left = none)
    (hknown : ∀ entry ∈ items, (instanceId (enterInstances c.db.instances items) entry.1).isSome) :
    ∃ c', (items.forM fun entry => insertInstanceHealth snapshotId tsMs entry.1 entry.2) c =
      some ((), c') ∧ c'.left = none := by
  refine Lib.Sql.forM_succeeds
    (P := fun done c' => c'.left = none ∧ HealthWritten snapshotId tsMs c.db done c'.db)
    (Q := fun c' => c'.left = none) ?_ (fun _ h => h.1) ⟨hleft, HealthWritten.refl⟩
  rintro before entry rest c₁ hsplit ⟨hleft₁, hw⟩
  rw [List.nil_append] at hsplit
  have hafter : (instanceId (enterInstance c₁.db.instances entry.1 entry.2.bmsIndex)
      entry.1).isSome := by
    -- no later entry has the name, so it is known by now if it is in the end
    have hend := hknown entry (by rw [hsplit]; exact List.mem_append_right _ List.mem_cons_self)
    rw [hsplit, enterInstances, List.foldl_append, List.foldl_cons] at hend
    rw [hw.instances]
    rw [hsplit, List.map_append, List.map_cons] at hnodup
    exact known_of_enterInstances (List.nodup_cons.mp hnodup.of_append_right).1 hend
  obtain ⟨c₂, hdone, hleft₂⟩ := insertInstanceHealth_unlimited snapshotId tsMs hleft₁ hafter
  exact ⟨c₂, hdone, hleft₂, hw.snoc hdone⟩

theorem forM_insertGroupRaw {snapshotId : Nat} {tsMs : BitVec 64} {entries : List GroupEntry}
    (hleft : c.left = none)
    (hknown : ∀ e ∈ entries, (instanceId c.db.instances e.instanceName).isSome) :
    ∃ c', entries.forM (insertGroupRaw snapshotId tsMs) c = some ((), c') := by
  have hloop : ∃ c', entries.forM (insertGroupRaw snapshotId tsMs) c = some ((), c') ∧ True := by
    refine Lib.Sql.forM_succeeds
      (P := fun done c' => c'.left = none ∧ RawWritten snapshotId tsMs c.db done c'.db)
      (Q := fun _ => True) ?_ (fun _ _ => trivial) ⟨hleft, RawWritten.refl⟩
    rintro before e rest c₁ hsplit ⟨hleft₁, hw⟩
    rw [List.nil_append] at hsplit
    have he := hknown e (by rw [hsplit]; exact List.mem_append_right _ List.mem_cons_self)
    have hafter : (instanceId (enterInstance c₁.db.instances e.instanceName e.inst.bmsIndex)
        e.instanceName).isSome := by
      rw [hw.instances, enterInstance_of_known _ he]
      exact he
    obtain ⟨c₂, hdone, hleft₂⟩ := insertGroupRaw_unlimited snapshotId tsMs hleft₁ hafter
    exact ⟨c₂, hdone, hleft₂, hw.snoc he hdone⟩
  exact hloop.imp fun _ h => h.1

/-- Without failures the transaction succeeds exactly when all instances are entered. -/
theorem write_succeeds_iff (hleft : c.left = none)
    (hcache : ∀ entry ∈ snap.items, (healthCache.get entry.1).isSome) :
    (∃ c', write healthCache changedGroups snap c = some ((), c')) ↔
      ∀ entry ∈ snap.items,
        (instanceId (enterInstances c.db.instances snap.items) entry.1).isSome := by
  constructor
  · rintro ⟨c', h⟩
    have hwritten := of_write hcache h
    rw [← hwritten.instances]
    exact hwritten.known
  · intro hknown
    obtain ⟨c₁, hmain, hleft₁, hinstances⟩ := insertSnapshotMain_unlimited snap hleft
    obtain ⟨c₂, hloop, hleft₂⟩ := forM_insertInstanceHealth c.db.main.nextId snap.tsMs
      snap.nodup hleft₁ (by rw [hinstances]; exact hknown)
    rw [write_eq hcache, Lib.Sql.bind_of_some hmain, Lib.Sql.bind_of_some hloop]
    refine forM_insertGroupRaw hleft₂ fun e he => ?_
    have hw := (of_forM_insertInstanceHealth hloop).known
    exact hw _ (mem_groupEntries.mp (List.mem_of_mem_filter he)).1

end BmsFlatSink

end Snapshot
end EnergyStorage
