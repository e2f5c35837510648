import EnergyStorage.Snapshot.BmsFlatSink

/-! # The tables of the BMS as a log of changes

A log has a row of the health of an instance exactly when the health differs from the previous
snapshot, and a row of a group exactly when the group does. -/

namespace EnergyStorage
namespace Snapshot

open Lib (Dict Json Machine)
open Lib.Sql (Value Table Tx Conn afterwards)

section Log

variable (dump : Json → String)

/-- The health key of the instance is another one than in the previous snapshot, or the instance
is new in it. -/
def HealthChanged (prev : Option BmsSnapshot) (name : String) (inst : BmsInstanceData) : Prop :=
  ∀ snap, prev = some snap → ∀ entry ∈ snap.items, entry.1 = name →
    dump entry.2.healthKeyJson ≠ dump inst.healthKeyJson

def GroupChanged (prev : Option BmsSnapshot) (e : GroupEntry) : Prop :=
  ∀ snap, prev = some snap → ∀ old ∈ snap.groupEntries,
    old.instanceName = e.instanceName → old.msgName = e.msgName →
      dump old.group.toJson ≠ dump e.group.toJson

/-- The row is one of the instance. -/
def OfInstance (db : BmsDb) (row : Dict String Value) (name : String) : Prop :=
  ∃ id index, (id, (index, name)) ∈ db.instances.rows ∧ row.get "bms_id" = some (.int id)

/-- The row is one of the group. -/
def OfGroup (db : BmsDb) (row : Dict String Value) (name msgName : String) : Prop :=
  OfInstance db row name ∧
    ∃ id, (id, msgName) ∈ db.groupTypes.rows ∧ row.get "group_type_id" = some (.int id)

/-- The number of the last message of an instance, zero if there is none. -/
def lastMsgGroupId (t : Table String) (inst : BmsInstanceData) : Nat :=
  if inst.lastMsgName ≠ "" then (groupTypeId t inst.lastMsgName).getD 0 else 0

structure ReadsBack (db : BmsDb) (row : Dict String Value) (inst : BmsInstanceData) : Prop where
  online : row.get "online" = some (boolValue inst.online)
  lastOkMs : row.get "last_ok_ms" = some (.int inst.lastOkMs.toInt)
  lastMsgGroupId : row.get "last_msg_group_id" = some (.int (lastMsgGroupId db.groupTypes inst))

/-- The new rows tell what differs from the previous snapshot. -/
structure Logged (prev : Option BmsSnapshot) (snap : BmsSnapshot) (before after : BmsDb)
    (health raw : List (Dict String Value)) : Prop where
  healthAdded : after.health.values = before.health.values ++ health
  rawAdded : after.raw.values = before.raw.values ++ raw
  healthRows : ∀ name, (∃ row ∈ health, OfInstance after row name) ↔
    ∃ inst, (name, inst) ∈ snap.items ∧ HealthChanged dump prev name inst
  columns : ∀ row ∈ health, ∀ entry ∈ snap.items, OfInstance after row entry.1 →
    ReadsBack after row entry.2
  rawRows : ∀ name msgName, (∃ row ∈ raw, OfGroup after row name msgName) ↔
    ∃ e ∈ snap.groupEntries, e.instanceName = name ∧ e.msgName = msgName ∧
      GroupChanged dump prev e

def ChangeLog (prev : Option BmsSnapshot) (snap : BmsSnapshot) (before after : BmsDb) : Prop :=
  ∃ health raw, Logged dump prev snap before after health raw

/-- Nothing differs from the previous snapshot. -/
def Quiet (prev : Option BmsSnapshot) (snap : BmsSnapshot) : Prop :=
  (∀ entry ∈ snap.items, ¬ HealthChanged dump prev entry.1 entry.2) ∧
    ∀ e ∈ snap.groupEntries, ¬ GroupChanged dump prev e

/-- All texts are the ones that the sink has kept, and a snapshot without a change is not
written. -/
def Skips (s : BmsFlatSink) (snap : BmsSnapshot) : Prop :=
  ¬ s.writeMainEverySnapshot ∧
    (∀ e ∈ snap.groupEntries, s.lastGroupJsonCache.get (groupKey e.instanceName e.msgName) =
      some (dump e.group.toJson)) ∧
    ∀ entry ∈ snap.items, s.lastHealthJsonCache.get entry.1 = some (dump entry.2.healthKeyJson)

/-- All instances have a row of their own, or get one. -/
def Enters (s : BmsFlatSink) (snap : BmsSnapshot) : Prop :=
  ∀ entry ∈ snap.items, (instanceId (enterInstances s.db.instances snap.items) entry.1).isSome

/-- Some group with the same key has another text than the one kept under the key. -/
def GroupReported (s : BmsFlatSink) (snap : BmsSnapshot) (e : GroupEntry) : Prop :=
  ∃ x ∈ snap.groupEntries,
    groupKey x.instanceName x.msgName = groupKey e.instanceName e.msgName ∧
      s.lastGroupJsonCache.get (groupKey e.instanceName e.msgName) ≠ some (dump x.group.toJson)

/-- What the log of a snapshot that is written takes. -/
structure LogsWritten (t : Table String) (reported : GroupEntry → Prop)
    (prev : Option BmsSnapshot) (snap : BmsSnapshot) : Prop where
  health : ∀ entry ∈ snap.items, HealthChanged dump prev entry.1 entry.2
  lastMsg : ∀ entry ∈ snap.items, entry.2.lastOkMs.toInt = lastMsgGroupId t entry.2
  groups : ∀ e ∈ snap.groupEntries, reported e ↔ GroupChanged dump prev e

/-- The snapshots of which the sink keeps a log of changes. -/
structure CanLog (s : BmsFlatSink) (prev : Option BmsSnapshot) (snap : BmsSnapshot) : Prop where
  unwritten : Skips dump s snap ∨ ¬ Enters s snap → Quiet dump prev snap
  written : ¬ Skips dump s snap → Enters s snap →
    LogsWritten dump (enterLastMsgs s.db.groupTypes snap.items) (GroupReported dump s snap) prev snap

end Log

/-! ### Rows and what they are of -/

section Rows

variable {snapshotId bmsId typeId : Nat} {tsMs : BitVec 64} {inst : BmsInstanceData}
  {g : BmsGroupData} {db : BmsDb} {row : Dict String Value} {name msgName other : String}

theorem healthRow_bmsId :
    (healthRow snapshotId tsMs bmsId inst).get "bms_id" = some (.int bmsId) := rfl

theorem rawRow_bmsId :
    (rawRow snapshotId tsMs bmsId typeId g).get "bms_id" = some (.int bmsId) := rfl

theorem rawRow_groupTypeId :
    (rawRow snapshotId tsMs bmsId typeId g).get "group_type_id" = some (.int typeId) := rfl

theorem healthRow_online :
    (healthRow snapshotId tsMs bmsId inst).get "online" = some (boolValue inst.online) := rfl

theorem healthRow_lastOkMs :
    (healthRow snapshotId tsMs bmsId inst).get "last_ok_ms" = some (.int inst.lastOkMs.toInt) := rfl

/-- The seventh column gets the seventh binding. -/
theorem healthRow_lastMsgGroupId :
    (healthRow snapshotId tsMs bmsId inst).get "last_msg_group_id" =
      some (.int inst.lastOkMs.toInt) := rfl

/-- A row with the number of an instance is a row of that instance and no other. -/
theorem ofInstance_iff (hrow : row.get "bms_id" = some (.int bmsId))
    (hid : instanceId db.instances name = some bmsId) : OfInstance db row other ↔ name = other := by
  obtain ⟨r, hmem, hr⟩ := Table.mem_of_idOf hid
  have hname : r.2 = name := of_decide_eq_true hr
  constructor
  · rintro ⟨id, index, hmem', hrow'⟩
    have hsame : bmsId = id := by
      rw [hrow] at hrow'
      exact Int.ofNat_inj.mp (Value.int.inj (Option.some_inj.mp hrow'))
    rw [← hsame] at hmem'
    rw [← hname, Table.eq_of_mem hmem hmem']
  · rintro rfl
    exact ⟨bmsId, r.1, by rw [← hname]; exact hmem, hrow⟩

theorem ofGroup_iff (hrow : row.get "bms_id" = some (.int bmsId))
    (htype : row.get "group_type_id" = some (.int typeId))
    (hid : instanceId db.instances name = some bmsId)
    (hgid : groupTypeId db.groupTypes msgName = some typeId) {otherMsg : String} :
    OfGroup db row other otherMsg ↔ name = other ∧ msgName = otherMsg := by
  obtain ⟨r, hmem, hr⟩ := Table.mem_of_idOf hgid
  have hname : r = msgName := of_decide_eq_true hr
  rw [OfGroup, ofInstance_iff hrow hid]
  refine and_congr_right fun _ => ⟨?_, ?_⟩
  · rintro ⟨id, hmem', hrow'⟩
    have hsame : typeId = id := by
      rw [htype] at hrow'
      exact Int.ofNat_inj.mp (Value.int.inj (Option.some_inj.mp hrow'))
    rw [← hsame] at hmem'
    rw [← hname, Table.eq_of_mem hmem hmem']
  · rintro rfl
    exact ⟨typeId, by rw [← hname]; exact hmem, htype⟩

end Rows

section Tables

variable {t : Table String} {name : String}

theorem groupTypeId_enterLastMsg (h : (groupTypeId t name).isSome) (inst : BmsInstanceData) :
    groupTypeId (enterLastMsg t inst) name = groupTypeId t name := by
  unfold enterLastMsg
  split
  · exact groupTypeId_enterGroupType h _
  · rfl

theorem groupTypeId_enterLastMsgs (h : (groupTypeId t name).isSome)
    (items : List (String × BmsInstanceData)) :
    groupTypeId (enterLastMsgs t items) name = groupTypeId t name := by
  induction items generalizing t with
  | nil => rfl
  | cons entry items ih =>
    have hfirst := groupTypeId_enterLastMsg h entry.2
    exact (ih (by rw [hfirst]; exact h)).trans hfirst

theorem groupTypeId_enterMessages (h : (groupTypeId t name).isSome) (entries : List GroupEntry) :
    groupTypeId (enterMessages t entries) name = groupTypeId t name := by
  induction entries generalizing t with
  | nil => rfl
  | cons e entries ih =>
    have hfirst := groupTypeId_enterGroupType h e.msgName
    exact (ih (by rw [hfirst]; exact h)).trans hfirst

/-- The last messages of all instances are entered. -/
theorem isSome_enterLastMsgs {items : List (String × BmsInstanceData)}
    {entry : String × BmsInstanceData} (hmem : entry ∈ items) (hname : entry.2.lastMsgName ≠ "") :
    (groupTypeId (enterLastMsgs t items) entry.2.lastMsgName).isSome := by
  induction items generalizing t with
  | nil => exact absurd hmem List.not_mem_nil
  | cons first items ih =>
    rcases List.mem_cons.mp hmem with rfl | hmem
    · have hknown : (groupTypeId (enterLastMsg t entry.2) entry.2.lastMsgName).isSome := by
        rw [enterLastMsg, if_pos hname]
        exact groupType_known t _
      show (groupTypeId (enterLastMsgs (enterLastMsg t entry.2) items) _).isSome
      rw [groupTypeId_enterLastMsgs hknown]
      exact hknown
    · exact ih hmem

theorem lastMsgGroupId_enterMessages {items : List (String × BmsInstanceData)}
    {entry : String × BmsInstanceData} (hmem : entry ∈ items) (entries : List GroupEntry) :
    lastMsgGroupId (enterMessages (enterLastMsgs t items) entries) entry.2 =
      lastMsgGroupId (enterLastMsgs t items) entry.2 := by
  unfold lastMsgGroupId
  split
  · rename_i hname
    rw [groupTypeId_enterMessages (isSome_enterLastMsgs hmem hname)]
  · rfl

end Tables

/-- An entry is the only one of its names. -/
theorem BmsSnapshot.eq_of_names {snap : BmsSnapshot} {e e' : GroupEntry}
    (he : e ∈ snap.groupEntries) (he' : e' ∈ snap.groupEntries)
    (hname : e.instanceName = e'.instanceName) (hmsg : e.msgName = e'.msgName) : e = e' := by
  obtain ⟨hitem, hgroup⟩ := mem_groupEntries.mp he
  obtain ⟨hitem', hgroup'⟩ := mem_groupEntries.mp he'
  have hinst := congrArg Prod.snd (List.inj_on_of_nodup_map snap.nodup hitem hitem' hname)
  dsimp only at hinst
  rw [← hinst] at hgroup'
  have hg := congrArg Prod.snd
    (List.inj_on_of_nodup_map (snap.groupsNodup _ hitem) hgroup hgroup' hmsg)
  dsimp only at hg
  cases e
  cases e'
  simp only at hname hmsg hinst hg
  rw [hname, hmsg, hinst, hg]

section Steps

variable {dump : Json → String} {prev : Option BmsSnapshot} {snap : BmsSnapshot}
  {db before after : BmsDb} {changedGroups : List String} {s : BmsFlatSink}

/-- Where nothing is written, the log is right exactly when there was nothing to write. -/
theorem changeLog_of_unwritten : ChangeLog dump prev snap db db ↔ Quiet dump prev snap := by
  constructor
  · rintro ⟨health, raw, h⟩
    obtain rfl : health = [] := List.append_cancel_left (h.healthAdded.symm.trans
      (List.append_nil _).symm)
    obtain rfl : raw = [] := List.append_cancel_left (h.rawAdded.symm.trans
      (List.append_nil _).symm)
    constructor
    · intro entry hentry hchanged
      obtain ⟨row, hrow, -⟩ := (h.healthRows entry.1).mpr ⟨entry.2, hentry, hchanged⟩
      cases hrow
    · intro e he hchanged
      obtain ⟨row, hrow, -⟩ := (h.rawRows _ _).mpr ⟨e, he, rfl, rfl, hchanged⟩
      cases hrow
  · rintro ⟨hhealth, hgroups⟩
    refine ⟨[], [], (List.append_nil _).symm, (List.append_nil _).symm, fun name => ?_,
      fun row hrow => absurd hrow List.not_mem_nil, fun name msgName => ?_⟩
    · constructor
      · rintro ⟨row, hrow, -⟩
        cases hrow
      · rintro ⟨inst, hmem, hchanged⟩
        exact absurd hchanged (hhealth _ hmem)
    · constructor
      · rintro ⟨row, hrow, -⟩
        cases hrow
      · rintro ⟨e, he, -, -, hchanged⟩
        exact absurd hchanged (hgroups e he)

/-- The rows of the health after a transaction are those of all instances. -/
theorem Written.healthRows (h : Written snap changedGroups before after) {name : String} :
    (∃ row ∈ snap.items.map fun entry => healthRow before.main.nextId snap.tsMs
        ((instanceId after.instances entry.1).getD 0) entry.2, OfInstance after row name) ↔
      name ∈ snap.items.map Prod.fst := by
  have hof : ∀ entry ∈ snap.items, OfInstance after (healthRow before.main.nextId snap.tsMs
      ((instanceId after.instances entry.1).getD 0) entry.2) name ↔ entry.1 = name := by
    intro entry hentry
    obtain ⟨id, hid⟩ := Option.isSome_iff_exists.mp (h.known entry hentry)
    rw [hid]
    exact ofInstance_iff healthRow_bmsId hid
  constructor
  · rintro ⟨row, hrow, hrowOf⟩
    obtain ⟨entry, hentry, rfl⟩ := List.mem_map.mp hrow
    exact List.mem_map.mpr ⟨entry, hentry, (hof entry hentry).mp hrowOf⟩
  · intro hname
    obtain ⟨entry, hentry, hentryName⟩ := List.mem_map.mp hname
    exact ⟨_, List.mem_map_of_mem hentry, (hof entry hentry).mpr hentryName⟩

theorem Written.rawRows (h : Written snap changedGroups before after) {name msgName : String} :
    (∃ row ∈ (snap.changedEntries changedGroups).map fun e => rawRow before.main.nextId snap.tsMs
        ((instanceId after.instances e.instanceName).getD 0)
        ((groupTypeId after.groupTypes e.msgName).getD 0) e.group,
      OfGroup after row name msgName) ↔
      ∃ e ∈ snap.changedEntries changedGroups, e.instanceName = name ∧ e.msgName = msgName := by
  have hof : ∀ e ∈ snap.changedEntries changedGroups, OfGroup after
      (rawRow before.main.nextId snap.tsMs ((instanceId after.instances e.instanceName).getD 0)
        ((groupTypeId after.groupTypes e.msgName).getD 0) e.group) name msgName ↔
        e.instanceName = name ∧ e.msgName = msgName := by
    intro e he
    have hitem := (mem_groupEntries.mp (List.mem_of_mem_filter he)).1
    obtain ⟨id, hid⟩ := Option.isSome_iff_exists.mp (h.known _ hitem)
    obtain ⟨gid, hgid⟩ := Option.isSome_iff_exists.mp (h.typesKnown e he)
    rw [hid, hgid]
    exact ofGroup_iff rawRow_bmsId rawRow_groupTypeId hid hgid
  constructor
  · rintro ⟨row, hrow, hrowOf⟩
    obtain ⟨e, he, rfl⟩ := List.mem_map.mp hrow
    exact ⟨e, he, (hof e he).mp hrowOf⟩
  · rintro ⟨e, he, hnames⟩
    exact ⟨_, List.mem_map_of_mem he, (hof e he).mpr hnames⟩

/-- The log of a transaction that succeeds. -/
theorem changeLog_of_written (h : Written snap changedGroups before after) :
    ChangeLog dump prev snap before after ↔
      LogsWritten dump (enterLastMsgs before.groupTypes snap.items)
        (fun e => groupKey e.instanceName e.msgName ∈ changedGroups) prev snap := by
  have hlast : ∀ entry ∈ snap.items, lastMsgGroupId after.groupTypes entry.2 =
      lastMsgGroupId (enterLastMsgs before.groupTypes snap.items) entry.2 := by
    intro entry hentry
    rw [h.groupTypes, lastMsgGroupId_enterMessages hentry]
  have hfilter : ∀ e, e ∈ snap.changedEntries changedGroups ↔
      e ∈ snap.groupEntries ∧ groupKey e.instanceName e.msgName ∈ changedGroups := by
    intro e
    rw [BmsSnapshot.changedEntries, List.mem_filter, decide_eq_true_eq]
  constructor
  · rintro ⟨health, raw, hlog⟩
    obtain rfl := List.append_cancel_left (hlog.healthAdded.symm.trans h.health)
    obtain rfl := List.append_cancel_left (hlog.rawAdded.symm.trans h.raw)
    constructor
    · intro entry hentry
      obtain ⟨inst, hinst, hchanged⟩ :=
        (hlog.healthRows entry.1).mp (h.healthRows.mpr (List.mem_map_of_mem hentry))
      have hsame := List.inj_on_of_nodup_map snap.nodup hentry hinst rfl
      rw [hsame]
      exact hchanged
    · intro entry hentry
      obtain ⟨id, hid⟩ := Option.isSome_iff_exists.mp (h.known entry hentry)
      have hreads := (hlog.columns _ (List.mem_map_of_mem hentry) entry hentry (by
        rw [hid]
        exact (ofInstance_iff healthRow_bmsId hid).mpr rfl)).lastMsgGroupId
      rw [healthRow_lastMsgGroupId, hlast entry hentry] at hreads
      exact Value.int.inj (Option.some_inj.mp hreads)
    · intro e he
      have hrows := h.rawRows.symm.trans (hlog.rawRows e.instanceName e.msgName)
      constructor
      · intro hkey
        obtain ⟨e', he', hname, hmsg, hchanged⟩ :=
          hrows.mp ⟨e, (hfilter e).mpr ⟨he, hkey⟩, rfl, rfl⟩
        rw [← BmsSnapshot.eq_of_names he' he hname hmsg]
        exact hchanged
      · intro hchanged
        obtain ⟨e', he', hname, hmsg⟩ := hrows.mpr ⟨e, he, rfl, rfl, hchanged⟩
        rw [← hname, ← hmsg]
        exact ((hfilter e').mp he').2
  · rintro ⟨hhealth, hlastMsg, hgroups⟩
    refine ⟨_, _, h.health, h.raw, fun name => ?_, fun row hrow entry hentry hof => ?_,
      fun name msgName => ?_⟩
    · rw [h.healthRows]
      constructor
      · intro hname
        obtain ⟨entry, hentry, rfl⟩ := List.mem_map.mp hname
        exact ⟨entry.2, hentry, hhealth entry hentry⟩
      · rintro ⟨inst, hinst, -⟩
        exact List.mem_map_of_mem hinst
    · obtain ⟨entry', hentry', rfl⟩ := List.mem_map.mp hrow
      obtain ⟨id, hid⟩ := Option.isSome_iff_exists.mp (h.known entry' hentry')
      rw [hid] at hof
      have hname := (ofInstance_iff healthRow_bmsId hid).mp hof
      obtain rfl := List.inj_on_of_nodup_map snap.nodup hentry' hentry hname
      refine ⟨healthRow_online, healthRow_lastOkMs, ?_⟩
      rw [healthRow_lastMsgGroupId, hlast entry' hentry', hlastMsg entry' hentry']
    · rw [h.rawRows]
      constructor
      · rintro ⟨e, he, hname, hmsg⟩
        obtain ⟨hentry, hkey⟩ := (hfilter e).mp he
        exact ⟨e, hentry, hname, hmsg, (hgroups e hentry).mp hkey⟩
      · rintro ⟨e, he, hname, hmsg, hchanged⟩
        exact ⟨e, (hfilter e).mpr ⟨he, (hgroups e he).mpr hchanged⟩, hname, hmsg⟩

theorem mem_groupTexts {key text : String} :
    (key, text) ∈ BmsFlatSink.groupTexts dump snap ↔
      ∃ e ∈ snap.groupEntries, groupKey e.instanceName e.msgName = key ∧
        dump e.group.toJson = text := by
  unfold BmsFlatSink.groupTexts
  rw [List.mem_map]
  exact exists_congr fun e => and_congr_right fun _ => Prod.mk_inj

theorem mem_changedKeys {e : GroupEntry} :
    groupKey e.instanceName e.msgName ∈ BmsFlatSink.changedKeys dump s snap ↔
      GroupReported dump s snap e := by
  unfold BmsFlatSink.changedKeys
  rw [Dict.mem_noteAll]
  constructor
  · rintro ⟨t, hmem, hne⟩
    obtain ⟨x, hx, hkey, rfl⟩ := mem_groupTexts.mp hmem
    exact ⟨x, hx, hkey, hne⟩
  · rintro ⟨x, hx, hkey, hne⟩
    exact ⟨_, mem_groupTexts.mpr ⟨x, hx, hkey, rfl⟩, hne⟩

theorem skips_iff : Skips dump s snap ↔ ¬ s.writeMainEverySnapshot ∧
    BmsFlatSink.changedKeys dump s snap = [] ∧
      (s.lastHealthJsonCache.noteAll (BmsFlatSink.healthTexts dump snap)).2 = [] := by
  unfold Skips BmsFlatSink.changedKeys BmsFlatSink.groupTexts BmsFlatSink.healthTexts
  rw [Dict.noteAll_eq_nil_iff, Dict.noteAll_eq_nil_iff]
  simp only [List.forall_mem_map]

/-- By the time the rows are written, the cache has all instances. -/
theorem isSome_healthCacheAfter {entry : String × BmsInstanceData} (h : entry ∈ snap.items) :
    ((BmsFlatSink.healthCacheAfter dump s snap).get entry.1).isSome := by
  have hnodup : ((BmsFlatSink.healthTexts dump snap).map Prod.fst).Nodup := by
    unfold BmsFlatSink.healthTexts
    rw [List.map_map]
    exact snap.nodup
  unfold BmsFlatSink.healthCacheAfter
  rw [Dict.noteAll_get, Dict.lastText_of_nodup hnodup (List.mem_map_of_mem h)]
  rfl

/-- What a snapshot does to the tables when nothing fails. -/
theorem onBmsSnapshot_faultless :
    (Skips dump s snap ∨ ¬ Enters s snap →
      (s.onBmsSnapshot dump { snap := snap }).db = s.db) ∧
    (¬ Skips dump s snap → Enters s snap →
      Written snap (BmsFlatSink.changedKeys dump s snap) s.db
        (s.onBmsSnapshot dump { snap := snap }).db) := by
  have hwrites : (∃ c', BmsFlatSink.write (BmsFlatSink.healthCacheAfter dump s snap)
      (BmsFlatSink.changedKeys dump s snap) snap { db := s.db, left := none } = some ((), c')) ↔
        Enters s snap :=
    BmsFlatSink.write_succeeds_iff rfl fun _ h => isSome_healthCacheAfter h
  rw [BmsFlatSink.onBmsSnapshot_db]
  by_cases hskips : Skips dump s snap
  · rw [if_pos (skips_iff.mp hskips)]
    exact ⟨fun _ => rfl, fun hnot => absurd hskips hnot⟩
  · rw [if_neg fun h => hskips (skips_iff.mpr h), afterwards, Lib.Sql.transact_of_faultless]
    constructor
    · intro hnot
      have hnone : BmsFlatSink.write (BmsFlatSink.healthCacheAfter dump s snap)
          (BmsFlatSink.changedKeys dump s snap) snap { db := s.db, left := none } = none := by
        rw [Option.eq_none_iff_forall_ne_some]
        rintro ⟨⟨⟩, c'⟩ hc'
        exact (hnot.resolve_left hskips) (hwrites.mp ⟨c', hc'⟩)
      rw [hnone]
      rfl
    · intro _ henters
      obtain ⟨c', hc'⟩ := hwrites.mpr henters
      rw [hc']
      exact BmsFlatSink.of_write (fun _ h => isSome_healthCacheAfter h) hc'

/-- One snapshot is logged exactly when it can be. -/
theorem changeLog_iff :
    ChangeLog dump prev snap s.db (s.onBmsSnapshot dump { snap := snap }).db ↔
      CanLog dump s prev snap := by
  have hreported : (fun e : GroupEntry => groupKey e.instanceName e.msgName ∈
      BmsFlatSink.changedKeys dump s snap) = GroupReported dump s snap :=
    funext fun _ => propext mem_changedKeys
  obtain ⟨hunwritten, hwritten⟩ := @onBmsSnapshot_faultless dump snap s
  by_cases hcase : Skips dump s snap ∨ ¬ Enters s snap
  · rw [hunwritten hcase, changeLog_of_unwritten]
    constructor
    · exact fun hquiet =>
        ⟨fun _ => hquiet, fun hskips henters => absurd henters (hcase.resolve_left hskips)⟩
    · exact fun hcan => hcan.unwritten hcase
  · obtain ⟨hskips, henters⟩ := not_or.mp hcase
    have henters := not_not.mp henters
    rw [changeLog_of_written (hwritten hskips henters), hreported]
    constructor
    · exact fun hlogs => ⟨fun h => absurd h hcase, fun _ _ => hlogs⟩
    · exact fun hcan => hcan.written hskips henters

end Steps

/-- The sink, with a database that never fails. -/
def faultlessSink (dump : Json → String) (writeMain : Bool) (db : BmsDb) :
    Machine BmsFlatSink BmsSnapshot Unit where
  start := { writeMainEverySnapshot := writeMain, db := db }
  step s snap := (s.onBmsSnapshot dump { snap := snap }, [])

/-- The tables are a log of the changes, snapshot by snapshot, in exactly the runs in which each
snapshot is one that the sink can log. -/
theorem change_log_iff (dump : Json → String) (writeMain : Bool) (db : BmsDb)
    (snaps : List BmsSnapshot) :
    (∀ pre snap, pre ++ [snap] <+: snaps →
      ChangeLog dump pre.getLast? snap ((faultlessSink dump writeMain db).run pre).db
        ((faultlessSink dump writeMain db).run (pre ++ [snap])).db) ↔
    ∀ pre snap, pre ++ [snap] <+: snaps →
      CanLog dump ((faultlessSink dump writeMain db).run pre) pre.getLast? snap := by
  refine forall_congr' fun pre => forall_congr' fun snap => imp_congr_right fun _ => ?_
  rw [Machine.run_snoc]
  exact changeLog_iff

/-- An instance that was heard at 1000 ms, with its last message. -/
def heardSnapshot : BmsSnapshot where
  tsMs := 2000
  items := [("BMS_1",
    { bmsIndex := 1, lastMsgName := "B2V_ST1", online := true, lastOkMs := 1000 })]
  nodup := List.pairwise_singleton _ _
  groupsNodup := List.forall_mem_singleton.mpr List.nodup_nil

/-- The text of its health key. -/
def heardText : Json → String := fun _ =>
  "\x7b\"disconnect_count\":0,\"disconnect_window_ms\":0,\"last_offline_ms\":0," ++
    "\"last_ok_ms\":1000,\"online\":true\x7d"

/-- The same snapshot again adds a row of the health of its instance again. -/
theorem unchanged_instance_logged :
    ¬ ∀ pre snap, pre ++ [snap] <+: [heardSnapshot, heardSnapshot] →
      ChangeLog heardText pre.getLast? snap ((faultlessSink heardText true {}).run pre).db
        ((faultlessSink heardText true {}).run (pre ++ [snap])).db := by
  intro h
  have hlog := h [heardSnapshot] heardSnapshot (List.prefix_refl _)
  rw [Machine.run_snoc] at hlog
  have henters : Enters ((faultlessSink heardText true {}).run [heardSnapshot]) heardSnapshot :=
    List.forall_mem_singleton.mpr rfl
  have hlogs := (changeLog_iff.mp hlog).written (fun hskips => hskips.1 rfl) henters
  exact hlogs.health _ List.mem_cons_self heardSnapshot rfl _ List.mem_cons_self rfl rfl

end Snapshot
end EnergyStorage
