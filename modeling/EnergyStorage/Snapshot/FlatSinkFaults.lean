import EnergyStorage.Snapshot.BmsChangeLog
import EnergyStorage.Snapshot.SnapshotFlatSink

/-! # Transactions that fail

The flat sinks keep in memory what they have found, and in the database what they have stored.
No change is lost if the two go together: a transaction that fails leaves both as they were, and
one that succeeds stores all that differs from what was stored last. -/

namespace EnergyStorage
namespace Snapshot

open Lib (Dict Json Machine)
open Lib.Sql (transact afterwards)

variable (dump : Json → String)

/-! ### The sink of the BMS -/

namespace BmsFlatSink

/-- No transaction is begun. -/
def skips (s : BmsFlatSink) (snap : BmsSnapshot) : Bool :=
  ¬ s.writeMainEverySnapshot ∧ changedKeys dump s snap = [] ∧
    (s.lastHealthJsonCache.noteAll (healthTexts dump snap)).2 = []

/-- The database that the transaction commits. -/
def committed (s : BmsFlatSink) (e : BmsWrite) : Option BmsDb :=
  transact e.faults (write (healthCacheAfter dump s e.snap) (changedKeys dump s e.snap) e.snap) s.db

/-- A transaction is begun and does not succeed. -/
def Failed (s : BmsFlatSink) (e : BmsWrite) : Prop :=
  skips dump s e.snap = false ∧ committed dump s e = none

def stores (s : BmsFlatSink) (e : BmsWrite) : Bool :=
  !skips dump s e.snap && (committed dump s e).isSome

/-- What was stored last under the key of a group. -/
def storedGroup (key : String) (s : BmsFlatSink) (e : BmsWrite) : Option String :=
  if stores dump s e then Dict.lastText key (groupTexts dump e.snap) else none

def storedHealth (name : String) (s : BmsFlatSink) (e : BmsWrite) : Option String :=
  if stores dump s e then Dict.lastText name (healthTexts dump e.snap) else none

/-- A failing transaction leaves everything as it was; one that succeeds finds and stores what
differs from what was stored last. -/
structure LosesNothing (M : Machine BmsFlatSink BmsWrite Unit) (pre : List BmsWrite)
    (e : BmsWrite) : Prop where
  failed : Failed dump (M.run pre) e → M.run (pre ++ [e]) = M.run pre
  groups : stores dump (M.run pre) e → ∀ x ∈ e.snap.groupEntries,
    M.latest (storedGroup dump (groupKey x.instanceName x.msgName)) pre ≠
        Dict.lastText (groupKey x.instanceName x.msgName) (groupTexts dump e.snap) →
      groupKey x.instanceName x.msgName ∈ changedKeys dump (M.run pre) e.snap ∧
        ∃ raw, (M.run (pre ++ [e])).db.raw.values = (M.run pre).db.raw.values ++ raw ∧
          ∃ row ∈ raw, OfGroup (M.run (pre ++ [e])).db row x.instanceName x.msgName
  health : stores dump (M.run pre) e → ∀ entry ∈ e.snap.items,
    M.latest (storedHealth dump entry.1) pre ≠
        Dict.lastText entry.1 (healthTexts dump e.snap) →
      entry.1 ∈ ((M.run pre).lastHealthJsonCache.noteAll (healthTexts dump e.snap)).2 ∧
        ∃ health, (M.run (pre ++ [e])).db.health.values =
            (M.run pre).db.health.values ++ health ∧
          ∃ row ∈ health, OfInstance (M.run (pre ++ [e])).db row entry.1

/-- The caches have all texts of the snapshot already. -/
def Known (s : BmsFlatSink) (snap : BmsSnapshot) : Prop :=
  s.lastGroupJsonCache.Has (groupTexts dump snap) ∧
    s.lastHealthJsonCache.Has (healthTexts dump snap)

/-- The sink on a database that may fail. -/
def sink (writeMain : Bool) (db : BmsDb) : Machine BmsFlatSink BmsWrite Unit where
  start := { writeMainEverySnapshot := writeMain, db := db }
  step s e := (s.onBmsSnapshot dump e, [])

section Steps

variable {dump} {s : BmsFlatSink} {e : BmsWrite}

theorem onBmsSnapshot_caches (s : BmsFlatSink) (e : BmsWrite) :
    (s.onBmsSnapshot dump e).lastGroupJsonCache =
        (s.lastGroupJsonCache.noteAll (groupTexts dump e.snap)).1 ∧
      (s.onBmsSnapshot dump e).lastHealthJsonCache =
        (s.lastHealthJsonCache.noteAll (healthTexts dump e.snap)).1 := by
  unfold onBmsSnapshot
  dsimp only
  split <;> exact ⟨rfl, rfl⟩

theorem onBmsSnapshot_of_failed (h : Failed dump s e) :
    s.onBmsSnapshot dump e = { s with
      lastGroupJsonCache := (s.lastGroupJsonCache.noteAll (groupTexts dump e.snap)).1
      lastHealthJsonCache := (s.lastHealthJsonCache.noteAll (healthTexts dump e.snap)).1 } := by
  unfold onBmsSnapshot
  have hdb : afterwards e.faults (write (healthCacheAfter dump s e.snap)
      (changedKeys dump s e.snap) e.snap) s.db = s.db := by
    unfold afterwards
    rw [show transact _ _ s.db = none from h.2]
    rfl
  exact (if_neg (of_decide_eq_false h.1)).trans (congrArg (fun db => { s with
    db := db
    lastGroupJsonCache := (s.lastGroupJsonCache.noteAll (groupTexts dump e.snap)).1
    lastHealthJsonCache := (s.lastHealthJsonCache.noteAll (healthTexts dump e.snap)).1 }) hdb)

/-- A failing transaction leaves the sink as it was exactly when it had nothing new. -/
theorem onBmsSnapshot_eq_self_iff (h : Failed dump s e) :
    s.onBmsSnapshot dump e = s ↔ Known dump s e.snap := by
  unfold Known
  rw [onBmsSnapshot_of_failed h, ← Dict.noteAll_eq_self_iff, ← Dict.noteAll_eq_self_iff]
  constructor
  · intro hsame
    exact ⟨congrArg lastGroupJsonCache hsame, congrArg lastHealthJsonCache hsame⟩
  · rintro ⟨hgroups, hhealth⟩
    rw [hgroups, hhealth]

theorem known_of_skips (h : skips dump s e.snap = true) : Known dump s e.snap := by
  obtain ⟨-, hgroups, hhealth⟩ := of_decide_eq_true h
  constructor
  · exact fun k t ht => Dict.noteAll_eq_nil_iff.mp hgroups _ (Dict.lastText_mem ht)
  · exact fun k t ht => Dict.noteAll_eq_nil_iff.mp hhealth _ (Dict.lastText_mem ht)

/-- A call that stores nothing has nothing new, if none that fails has. -/
theorem stores_or_known (h : Failed dump s e → Known dump s e.snap) :
    stores dump s e = true ∨ Known dump s e.snap := by
  by_cases hstores : stores dump s e = true
  · exact Or.inl hstores
  · refine Or.inr ?_
    cases hskips : skips dump s e.snap with
    | true => exact known_of_skips hskips
    | false =>
      refine h ⟨hskips, ?_⟩
      rw [stores, hskips, Bool.not_false, Bool.true_and] at hstores
      exact Option.not_isSome_iff_eq_none.mp hstores

theorem written_of_stores (h : stores dump s e = true) :
    Written e.snap (changedKeys dump s e.snap) s.db (s.onBmsSnapshot dump e).db := by
  obtain ⟨hskips, hsome⟩ := Bool.and_eq_true_iff.mp h
  obtain ⟨db, hdb⟩ := Option.isSome_iff_exists.mp hsome
  obtain ⟨c, hc, rfl⟩ := Lib.Sql.of_transact hdb
  rw [onBmsSnapshot_db, if_neg (of_decide_eq_false (Bool.not_eq_true' _ |>.mp hskips)), afterwards,
    show transact _ _ s.db = some c.db from hdb]
  exact of_write (fun _ h => isSome_healthCacheAfter h) hc

end Steps

/-- No change is lost in exactly the runs in which each transaction that fails had nothing new. -/
theorem losesNothing_iff (writeMain : Bool) (db : BmsDb) (es : List BmsWrite) :
    (∀ pre e, pre ++ [e] <+: es → LosesNothing dump (sink dump writeMain db) pre e) ↔
      ∀ pre e, pre ++ [e] <+: es → Failed dump ((sink dump writeMain db).run pre) e →
        Known dump ((sink dump writeMain db).run pre) e.snap := by
  constructor
  · intro hall pre e hpre hfailed
    have hsame := (hall pre e hpre).failed hfailed
    rw [Machine.run_snoc] at hsame
    exact (onBmsSnapshot_eq_self_iff hfailed).mp hsame
  · intro hknown pre e hpre
    have hquiet : (sink dump writeMain db).EveryStep
        (fun s e => stores dump s e = true ∨ Known dump s e.snap) pre := fun before x hbefore =>
      stores_or_known (hknown before x (hbefore.trans ((List.prefix_append _ _).trans hpre)))
    have hgroup := Dict.cache_eq_latest (sink dump writeMain db) lastGroupJsonCache
      (fun e => groupTexts dump e.snap) (stores dump) rfl
      (fun _ _ _ => (onBmsSnapshot_caches _ _).1)
      fun before x hx => (hquiet before x hx).imp_right And.left
    have hhealth := Dict.cache_eq_latest (sink dump writeMain db) lastHealthJsonCache
      (fun e => healthTexts dump e.snap) (stores dump) rfl
      (fun _ _ _ => (onBmsSnapshot_caches _ _).2)
      fun before x hx => (hquiet before x hx).imp_right And.right
    refine ⟨fun hfailed => ?_, fun hstores x hx hne => ?_, fun hstores entry hentry hne => ?_⟩
    · rw [Machine.run_snoc]
      exact (onBmsSnapshot_eq_self_iff hfailed).mpr (hknown pre e hpre hfailed)
    · have hkey : groupKey x.instanceName x.msgName ∈
          changedKeys dump ((sink dump writeMain db).run pre) e.snap := by
        refine Dict.mem_noteAll_of_lastText ?_ (mem_groupTexts.mpr ⟨x, hx, rfl, rfl⟩)
        rw [hgroup]
        exact hne
      have hwritten := written_of_stores hstores
      rw [Machine.run_snoc]
      refine ⟨hkey, _, hwritten.raw, hwritten.rawRows.mpr ⟨x, ?_, rfl, rfl⟩⟩
      exact List.mem_filter.mpr ⟨hx, decide_eq_true hkey⟩
    · have hwritten := written_of_stores hstores
      rw [Machine.run_snoc]
      refine ⟨?_, _, hwritten.health, hwritten.healthRows.mpr (List.mem_map_of_mem hentry)⟩
      refine Dict.mem_noteAll_of_lastText ?_ (List.mem_map_of_mem hentry)
      rw [hhealth]
      exact hne

end BmsFlatSink

/-! ### The sink of the system -/

namespace SnapshotFlatSink

/-- No transaction is begun. -/
def skips (s : SnapshotFlatSink) (snap : SystemSnapshot) : Bool :=
  s.opened = false ∨ ¬ s.writeMainEverySnapshot ∧ changedDevices dump s snap = []

/-- The database that the transaction commits. -/
def committed (s : SnapshotFlatSink) (e : SystemWrite) : Option SystemDb :=
  transact e.faults (write (changedDevices dump s e.snap) e.snap) s.db

/-- A transaction is begun and does not succeed. -/
def Failed (s : SnapshotFlatSink) (e : SystemWrite) : Prop :=
  skips dump s e.snap = false ∧ committed dump s e = none

def stores (s : SnapshotFlatSink) (e : SystemWrite) : Bool :=
  !skips dump s e.snap && (committed dump s e).isSome

/-- The state of a device that was stored last. -/
def storedDevice (name : String) (s : SnapshotFlatSink) (e : SystemWrite) : Option String :=
  if stores dump s e then Dict.lastText name (deviceTexts dump e.snap.items) else none

/-- A failing transaction leaves everything as it was; one that succeeds stores the health of all
devices, and finds and stores each whose state differs from the one stored last. -/
structure LosesNothing (M : Machine SnapshotFlatSink SystemWrite Unit) (pre : List SystemWrite)
    (e : SystemWrite) : Prop where
  failed : Failed dump (M.run pre) e → M.run (pre ++ [e]) = M.run pre
  devices : stores dump (M.run pre) e → ∀ entry ∈ e.snap.items,
    ¬ (isBmsShadowItem entry.1 ∨ entry.1 = "BMS") →
    M.latest (storedDevice dump entry.1) pre ≠
        Dict.lastText entry.1 (deviceTexts dump e.snap.items) →
      entry.1 ∈ changedDevices dump (M.run pre) e.snap ∧
        HasState (M.run pre).db.nextMainId e.snap.timestampMs entry (M.run (pre ++ [e])).db
  health : stores dump (M.run pre) e → ∀ entry ∈ e.snap.items,
    ¬ (isBmsShadowItem entry.1 ∨ entry.1 = "BMS") →
      HasHealth (M.run pre).db.nextMainId e.snap.timestampMs entry (M.run (pre ++ [e])).db

/-- The caches have all texts of the snapshot already. -/
def Known (s : SnapshotFlatSink) (snap : SystemSnapshot) : Prop :=
  s.lastDeviceJsonCache.Has (deviceTexts dump snap.items) ∧
    s.lastDeviceHealthCache.Has (healthTexts dump snap.items)

/-- The sink that is made on a file, on a database that may fail. -/
def sink (writeMain : Bool) (o : Opening) (file : SystemDb) :
    Machine SnapshotFlatSink SystemWrite Unit where
  start := .create writeMain o file
  step s e := (s.onSnapshot dump e, [])

section Steps

variable {dump} {s : SnapshotFlatSink} {e : SystemWrite}

theorem opened_of_skips (h : skips dump s e.snap = false) : s.opened = true := by
  by_contra hclosed
  exact of_decide_eq_false h (Or.inl (Bool.eq_false_iff.mpr hclosed))

theorem onSnapshot_deviceCache (h : s.opened = true) (e : SystemWrite) :
    (s.onSnapshot dump e).lastDeviceJsonCache =
      (s.lastDeviceJsonCache.noteAll (deviceTexts dump e.snap.items)).1 := by
  rw [← collect_device _ s.lastDeviceHealthCache, onSnapshot, h, if_neg (by decide)]
  dsimp only
  split <;> rfl

theorem onSnapshot_of_failed (h : Failed dump s e) :
    s.onSnapshot dump e = { s with
      lastDeviceJsonCache := (collectChangedDevices dump s.lastDeviceJsonCache
        s.lastDeviceHealthCache e.snap.items).1.1
      lastDeviceHealthCache := (collectChangedDevices dump s.lastDeviceJsonCache
        s.lastDeviceHealthCache e.snap.items).1.2 } := by
  have hquiet := not_or.mp (of_decide_eq_false h.1)
  have hdb : afterwards e.faults (write (changedDevices dump s e.snap) e.snap) s.db = s.db := by
    unfold afterwards
    rw [show transact _ _ s.db = none from h.2]
    rfl
  rw [onSnapshot, if_neg (by simp [opened_of_skips h.1])]
  exact (if_neg hquiet.2).trans (congrArg (fun db => { s with
    db := db
    lastDeviceJsonCache := (collectChangedDevices dump s.lastDeviceJsonCache
      s.lastDeviceHealthCache e.snap.items).1.1
    lastDeviceHealthCache := (collectChangedDevices dump s.lastDeviceJsonCache
      s.lastDeviceHealthCache e.snap.items).1.2 }) hdb)

/-- A failing transaction leaves the sink as it was exactly when it had nothing new. -/
theorem onSnapshot_eq_self_iff (h : Failed dump s e) :
    s.onSnapshot dump e = s ↔ Known dump s e.snap := by
  unfold Known
  rw [onSnapshot_of_failed h, ← collect_eq_self_iff]
  constructor
  · intro hsame
    exact Prod.ext (congrArg lastDeviceJsonCache hsame) (congrArg lastDeviceHealthCache hsame)
  · intro hsame
    rw [hsame]

theorem known_of_skips (hopened : s.opened = true) (h : skips dump s e.snap = true) :
    Known dump s e.snap := by
  rcases of_decide_eq_true h with hclosed | ⟨-, hnone⟩
  · rw [hopened] at hclosed
    cases hclosed
  · exact collect_eq_self_iff.mp (collect_of_none hnone)

/-- A call of an open sink that stores nothing has nothing new, if none that fails has. -/
theorem stores_or_known (hopened : s.opened = true)
    (h : Failed dump s e → Known dump s e.snap) :
    stores dump s e = true ∨ Known dump s e.snap := by
  by_cases hstores : stores dump s e = true
  · exact Or.inl hstores
  · refine Or.inr ?_
    cases hskips : skips dump s e.snap with
    | true => exact known_of_skips hopened hskips
    | false =>
      refine h ⟨hskips, ?_⟩
      rw [stores, hskips, Bool.not_false, Bool.true_and] at hstores
      exact Option.not_isSome_iff_eq_none.mp hstores

theorem opened_of_stores (h : stores dump s e = true) : s.opened = true :=
  opened_of_skips (Bool.not_eq_true' _ |>.mp (Bool.and_eq_true_iff.mp h).1)

theorem db_of_stores (h : stores dump s e = true) :
    ∃ c, write (changedDevices dump s e.snap) e.snap { db := s.db, left := e.faults.statement } =
        some ((), c) ∧ (s.onSnapshot dump e).db = c.db := by
  obtain ⟨hskips, hsome⟩ := Bool.and_eq_true_iff.mp h
  have hskips := Bool.not_eq_true' _ |>.mp hskips
  obtain ⟨db, hdb⟩ := Option.isSome_iff_exists.mp hsome
  obtain ⟨c, hc, rfl⟩ := Lib.Sql.of_transact hdb
  refine ⟨c, hc, ?_⟩
  rw [onSnapshot_db dump (opened_of_skips hskips),
    if_neg (not_or.mp (of_decide_eq_false hskips)).2, afterwards,
    show transact _ _ s.db = some c.db from hdb]
  rfl

/-- A call adds no table, nor does it take one away. -/
theorem has_onSnapshot (s : SnapshotFlatSink) (e : SystemWrite) (t : SystemTable) :
    (s.onSnapshot dump e).db.has t = s.db.has t := by
  cases hopened : s.opened with
  | false => rw [onSnapshot_closed dump hopened]
  | true =>
    rw [onSnapshot_db dump hopened]
    split
    · rfl
    · rw [afterwards]
      cases hdb : transact e.faults (write (changedDevices dump s e.snap) e.snap) s.db with
      | none => rfl
      | some db =>
        obtain ⟨c, hc, rfl⟩ := Lib.Sql.of_transact hdb
        exact (of_write hc).1.tables t

end Steps

section Run

variable {dump} (writeMain : Bool) (o : Opening) (file : SystemDb) (es : List SystemWrite)

theorem create_deviceCache :
    (SnapshotFlatSink.create writeMain o file).lastDeviceJsonCache = Dict.empty := by
  rw [SnapshotFlatSink.create]
  split <;> rfl

theorem opened_run : ((sink dump writeMain o file).run es).opened = o.opens := by
  induction es using List.reverseRecOn with
  | nil =>
    show (SnapshotFlatSink.create writeMain o file).opened = o.opens
    rw [SnapshotFlatSink.create]
    cases o.opens <;> rfl
  | append_singleton es e ih =>
    rw [Machine.run_snoc]
    exact (opened_onSnapshot dump _ e).trans ih

theorem has_run (t : SystemTable) :
    ((sink dump writeMain o file).run es).db.has t =
      (SnapshotFlatSink.create writeMain o file).db.has t := by
  induction es using List.reverseRecOn with
  | nil => rfl
  | append_singleton es e ih =>
    rw [Machine.run_snoc]
    exact (has_onSnapshot _ e t).trans ih

/-- The table of a state is there exactly where the file has it, or has the table that the schema
does not create; in a new file none is there, whatever comes in. -/
theorem has_state_iff (t : StateTable) :
    ((sink dump writeMain {} file).run es).db.has (.state t) =
      (file.gasPollEvent || file.has (.state t)) := by
  rw [has_run]
  exact has_initSchema file t

/-- No change is lost in exactly the runs in which each transaction that fails had nothing new. -/
theorem losesNothing_iff :
    (∀ pre e, pre ++ [e] <+: es → LosesNothing dump (sink dump writeMain o file) pre e) ↔
      ∀ pre e, pre ++ [e] <+: es → Failed dump ((sink dump writeMain o file).run pre) e →
        Known dump ((sink dump writeMain o file).run pre) e.snap := by
  constructor
  · intro hall pre e hpre hfailed
    have hsame := (hall pre e hpre).failed hfailed
    rw [Machine.run_snoc] at hsame
    exact (onSnapshot_eq_self_iff hfailed).mp hsame
  · intro hknown pre e hpre
    have hopened := @opened_run dump writeMain o file
    have hquiet : o.opens = true → (sink dump writeMain o file).EveryStep
        (fun s e => stores dump s e = true ∨ Known dump s e.snap) pre :=
      fun hopens before x hbefore => stores_or_known ((hopened before).trans hopens)
        (hknown before x (hbefore.trans ((List.prefix_append _ _).trans hpre)))
    have hopens : stores dump ((sink dump writeMain o file).run pre) e = true →
        o.opens = true := fun hstores => (hopened pre).symm.trans (opened_of_stores hstores)
    refine ⟨fun hfailed => ?_, fun hstores entry hentry hbms hne => ?_,
      fun hstores entry hentry hbms => ?_⟩
    · rw [Machine.run_snoc]
      exact (onSnapshot_eq_self_iff hfailed).mpr (hknown pre e hpre hfailed)
    · have hdevice := Dict.cache_eq_latest (sink dump writeMain o file) lastDeviceJsonCache
        (fun e => deviceTexts dump e.snap.items) (stores dump)
        (create_deviceCache writeMain o file)
        (fun before x _ => onSnapshot_deviceCache ((hopened before).trans (hopens hstores)) x)
        fun before x hx => (hquiet (hopens hstores) before x hx).imp_right And.left
      have hchanged : entry.1 ∈
          changedDevices dump ((sink dump writeMain o file).run pre) e.snap := by
        refine mem_collect (Dict.mem_noteAll_of_lastText ?_ (List.mem_map_of_mem
          (List.mem_filter.mpr ⟨hentry, ?_⟩)))
        · rw [hdevice]
          exact hne
        · exact decide_eq_true fun hshadow => hbms (Or.inl hshadow)
      obtain ⟨c, hwrite, hdb⟩ := db_of_stores hstores
      rw [Machine.run_snoc]
      refine ⟨hchanged, ?_⟩
      show HasState _ _ _ (SnapshotFlatSink.onSnapshot dump _ e).db
      rw [hdb]
      exact ((of_write hwrite).2 entry hentry hbms).2 hchanged
    · obtain ⟨c, hwrite, hdb⟩ := db_of_stores hstores
      rw [Machine.run_snoc]
      show HasHealth _ _ _ (SnapshotFlatSink.onSnapshot dump _ e).db
      rw [hdb]
      exact ((of_write hwrite).2 entry hentry hbms).1

end Run

end SnapshotFlatSink

/-- Both flat sinks lose no change in exactly the runs in which each transaction that fails had
nothing new. -/
theorem flat_sinks_lose_nothing_iff (dump : Json → String) (writeMain : Bool)
    (bmsDb : BmsDb) (bmsWrites : List BmsWrite) (o : Opening) (file : SystemDb)
    (writes : List SystemWrite) :
    ((∀ pre e, pre ++ [e] <+: bmsWrites →
        BmsFlatSink.LosesNothing dump (BmsFlatSink.sink dump writeMain bmsDb) pre e) ↔
      ∀ pre e, pre ++ [e] <+: bmsWrites →
        BmsFlatSink.Failed dump ((BmsFlatSink.sink dump writeMain bmsDb).run pre) e →
          BmsFlatSink.Known dump ((BmsFlatSink.sink dump writeMain bmsDb).run pre) e.snap) ∧
    ((∀ pre e, pre ++ [e] <+: writes →
        SnapshotFlatSink.LosesNothing dump (SnapshotFlatSink.sink dump writeMain o file) pre e) ↔
      ∀ pre e, pre ++ [e] <+: writes →
        SnapshotFlatSink.Failed dump ((SnapshotFlatSink.sink dump writeMain o file).run pre) e →
          SnapshotFlatSink.Known dump
            ((SnapshotFlatSink.sink dump writeMain o file).run pre) e.snap) :=
  ⟨BmsFlatSink.losesNothing_iff dump writeMain bmsDb bmsWrites,
    SnapshotFlatSink.losesNothing_iff writeMain o file writes⟩

/-- A smoke sensor, with its alarm. -/
def smokeItem (alarm : ℚ) : String × SnapshotItem :=
  ("SmokeSensor", { online := true, data := { num := [("alarm", alarm)] } })

def smokeSnapshot (alarm : ℚ) : SystemSnapshot where
  timestampMs := 1000
  items := [smokeItem alarm]
  nodup := List.pairwise_singleton _ _

/-- The texts of that sensor. -/
def smokeText : Json → String
  | .object [("num", .object [(_, .float alarm)])] =>
    if alarm = 0 then "\x7b\"num\":\x7b\"alarm\":0.0\x7d\x7d"
    else "\x7b\"num\":\x7b\"alarm\":1.0\x7d\x7d"
  | _ => "\x7b\"disconnect_count\":0,\"disconnect_window_ms\":0,\"last_offline_ms\":0," ++
    "\"last_ok_ms\":0,\"online\":true,\"state\":2\x7d"

/-- A quiet sensor, its alarm, and the alarm where the transaction does not begin. -/
def quiet : SystemWrite := { snap := smokeSnapshot 0 }

def alarming : SystemWrite := { snap := smokeSnapshot 1 }

def notBegun : SystemWrite := { snap := smokeSnapshot 1, faults := { begin := true } }

/-- A run of which the last snapshot is stored without the alarm, as no change. -/
theorem not_losesNothing_of_unchanged {file : SystemDb} {pre : List SystemWrite}
    (hstores : SnapshotFlatSink.stores smokeText
      ((SnapshotFlatSink.sink smokeText true {} file).run pre) alarming = true)
    (hdiffers : (SnapshotFlatSink.sink smokeText true {} file).latest
        (SnapshotFlatSink.storedDevice smokeText "SmokeSensor") pre ≠
      Dict.lastText "SmokeSensor" (SnapshotFlatSink.deviceTexts smokeText alarming.snap.items))
    (hnone : SnapshotFlatSink.changedDevices smokeText
      ((SnapshotFlatSink.sink smokeText true {} file).run pre) alarming.snap = []) :
    ¬ ∀ before e, before ++ [e] <+: pre ++ [alarming] →
      SnapshotFlatSink.LosesNothing smokeText
        (SnapshotFlatSink.sink smokeText true {} file) before e := by
  intro h
  have hfound := ((h pre alarming (List.prefix_refl _)).devices hstores (smokeItem 1)
    List.mem_cons_self (by decide) hdiffers).1
  rw [hnone] at hfound
  cases hfound

/-- In a file with all tables a quiet sensor is stored twice, which fills both caches; the
transaction with its alarm does not begin, and the same snapshot again is no change any more.  In a
new file nothing has to fail: the table of the state never comes, so that the transactions with the
alarm, once as a change of the state and once of the health, are rolled back, and the third has no
change. -/
theorem alarm_lost_after_failed_transaction :
    (¬ ∀ pre e, pre ++ [e] <+: [quiet, quiet, notBegun] ++ [alarming] →
      SnapshotFlatSink.LosesNothing smokeText
        (SnapshotFlatSink.sink smokeText true {} { gasPollEvent := true }) pre e) ∧
    (∀ es, ((SnapshotFlatSink.sink smokeText true {} {}).run es).db.has (.state .smokeState) =
      false) ∧
    ¬ ∀ pre e, pre ++ [e] <+: [alarming, alarming] ++ [alarming] →
      SnapshotFlatSink.LosesNothing smokeText
        (SnapshotFlatSink.sink smokeText true {} {}) pre e := by
  refine ⟨?_, ?_, ?_⟩
  · exact not_losesNothing_of_unchanged rfl (by decide) rfl
  · intro es
    rw [SnapshotFlatSink.has_state_iff]
    rfl
  · exact not_losesNothing_of_unchanged rfl (by decide) rfl

end Snapshot
end EnergyStorage
