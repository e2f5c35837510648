import EnergyStorage.Lib.Machine
import EnergyStorage.Fault.Center

/-! # What the history and the database keep of the active codes

Over a run of fault changes, of restores and of restarts that restore, the records and the
rows that are open are those of the active codes, as long as no restart forgets an active
code and no restore leaves out an open row. -/

namespace EnergyStorage
namespace Fault

open Lib

namespace FaultCenter

variable (cat : FaultCatalog)

/-- The active codes that are recorded. -/
def recordedActive (c : FaultCenter) : Finset (BitVec 16) :=
  c.active.filter fun code => shouldRecordToDb cat code = true

/-- The open records and the open rows are those of the codes of `S`, one each, and every
kept row number is that of an open row of its code. -/
structure Keeps (S : Finset (BitVec 16)) (c : FaultCenter) (db : SqliteFaultSink) : Prop where
  history : historyRecords.Tracks S c.history
  rows : faultRows.Tracks S db.rows
  numbered : db.Numbered
  rowids : ∀ code id, c.activeDbRowidByCode.get code = some id →
    ∃ r ∈ db.rows, r.id = id ∧ faultRows.opensAt code r = true

/-! ### A fault begins or ends -/

theorem Keeps.beginHistory {S : Finset (BitVec 16)} {c : FaultCenter} {db : SqliteFaultSink}
    (h : Keeps S c db) {code : BitVec 16} (hcode : code ∉ S)
    (hcard : (insert code S).card ≤ kMaxHistoryRecords) (ts : Nat) :
    Keeps (insert code S) (c.beginHistory cat db code ts).1 (c.beginHistory cat db code ts).2 := by
  have hrecord : historyRecords.opensAt code ⟨code, ts, 0, c.nextHistSeq, 1⟩ = true :=
    Journal.opensAt_iff.mpr ⟨rfl, rfl⟩
  have hrow : faultRows.opensAt code
      { beginRow cat ⟨code, ts, 0, c.nextHistSeq, 1⟩ with id := db.nextId } = true := by
    apply Journal.opensAt_iff.mpr
    constructor
    · show ((beginRow cat _).clearMs == 0) = true
      rw [clearMs_beginRow]
      rfl
    · exact code_beginRow cat _
  constructor
  · rw [history_beginHistory]
    exact (h.history.open hcode hrecord).trim hcard
  · rw [rows_beginHistory]
    exact h.rows.open hcode hrow
  · exact h.numbered.insertHistoryBegin _
  · intro k id hk
    rw [rows_beginHistory]
    have hmap : (c.beginHistory cat db code ts).1.activeDbRowidByCode =
        c.activeDbRowidByCode.insert code db.nextId := if_pos h.numbered.nextId_pos
    rw [hmap, Dict.get_insert] at hk
    by_cases hkc : k = code
    · rw [if_pos hkc] at hk
      refine ⟨_, List.mem_append_right _ (List.mem_singleton_self _), Option.some_inj.mp hk, ?_⟩
      rw [hkc]
      exact hrow
    · rw [if_neg hkc] at hk
      obtain ⟨r, hr, hid, hopen⟩ := h.rowids k id hk
      exact ⟨r, List.mem_append_left _ hr, hid, hopen⟩

/-- The row of a tracked code is closed, by its number or by the code. -/
theorem Keeps.closes_clearRow {S : Finset (BitVec 16)} {c : FaultCenter} {db : SqliteFaultSink}
    (h : Keeps S c db) {code : BitVec 16} (hcode : code ∈ S) {ts : Nat} (hts : 0 < ts) :
    faultRows.Closes code db.rows (c.clearRow db code ts).rows := by
  have hby : faultRows.Closes code db.rows (db.markHistoryCleared code ts).rows :=
    SqliteFaultSink.closes_markHistoryCleared hts (h.rows.exists_open hcode)
  unfold clearRow
  cases hget : c.activeDbRowidByCode.get code with
  | none => exact hby
  | some rowId =>
    obtain ⟨r, hr, hid, hopen⟩ := h.rowids code rowId hget
    show faultRows.Closes code db.rows (if 0 < rowId then _ else _ : SqliteFaultSink).rows
    split
    · rename_i hpos
      rw [← hid]
      exact SqliteFaultSink.closes_markHistoryClearedById h.numbered hts hr (by omega) hopen
    · exact hby

theorem numbered_clearRow {db : SqliteFaultSink} (h : db.Numbered) (c : FaultCenter)
    (code : BitVec 16) (ts : Nat) : (c.clearRow db code ts).Numbered := by
  unfold clearRow
  split
  · split
    · exact h.markHistoryClearedById _ _
    · exact h.markHistoryCleared _ _
  · exact h.markHistoryCleared _ _

/-- The end of a recorded fault, with its row number forgotten. -/
theorem Keeps.endHistory {S : Finset (BitVec 16)} {c c' : FaultCenter} {db : SqliteFaultSink}
    (h : Keeps S c db) {code : BitVec 16} (hcode : code ∈ S) {ts : Nat} (hts : 0 < ts)
    (hhistory : c'.history = (c.endHistory db code ts).1.history)
    (hrowids : c'.activeDbRowidByCode = c.activeDbRowidByCode.erase code) :
    Keeps (S.erase code) c' (c.endHistory db code ts).2 := by
  have hrows := h.closes_clearRow hcode hts
  have hclosed : ∀ r : FaultCenterHistRecord,
      historyRecords.isOpen { r with clearMs := ts, state := 0 } = false :=
    fun _ => beq_false_of_ne (Nat.ne_of_gt hts)
  constructor
  · rw [hhistory]
    exact h.history.close (Journal.closes_amendLast hclosed (h.history.exists_open hcode))
  · exact h.rows.close hrows
  · exact numbered_clearRow h.numbered c code ts
  · intro k id hk
    rw [hrowids, Dict.get_erase] at hk
    by_cases hkc : k = code
    · rw [if_pos hkc] at hk
      cases hk
    · rw [if_neg hkc] at hk
      obtain ⟨r, hr, hid, hopen⟩ := h.rowids k id hk
      exact ⟨r, hrows.mem_of_ne hkc hr hopen, hid, hopen⟩

/-- A center with the same history and no new row numbers. -/
theorem Keeps.of_rowids {S : Finset (BitVec 16)} {c c' : FaultCenter} {db : SqliteFaultSink}
    (h : Keeps S c db) (hhistory : c'.history = c.history)
    (hrowids : ∀ code id, c'.activeDbRowidByCode.get code = some id →
      c.activeDbRowidByCode.get code = some id) : Keeps S c' db := by
  constructor
  · rw [hhistory]
    exact h.history
  · exact h.rows
  · exact h.numbered
  · intro code id hid
    exact h.rowids code id (hrowids code id hid)

theorem mem_recordedActive {c : FaultCenter} {code : BitVec 16} :
    code ∈ c.recordedActive cat ↔ code ∈ c.active ∧ shouldRecordToDb cat code = true :=
  Finset.mem_filter

theorem recordedActive_setActive (c : FaultCenter) (db : SqliteFaultSink) (code : BitVec 16)
    (on : Bool) (ts : Nat) : (c.setActive cat db code on ts).1.recordedActive cat =
      if on then
        if shouldRecordToDb cat code = true then insert code (c.recordedActive cat)
        else c.recordedActive cat
      else (c.recordedActive cat).erase code := by
  rw [recordedActive, active_setActive]
  cases on with
  | true => exact Finset.filter_insert _ _ _
  | false => exact Finset.filter_erase _ _ _

theorem Keeps.setOn {c : FaultCenter} {db : SqliteFaultSink}
    (h : Keeps (c.recordedActive cat) c db) {code : BitVec 16} (hnew : code ∉ c.active) (ts : Nat)
    (hcard : ((c.setActive cat db code true ts).1.recordedActive cat).card ≤ kMaxHistoryRecords) :
    Keeps ((c.setActive cat db code true ts).1.recordedActive cat)
      (c.setActive cat db code true ts).1 (c.setActive cat db code true ts).2 := by
  have hfresh : code ∉ c.recordedActive cat := fun hmem =>
    hnew ((mem_recordedActive cat).mp hmem).1
  rw [recordedActive_setActive, if_pos rfl] at hcard ⊢
  rw [setActive_begin cat hnew]
  by_cases hrec : shouldRecordToDb cat code = true
  · rw [if_pos hrec] at hcard ⊢
    rw [if_pos hrec]
    apply Keeps.beginHistory cat _ hfresh hcard ts
    exact h.of_rowids rfl fun _ _ hid => hid
  · rw [if_neg hrec, if_neg hrec]
    exact h.of_rowids rfl fun _ _ hid => hid

theorem Keeps.setOff {c : FaultCenter} {db : SqliteFaultSink}
    (h : Keeps (c.recordedActive cat) c db) {code : BitVec 16} (hwas : code ∈ c.active) {ts : Nat}
    (hts : 0 < ts) :
    Keeps ((c.setActive cat db code false ts).1.recordedActive cat)
      (c.setActive cat db code false ts).1 (c.setActive cat db code false ts).2 := by
  rw [recordedActive_setActive, if_neg Bool.false_ne_true, setActive_end cat hwas]
  by_cases hrec : shouldRecordToDb cat code = true
  · simp only [if_pos hrec]
    have hmem : code ∈ c.recordedActive cat := (mem_recordedActive cat).mpr ⟨hwas, hrec⟩
    have hkeeps : Keeps (c.recordedActive cat) { c with active := c.active.erase code } db :=
      h.of_rowids rfl fun _ _ hid => hid
    exact hkeeps.endHistory hmem hts rfl rfl
  · have hmem : code ∉ c.recordedActive cat := fun hmem =>
      hrec ((mem_recordedActive cat).mp hmem).2
    simp only [if_neg hrec]
    rw [Finset.erase_eq_of_notMem hmem]
    apply Keeps.of_rowids h
    · rfl
    · intro k id hk
      rw [Dict.get_erase] at hk
      split at hk
      · cases hk
      · exact hk

/-- A fault change keeps the open records and rows those of the recorded active codes, as
long as these are no more than the history holds. -/
theorem Keeps.setActive {c : FaultCenter} {db : SqliteFaultSink}
    (h : Keeps (c.recordedActive cat) c db) (code : BitVec 16) (on : Bool) {ts : Nat}
    (hts : 0 < ts)
    (hcard : ((c.setActive cat db code on ts).1.recordedActive cat).card ≤ kMaxHistoryRecords) :
    Keeps ((c.setActive cat db code on ts).1.recordedActive cat)
      (c.setActive cat db code on ts).1 (c.setActive cat db code on ts).2 := by
  by_cases hsame : decide (code ∈ c.active) = on
  · rw [setActive_of_eq cat hsame]
    exact h
  · obtain ⟨hon, hnew⟩ | ⟨hoff, hwas⟩ := setActive_of_ne hsame
    · subst hon
      exact h.setOn cat hnew ts hcard
    · subst hoff
      exact h.setOff cat hwas hts

/-! ### A restore -/

theorem foldl_restoreRow_active (rows : List FaultHistoryDbRecord) (c : FaultCenter) :
    (rows.foldl restoreRow c).active = c.active := by
  induction rows generalizing c with
  | nil => rfl
  | cons r rows ih =>
    rw [List.foldl_cons, ih, restoreRow]
    split <;> rfl

theorem foldl_restoreRow_history (rows : List FaultHistoryDbRecord) (c : FaultCenter) :
    (rows.foldl restoreRow c).history = c.history ++ rows.map histRecord := by
  induction rows generalizing c with
  | nil => exact (List.append_nil _).symm
  | cons r rows ih =>
    have hrow : (restoreRow c r).history = c.history ++ [histRecord r] := by
      rw [restoreRow]
      split <;> rfl
    rw [List.foldl_cons, ih, hrow, List.map_cons, List.append_assoc, List.singleton_append]

/-- The row number kept of a code is that of its last open row. -/
theorem foldl_restoreRow_rowid (rows : List FaultHistoryDbRecord) (c : FaultCenter)
    (code : BitVec 16) : (rows.foldl restoreRow c).activeDbRowidByCode.get code =
      (rows.reverse.findSome? fun r =>
        if faultRows.opensAt code r then some r.id else none).or
          (c.activeDbRowidByCode.get code) := by
  apply observe_foldl fun c : FaultCenter => c.activeDbRowidByCode.get code
  intro c r _
  by_cases hclear : r.clearMs = 0
  · have hmap : (restoreRow c r).activeDbRowidByCode =
        c.activeDbRowidByCode.insert r.code r.id := by
      rw [restoreRow, if_pos hclear]
    have hopen : faultRows.isOpen r = true := beq_iff_eq.mpr hclear
    rw [hmap, Dict.get_insert, Journal.opensAt, hopen, Bool.true_and]
    show (if code = r.code then _ else _) =
      (if decide (r.code = code) = true then some r.id else none).or _
    by_cases hcode : code = r.code
    · rw [if_pos hcode, if_pos (decide_eq_true hcode.symm)]
      rfl
    · have hcode' : ¬ decide (r.code = code) = true := fun e => hcode (of_decide_eq_true e).symm
      rw [if_neg hcode, if_neg hcode']
      rfl
  · have hmap : (restoreRow c r).activeDbRowidByCode = c.activeDbRowidByCode := by
      rw [restoreRow, if_neg hclear]
    have hclosed : faultRows.isOpen r = false := beq_false_of_ne hclear
    rw [hmap, Journal.opensAt_closed hclosed]
    rfl

theorem active_restoreHistoryFromDb (c : FaultCenter) (rows : List FaultHistoryDbRecord) :
    (c.restoreHistoryFromDb rows).active = c.active :=
  foldl_restoreRow_active rows _

theorem history_restoreHistoryFromDb (c : FaultCenter) (rows : List FaultHistoryDbRecord) :
    (c.restoreHistoryFromDb rows).history = rows.map histRecord :=
  foldl_restoreRow_history rows _

/-- After a restore every kept row number is that of an open row of its code. -/
theorem rowid_restoreHistoryFromDb {c : FaultCenter} {rows : List FaultHistoryDbRecord}
    {code : BitVec 16} {id : Nat}
    (h : (c.restoreHistoryFromDb rows).activeDbRowidByCode.get code = some id) :
    ∃ r ∈ rows, r.id = id ∧ faultRows.opensAt code r = true := by
  have hlast : (rows.foldl restoreRow { c with
      history := [], activeDbRowidByCode := .empty, activeBeginMsByCode := .empty
      nextHistSeq := 1 }).activeDbRowidByCode.get code = some id := h
  rw [foldl_restoreRow_rowid, Dict.get_empty, Option.or_none] at hlast
  obtain ⟨r, hr, hrid⟩ := List.exists_of_findSome?_eq_some hlast
  split at hrid
  · rename_i hopen
    exact ⟨r, List.mem_reverse.mp hr, Option.some_inj.mp hrid, hopen⟩
  · cases hrid

theorem opensAt_histRecord (r : FaultHistoryDbRecord) (code : BitVec 16) :
    historyRecords.opensAt code (histRecord r) = faultRows.opensAt code r := rfl

/-- A restored history tracks the same codes exactly when the rows it does not load are all
closed. -/
theorem Keeps.history_restore_iff {S : Finset (BitVec 16)} {c c' : FaultCenter}
    {db : SqliteFaultSink} (h : Keeps S c db) :
    historyRecords.Tracks S (c'.restoreHistoryFromDb db.loadRecentHistory).history ↔
      ∀ r ∈ db.unloaded, r.clearMs ≠ 0 := by
  have hclosed : (∀ r ∈ db.unloaded, faultRows.isOpen r = false) ↔
      ∀ r ∈ db.unloaded, r.clearMs ≠ 0 := by
    apply forall₂_congr
    intro r _
    exact beq_eq_false_iff_ne
  rw [← hclosed, history_restoreHistoryFromDb, Journal.Tracks.map opensAt_histRecord]
  exact h.rows.drop_iff _

theorem Keeps.restore {S : Finset (BitVec 16)} {c c' : FaultCenter} {db : SqliteFaultSink}
    (h : Keeps S c db) (hunloaded : ∀ r ∈ db.unloaded, r.clearMs ≠ 0) :
    Keeps S (c'.restoreHistoryFromDb db.loadRecentHistory) db := by
  refine ⟨h.history_restore_iff.mpr hunloaded, h.rows, h.numbered, ?_⟩
  intro code id hid
  obtain ⟨r, hr, hrid, hopen⟩ := rowid_restoreHistoryFromDb hid
  exact ⟨r, List.mem_of_mem_drop hr, hrid, hopen⟩

end FaultCenter

/-! ### Runs -/

/-- A time of the clock; 0 stands for no time. -/
structure UnixMs where
  ms : Nat
  pos : 0 < ms

inductive FaultCall
  | setActive (code : BitVec 16) (on : Bool) (ts : UnixMs)
  | restoreHistoryFromDb
  | restart

/-- A program that starts binds the database and restores its latest rows. -/
def boot (db : SqliteFaultSink) : FaultStore :=
  ⟨({} : FaultCenter).bindFaultDb.restoreHistoryFromDb db.loadRecentHistory, db⟩

variable (cat : FaultCatalog)

def FaultStore.step (s : FaultStore) : FaultCall → FaultStore
  | .setActive code on ts =>
    let (center, db) := s.center.setActive cat s.db code on ts.ms
    ⟨center, db⟩
  | .restoreHistoryFromDb => ⟨s.center.restoreHistoryFromDb s.db.loadRecentHistory, s.db⟩
  | .restart => boot s.db

/-- A run from an empty database. -/
def faultRuns (loadLimit : Nat) : Machine FaultStore FaultCall Empty :=
  ⟨boot { loadLimit }, fun s call => (s.step cat call, [])⟩

namespace FaultStore

/-- Each active recorded code has one open record in the history and one open row in the
database; no other code has any. -/
def OneOpenEach (s : FaultStore) : Prop :=
  ∀ code,
    let n := if code ∈ s.center.active ∧ FaultCenter.shouldRecordToDb cat code = true then 1 else 0
    s.center.history.countP (fun r => r.clearMs == 0 && r.code = code) = n ∧
      s.db.rows.countP (fun r => r.clearMs == 0 && r.code = code) = n

/-- A restart finds no recorded code active; a restore finds no open row beyond the rows it
loads. -/
def Forgetless (s : FaultStore) : FaultCall → Prop
  | .setActive .. => True
  | .restoreHistoryFromDb => ∀ r ∈ s.db.unloaded, r.clearMs ≠ 0
  | .restart => ∀ code ∈ s.center.active, FaultCenter.shouldRecordToDb cat code = false

variable {cat}

theorem oneOpenEach_iff {s : FaultStore} : s.OneOpenEach cat ↔
    historyRecords.Tracks (s.center.recordedActive cat) s.center.history ∧
      faultRows.Tracks (s.center.recordedActive cat) s.db.rows := by
  unfold OneOpenEach Journal.Tracks
  rw [← forall_and]
  apply forall_congr'
  intro code
  have hmem : (if code ∈ s.center.recordedActive cat then 1 else 0) =
      if code ∈ s.center.active ∧ FaultCenter.shouldRecordToDb cat code = true then 1 else 0 :=
    if_congr (FaultCenter.mem_recordedActive cat) rfl rfl
  rw [hmem]
  exact Iff.rfl

variable (cat) in
/-- The invariant of the runs that forget nothing. -/
def Kept (s : FaultStore) : Prop := FaultCenter.Keeps (s.center.recordedActive cat) s.center s.db

theorem Kept.oneOpenEach {s : FaultStore} (h : s.Kept cat) : s.OneOpenEach cat :=
  oneOpenEach_iff.mpr ⟨h.history, h.rows⟩

theorem recordedActive_eq_empty {c : FaultCenter} : c.recordedActive cat = ∅ ↔
    ∀ code ∈ c.active, FaultCenter.shouldRecordToDb cat code = false := by
  rw [FaultCenter.recordedActive, Finset.filter_eq_empty_iff]
  apply forall₂_congr
  intro code _
  exact iff_of_eq (Bool.not_eq_true _)

theorem recordedActive_restore (c : FaultCenter) (rows : List FaultHistoryDbRecord) :
    (c.restoreHistoryFromDb rows).recordedActive cat = c.recordedActive cat := by
  rw [FaultCenter.recordedActive, FaultCenter.active_restoreHistoryFromDb,
    FaultCenter.recordedActive]

theorem recordedActive_boot (db : SqliteFaultSink) : (boot db).center.recordedActive cat = ∅ := by
  have hactive : (boot db).center.active = ∅ := FaultCenter.active_restoreHistoryFromDb _ _
  rw [FaultCenter.recordedActive, hactive, Finset.filter_empty]

/-- A start on a database without open rows. -/
theorem kept_boot {db : SqliteFaultSink} (hn : db.Numbered) (h : faultRows.Tracks ∅ db.rows) :
    (boot db).Kept cat := by
  have hempty : FaultCenter.Keeps ∅ {} db :=
    ⟨Journal.tracks_nil, h, hn, fun _ _ hid => by cases hid⟩
  have hclosed : ∀ r ∈ db.rows, faultRows.isOpen r = false := Journal.opens_eq_zero_forall.mp h
  rw [Kept, recordedActive_boot]
  apply hempty.restore
  intro r hr
  exact beq_eq_false_iff_ne.mp (hclosed r (List.mem_of_mem_take hr))

theorem Kept.step {s : FaultStore} (h : s.Kept cat) {call : FaultCall}
    (hcard : ((s.step cat call).center.recordedActive cat).card ≤ kMaxHistoryRecords)
    (hcall : s.Forgetless cat call) : (s.step cat call).Kept cat := by
  cases call with
  | setActive code on ts => exact FaultCenter.Keeps.setActive cat h code on ts.pos hcard
  | restoreHistoryFromDb =>
    have hactive : (s.step cat .restoreHistoryFromDb).center.recordedActive cat =
        s.center.recordedActive cat := recordedActive_restore _ _
    rw [Kept, hactive]
    exact h.restore hcall
  | restart =>
    have hnone : s.center.recordedActive cat = ∅ := recordedActive_eq_empty.mpr hcall
    apply kept_boot h.numbered
    rw [← hnone]
    exact h.rows

/-- From a state that is kept, only a step that forgets breaks the bookkeeping. -/
theorem Kept.oneOpenEach_step_iff {s : FaultStore} (h : s.Kept cat) {call : FaultCall}
    (hcard : ((s.step cat call).center.recordedActive cat).card ≤ kMaxHistoryRecords) :
    (s.step cat call).OneOpenEach cat ↔ s.Forgetless cat call := by
  constructor
  · intro hone
    obtain ⟨hhistory, hrows⟩ := oneOpenEach_iff.mp hone
    cases call with
    | setActive code on ts => trivial
    | restoreHistoryFromDb =>
      have hactive : (s.step cat .restoreHistoryFromDb).center.recordedActive cat =
          s.center.recordedActive cat := recordedActive_restore _ _
      rw [hactive] at hhistory
      exact h.history_restore_iff.mp hhistory
    | restart =>
      apply recordedActive_eq_empty.mp
      apply h.rows.unique
      have hboot : (s.step cat .restart).center.recordedActive cat = ∅ := recordedActive_boot s.db
      rw [← hboot]
      exact hrows
  · intro hcall
    exact (h.step hcard hcall).oneOpenEach

end FaultStore

open FaultStore

/-- Along a run with at most as many recorded codes active as the history holds, each active
code has its one open record and its one open row after every call exactly when no call
forgets. -/
theorem oneOpenEach_iff_forgetless (loadLimit : Nat) (calls : List FaultCall)
    (hcard : ∀ pre, pre <+: calls →
      (((faultRuns cat loadLimit).run pre).center.recordedActive cat).card ≤
        kMaxHistoryRecords) :
    (∀ pre, pre <+: calls → ((faultRuns cat loadLimit).run pre).OneOpenEach cat) ↔
      ∀ pre call, pre ++ [call] <+: calls →
        ((faultRuns cat loadLimit).run pre).Forgetless cat call := by
  have hstart : (faultRuns cat loadLimit).start.Kept cat :=
    kept_boot ⟨List.nodup_nil, by simp, Nat.one_pos⟩ Journal.tracks_nil
  apply Machine.along_iff _ hstart
    (C := fun s => (s.center.recordedActive cat).card ≤ kMaxHistoryRecords)
  · exact fun s hs => hs.oneOpenEach
  · exact fun s call hs hafter hcall => hs.step hafter hcall
  · exact fun s call hs hafter hone => (hs.oneOpenEach_step_iff hafter).mp hone
  · exact hcard

/-- A catalogue in which every code is recorded. -/
def recordAll : FaultCatalog := fun _ => some ⟨"fault", "pcs", true, 1⟩

/-- One fault comes and ends before the restart, another comes after it. -/
def quietCalls : List FaultCall :=
  [.setActive 0x1001 true ⟨10, by decide⟩, .setActive 0x1001 false ⟨20, by decide⟩, .restart,
    .setActive 0x1002 true ⟨30, by decide⟩, .restoreHistoryFromDb]

/-- A fault is active over a restart and is reported again. -/
def forgettingCalls : List FaultCall :=
  [.setActive 0x1001 true ⟨10, by decide⟩, .restart, .setActive 0x1001 true ⟨30, by decide⟩]

theorem oneOpenEach_quietCalls :
    (∀ pre, pre <+: quietCalls → ((faultRuns recordAll 1000).run pre).OneOpenEach recordAll) ↔
      ∀ pre call, pre ++ [call] <+: quietCalls →
        ((faultRuns recordAll 1000).run pre).Forgetless recordAll call := by
  apply oneOpenEach_iff_forgetless recordAll 1000 quietCalls
  intro pre hpre
  have hmem : pre ∈ quietCalls.inits := (List.mem_inits _ _).mpr hpre
  have hall : ∀ pre ∈ quietCalls.inits,
      (((faultRuns recordAll 1000).run pre).center.recordedActive recordAll).card ≤ 1000 := by
    decide
  exact hall pre hmem

/-- The code is active once; the database has two open rows of it. -/
theorem two_open_rows :
    let s := (faultRuns recordAll 1000).run forgettingCalls
    ¬ s.OneOpenEach recordAll ∧ s.center.active = {0x1001} ∧
      s.db.rows.map (fun r => (r.id, r.code, r.clearMs)) = [(1, 0x1001, 0), (2, 0x1001, 0)] := by
  intro s
  have hactive : s.center.active = {0x1001} := by decide
  have hrows : s.db.rows.map (fun r => (r.id, r.code, r.clearMs)) =
      [(1, 0x1001, 0), (2, 0x1001, 0)] := by decide
  refine ⟨?_, hactive, hrows⟩
  intro hone
  have hcount := (hone 0x1001).2
  have htwo : s.db.rows.countP (fun r => r.clearMs == 0 && r.code = 0x1001) = 2 := by
    decide
  rw [htwo, hactive] at hcount
  exact absurd hcount (by decide)

end Fault
end EnergyStorage
