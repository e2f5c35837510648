import Mathlib.Data.Finset.Insert
import EnergyStorage.Snapshot.FaultSink

/-! # The fault center

The set of active codes, the history of the recorded ones, and the row of each in the
database. -/

namespace EnergyStorage
namespace Fault

open Lib

/-- What the catalogue says of a code and the records use. -/
structure FaultMeta where
  name : String
  classification : String
  recordDb : Bool
  priorityRank : Int

/-- `metaOf`. -/
abbrev FaultCatalog := BitVec 16 → Option FaultMeta

structure FaultCenterHistRecord where
  code : BitVec 16
  firstOnMs : Nat
  clearMs : Nat
  seqNo : BitVec 16
  state : BitVec 16
  deriving DecidableEq, Repr

/-- A record is open while its `clear_ms` is 0. -/
def historyRecords : Journal (BitVec 16) FaultCenterHistRecord where
  key r := r.code
  isOpen r := r.clearMs == 0

structure FaultCenter where
  active : Finset (BitVec 16) := ∅
  activeDbRowidByCode : Dict (BitVec 16) Nat := .empty
  activeBeginMsByCode : Dict (BitVec 16) Nat := .empty
  nextHistSeq : BitVec 16 := 1
  history : List FaultCenterHistRecord := []
  historyDirty : Bool := false
  historyVersion : Nat := 0

def kMaxHistoryRecords : Nat := 1000

namespace FaultCenter

variable (cat : FaultCatalog)

def shouldRecordToDb (code : BitVec 16) : Bool :=
  match cat code with
  | none => false
  | some m => m.recordDb

/-- The center is told of the database; the history has to be shown anew. -/
def bindFaultDb (c : FaultCenter) : FaultCenter :=
  { c with historyDirty := true, historyVersion := c.historyVersion + 1 }

/-- The record of a row. -/
def histRecord (r : FaultHistoryDbRecord) : FaultCenterHistRecord :=
  ⟨r.code, r.firstOnMs, r.clearMs, r.seqNo, r.state⟩

/-- One row of the restoring loop. -/
def restoreRow (c : FaultCenter) (r : FaultHistoryDbRecord) : FaultCenter :=
  let c := { c with
    history := c.history ++ [histRecord r]
    nextHistSeq := if c.nextHistSeq ≤ r.seqNo then r.seqNo + 1 else c.nextHistSeq }
  if r.clearMs = 0 then
    { c with
      activeDbRowidByCode := c.activeDbRowidByCode.insert r.code r.id
      activeBeginMsByCode := c.activeBeginMsByCode.insert r.code r.firstOnMs }
  else c

/-- Rebuilds the history, the sequence number and the maps from the rows; the active codes
are not touched. -/
def restoreHistoryFromDb (c : FaultCenter) (rows : List FaultHistoryDbRecord) : FaultCenter :=
  let c := rows.foldl restoreRow { c with
    history := []
    activeDbRowidByCode := .empty
    activeBeginMsByCode := .empty
    nextHistSeq := 1 }
  { c with historyDirty := true, historyVersion := c.historyVersion + 1 }

def trimHistoryIfNeeded (c : FaultCenter) : FaultCenter :=
  { c with history := historyRecords.trim kMaxHistoryRecords c.history }

/-- The row of a new record, with what the catalogue says of the code. -/
def beginRow (rec : FaultCenterHistRecord) : FaultHistoryDbRecord :=
  let dbrec : FaultHistoryDbRecord :=
    { code := rec.code, firstOnMs := rec.firstOnMs, clearMs := rec.clearMs, seqNo := rec.seqNo
      state := rec.state }
  match cat rec.code with
  | none => dbrec
  | some m =>
    { dbrec with
      name := m.name, classification := m.classification, priorityRank := m.priorityRank }

theorem code_beginRow (r : FaultCenterHistRecord) : (beginRow cat r).code = r.code := by
  unfold beginRow
  cases cat r.code <;> rfl

theorem clearMs_beginRow (r : FaultCenterHistRecord) : (beginRow cat r).clearMs = r.clearMs := by
  unfold beginRow
  cases cat r.code <;> rfl

/-- A code that is to be recorded becomes active: a record, and a row whose number is kept. -/
def beginHistory (c : FaultCenter) (db : SqliteFaultSink) (code : BitVec 16) (ts : Nat) :
    FaultCenter × SqliteFaultSink :=
  let begun : FaultCenterHistRecord := ⟨code, ts, 0, c.nextHistSeq, 1⟩
  let c := trimHistoryIfNeeded
    { c with nextHistSeq := c.nextHistSeq + 1, history := c.history ++ [begun] }
  let ins := db.insertHistoryBegin (beginRow cat begun)
  ({ c with
      activeDbRowidByCode :=
        if 0 < ins.2 then c.activeDbRowidByCode.insert code ins.2 else c.activeDbRowidByCode
      historyDirty := true
      historyVersion := c.historyVersion + 1 },
    ins.1)

theorem history_beginHistory (c : FaultCenter) (db : SqliteFaultSink) (code : BitVec 16)
    (ts : Nat) : (c.beginHistory cat db code ts).1.history =
      historyRecords.trim kMaxHistoryRecords
        (c.history ++ [⟨code, ts, 0, c.nextHistSeq, 1⟩]) := by
  rw [beginHistory, trimHistoryIfNeeded]

theorem rows_beginHistory (c : FaultCenter) (db : SqliteFaultSink) (code : BitVec 16)
    (ts : Nat) : (c.beginHistory cat db code ts).2.rows =
      db.rows ++ [{ beginRow cat ⟨code, ts, 0, c.nextHistSeq, 1⟩ with id := db.nextId }] :=
  rfl

/-- The database side of the end of a recorded fault: by the row number where one is known,
else by the code. -/
def clearRow (c : FaultCenter) (db : SqliteFaultSink) (code : BitVec 16) (ts : Nat) :
    SqliteFaultSink :=
  match c.activeDbRowidByCode.get code with
  | some rowId => if 0 < rowId then db.markHistoryClearedById rowId ts
      else db.markHistoryCleared code ts
  | none => db.markHistoryCleared code ts

/-- A recorded code ends: its latest open record is closed, and its row. -/
def endHistory (c : FaultCenter) (db : SqliteFaultSink) (code : BitVec 16) (ts : Nat) :
    FaultCenter × SqliteFaultSink :=
  ({ c with
      history := Journal.amendLast (fun r => r.clearMs == 0 && r.code == code)
        (fun r => { r with clearMs := ts, state := 0 }) c.history
      historyDirty := true
      historyVersion := c.historyVersion + 1 },
    c.clearRow db code ts)

def setActive (c : FaultCenter) (db : SqliteFaultSink) (code : BitVec 16) (on : Bool)
    (ts : Nat) : FaultCenter × SqliteFaultSink :=
  let wasOn := decide (code ∈ c.active)
  let recordDb := shouldRecordToDb cat code
  if on then
    let c := { c with active := insert code c.active }
    if wasOn then (c, db) else
      let c := { c with activeBeginMsByCode := c.activeBeginMsByCode.insert code ts }
      if recordDb then c.beginHistory cat db code ts else (c, db)
  else
    let c := { c with active := c.active.erase code }
    if wasOn then
      let ended := if recordDb then c.endHistory db code ts else (c, db)
      ({ ended.1 with
          activeBeginMsByCode := ended.1.activeBeginMsByCode.erase code
          activeDbRowidByCode := ended.1.activeDbRowidByCode.erase code },
        ended.2)
    else (c, db)

/-! ### What a call does -/

/-- A call that finds the code as it wants it changes nothing. -/
theorem setActive_of_eq {c : FaultCenter} {code : BitVec 16} {on : Bool}
    (h : decide (code ∈ c.active) = on) (db : SqliteFaultSink) (ts : Nat) :
    c.setActive cat db code on ts = (c, db) := by
  cases on with
  | true =>
    have hmem : code ∈ c.active := of_decide_eq_true h
    simp only [setActive, if_true, h, Finset.insert_eq_of_mem hmem]
  | false =>
    have hmem : code ∉ c.active := of_decide_eq_false h
    simp only [setActive, Bool.false_eq_true, if_false, h, Finset.erase_eq_of_notMem hmem]

/-- Any other call begins or ends a fault. -/
theorem setActive_of_ne {c : FaultCenter} {code : BitVec 16} {on : Bool}
    (h : ¬ decide (code ∈ c.active) = on) :
    (on = true ∧ code ∉ c.active) ∨ (on = false ∧ code ∈ c.active) := by
  cases on with
  | true => exact .inl ⟨rfl, fun hmem => h (decide_eq_true hmem)⟩
  | false =>
    right
    by_contra hmem
    exact h (decide_eq_false fun hcode => hmem ⟨rfl, hcode⟩)

theorem setActive_begin {c : FaultCenter} {code : BitVec 16} (h : code ∉ c.active)
    (db : SqliteFaultSink) (ts : Nat) :
    c.setActive cat db code true ts =
      if shouldRecordToDb cat code then
        FaultCenter.beginHistory cat { c with
          active := insert code c.active
          activeBeginMsByCode := c.activeBeginMsByCode.insert code ts } db code ts
      else
        ({ c with
          active := insert code c.active
          activeBeginMsByCode := c.activeBeginMsByCode.insert code ts }, db) := by
  simp only [setActive, if_true, decide_eq_false h, Bool.false_eq_true, if_false]

theorem setActive_end {c : FaultCenter} {code : BitVec 16} (h : code ∈ c.active)
    (db : SqliteFaultSink) (ts : Nat) :
    c.setActive cat db code false ts =
      let c := { c with active := c.active.erase code }
      let ended := if shouldRecordToDb cat code then c.endHistory db code ts else (c, db)
      ({ ended.1 with
          activeBeginMsByCode := ended.1.activeBeginMsByCode.erase code
          activeDbRowidByCode := ended.1.activeDbRowidByCode.erase code },
        ended.2) := by
  simp only [setActive, Bool.false_eq_true, if_false, decide_eq_true h, if_true]

theorem active_setActive (c : FaultCenter) (db : SqliteFaultSink) (code : BitVec 16) (on : Bool)
    (ts : Nat) : (c.setActive cat db code on ts).1.active =
      if on then insert code c.active else c.active.erase code := by
  by_cases hsame : decide (code ∈ c.active) = on
  · rw [setActive_of_eq cat hsame]
    cases on with
    | true => exact (Finset.insert_eq_of_mem (of_decide_eq_true hsame)).symm
    | false => exact (Finset.erase_eq_of_notMem (of_decide_eq_false hsame)).symm
  · obtain ⟨hon, hnew⟩ | ⟨hoff, hmem⟩ := setActive_of_ne hsame
    · subst hon
      rw [setActive_begin cat hnew, if_pos rfl]
      split
      · rw [beginHistory, trimHistoryIfNeeded]
      · rfl
    · subst hoff
      rw [setActive_end cat hmem, if_neg Bool.false_ne_true]
      show (if shouldRecordToDb cat code then _ else _ : FaultCenter × SqliteFaultSink).1.active = _
      split <;> rfl

theorem length_rows_clearRow (c : FaultCenter) (db : SqliteFaultSink) (code : BitVec 16)
    (ts : Nat) : (c.clearRow db code ts).rows.length = db.rows.length := by
  have hby : (db.markHistoryCleared code ts).rows.length = db.rows.length := by
    rw [← List.length_map FaultHistoryDbRecord.id, ← List.length_map FaultHistoryDbRecord.id,
      db.ids_markHistoryCleared]
  unfold clearRow
  split
  · split
    · rw [← List.length_map FaultHistoryDbRecord.id, ← List.length_map FaultHistoryDbRecord.id,
        db.ids_markHistoryClearedById]
    · exact hby
  · exact hby

/-- A row is added exactly when a recorded code becomes active. -/
theorem length_rows_setActive (c : FaultCenter) (db : SqliteFaultSink) (code : BitVec 16)
    (on : Bool) (ts : Nat) : (c.setActive cat db code on ts).2.rows.length =
      db.rows.length + if on = true ∧ code ∉ c.active ∧ shouldRecordToDb cat code = true
        then 1 else 0 := by
  by_cases hsame : decide (code ∈ c.active) = on
  · have hnot : ¬ (on = true ∧ code ∉ c.active ∧ shouldRecordToDb cat code = true) := by
      intro h
      rw [h.1] at hsame
      exact h.2.1 (of_decide_eq_true hsame)
    rw [setActive_of_eq cat hsame, if_neg hnot, Nat.add_zero]
  · obtain ⟨hon, hnew⟩ | ⟨hoff, hmem⟩ := setActive_of_ne hsame
    · subst hon
      rw [setActive_begin cat hnew]
      by_cases hrec : shouldRecordToDb cat code = true
      · rw [if_pos hrec, if_pos ⟨rfl, hnew, hrec⟩, rows_beginHistory, List.length_append]
        rfl
      · rw [if_neg hrec, if_neg fun h => hrec h.2.2, Nat.add_zero]
    · subst hoff
      rw [setActive_end cat hmem, if_neg fun h => Bool.false_ne_true h.1, Nat.add_zero]
      show (if shouldRecordToDb cat code then _ else _ :
        FaultCenter × SqliteFaultSink).2.rows.length = _
      split
      · exact length_rows_clearRow _ db code ts
      · rfl

/-- A code that is not recorded leaves the records and the rows alone. -/
theorem records_setActive_of_not {c : FaultCenter} {code : BitVec 16}
    (h : shouldRecordToDb cat code = false) (db : SqliteFaultSink) (on : Bool) (ts : Nat) :
    (c.setActive cat db code on ts).1.history = c.history ∧
      (c.setActive cat db code on ts).2.rows = db.rows := by
  by_cases hsame : decide (code ∈ c.active) = on
  · rw [setActive_of_eq cat hsame]
    exact ⟨rfl, rfl⟩
  · obtain ⟨hon, hnew⟩ | ⟨hoff, hmem⟩ := setActive_of_ne hsame
    · subst hon
      rw [setActive_begin cat hnew, h]
      exact ⟨rfl, rfl⟩
    · subst hoff
      rw [setActive_end cat hmem, h]
      exact ⟨rfl, rfl⟩

end FaultCenter

/-- The program and what survives it. -/
structure FaultStore where
  center : FaultCenter
  db : SqliteFaultSink

end Fault
end EnergyStorage
