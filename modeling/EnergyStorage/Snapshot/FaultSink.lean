import Mathlib.Data.Nat.Notation
import EnergyStorage.Lib.Dict
import EnergyStorage.Lib.Journal

/-! # The table of fault records

The sink is open and every statement succeeds.  The row numbers are those of an
`AUTOINCREMENT` key: they start at 1 and are never given twice. -/

namespace EnergyStorage

open Lib

structure FaultHistoryDbRecord where
  id : Nat := 0
  code : BitVec 16
  firstOnMs : Nat
  clearMs : Nat
  seqNo : BitVec 16
  state : BitVec 16
  name : String := ""
  classification : String := ""
  priorityRank : Int := 9999
  deriving DecidableEq, Repr

/-- The rows, oldest first, and the next row number. -/
structure SqliteFaultSink where
  loadLimit : Nat := 1000
  rows : List FaultHistoryDbRecord := []
  nextId : Nat := 1

/-- A row is open while its `clear_ms` is 0. -/
def faultRows : Journal (BitVec 16) FaultHistoryDbRecord where
  key r := r.code
  isOpen r := r.clearMs == 0

namespace SqliteFaultSink

/-- Inserts a row and gives its number. -/
def insertHistoryBegin (db : SqliteFaultSink) (rec : FaultHistoryDbRecord) :
    SqliteFaultSink × Nat :=
  ({ db with rows := db.rows ++ [{ rec with id := db.nextId }], nextId := db.nextId + 1 },
    db.nextId)

/-- `SET clear_ms = ?, state = 0`. -/
def cleared (clearMs : Nat) (r : FaultHistoryDbRecord) : FaultHistoryDbRecord :=
  { r with clearMs := clearMs, state := 0 }

/-- Clears the latest row of the code that is not cleared. -/
def markHistoryCleared (db : SqliteFaultSink) (code : BitVec 16) (clearMs : Nat) :
    SqliteFaultSink :=
  { db with
    rows := Journal.amendLast (fun r => r.clearMs == 0 && r.code == code) (cleared clearMs)
      db.rows }

def markHistoryClearedById (db : SqliteFaultSink) (rowId clearMs : Nat) : SqliteFaultSink :=
  if rowId = 0 then db else
    { db with rows := db.rows.map fun r => if r.id = rowId then cleared clearMs r else r }

/-- The latest rows up to the limit, oldest first. -/
def loadRecentHistory (db : SqliteFaultSink) : List FaultHistoryDbRecord :=
  db.rows.drop (db.rows.length - db.loadLimit)

/-- The older rows, beyond the limit. -/
def unloaded (db : SqliteFaultSink) : List FaultHistoryDbRecord :=
  db.rows.take (db.rows.length - db.loadLimit)

/-- The row numbers differ and are below the next one. -/
structure Numbered (db : SqliteFaultSink) : Prop where
  nodup : (db.rows.map FaultHistoryDbRecord.id).Nodup
  lt_nextId : ∀ i ∈ db.rows.map FaultHistoryDbRecord.id, i < db.nextId
  nextId_pos : 0 < db.nextId

theorem Numbered.insertHistoryBegin {db : SqliteFaultSink} (h : db.Numbered)
    (rec : FaultHistoryDbRecord) : (db.insertHistoryBegin rec).1.Numbered := by
  have hids : (db.insertHistoryBegin rec).1.rows.map FaultHistoryDbRecord.id =
      db.rows.map FaultHistoryDbRecord.id ++ [db.nextId] := by
    show (db.rows ++ [_]).map _ = _
    rw [List.map_append]
    rfl
  constructor
  · rw [hids, List.nodup_append]
    refine ⟨h.nodup, List.nodup_singleton _, ?_⟩
    intro i hi j hj
    rw [List.mem_singleton.mp hj]
    exact Nat.ne_of_lt (h.lt_nextId i hi)
  · rw [hids]
    intro i hi
    show i < db.nextId + 1
    obtain hold | hnew := List.mem_append.mp hi
    · exact Nat.lt_succ_of_lt (h.lt_nextId i hold)
    · rw [List.mem_singleton.mp hnew]
      exact Nat.lt_succ_self _
  · exact Nat.succ_pos _

/-- Rewriting rows without touching their numbers. -/
theorem Numbered.of_ids {db db' : SqliteFaultSink} (h : db.Numbered)
    (hids : db'.rows.map FaultHistoryDbRecord.id = db.rows.map FaultHistoryDbRecord.id)
    (hnext : db'.nextId = db.nextId) : db'.Numbered := by
  constructor
  · rw [hids]
    exact h.nodup
  · rw [hids, hnext]
    exact h.lt_nextId
  · rw [hnext]
    exact h.nextId_pos

theorem ids_markHistoryCleared (db : SqliteFaultSink) (code : BitVec 16) (clearMs : Nat) :
    (db.markHistoryCleared code clearMs).rows.map FaultHistoryDbRecord.id =
      db.rows.map FaultHistoryDbRecord.id := by
  have hid : ∀ r, (cleared clearMs r).id = r.id := fun _ => rfl
  exact Journal.map_amendLast hid _

theorem ids_markHistoryClearedById (db : SqliteFaultSink) (rowId clearMs : Nat) :
    (db.markHistoryClearedById rowId clearMs).rows.map FaultHistoryDbRecord.id =
      db.rows.map FaultHistoryDbRecord.id := by
  unfold SqliteFaultSink.markHistoryClearedById
  split
  · rfl
  · show (db.rows.map fun r => if r.id = rowId then cleared clearMs r else r).map _ = _
    rw [List.map_map]
    apply List.map_congr_left
    intro r _
    show (if r.id = rowId then cleared clearMs r else r).id = r.id
    split <;> rfl

theorem Numbered.markHistoryCleared {db : SqliteFaultSink} (h : db.Numbered) (code : BitVec 16)
    (clearMs : Nat) : (db.markHistoryCleared code clearMs).Numbered :=
  h.of_ids (db.ids_markHistoryCleared code clearMs) rfl

theorem Numbered.markHistoryClearedById {db : SqliteFaultSink} (h : db.Numbered)
    (rowId clearMs : Nat) : (db.markHistoryClearedById rowId clearMs).Numbered := by
  apply h.of_ids (db.ids_markHistoryClearedById rowId clearMs)
  unfold SqliteFaultSink.markHistoryClearedById
  split <;> rfl

theorem isOpen_cleared {clearMs : Nat} (h : 0 < clearMs) (r : FaultHistoryDbRecord) :
    faultRows.isOpen (cleared clearMs r) = false :=
  beq_false_of_ne (Nat.ne_of_gt h)

/-- With an open row of the code, the latest one is closed. -/
theorem closes_markHistoryCleared {db : SqliteFaultSink} {code : BitVec 16} {clearMs : Nat}
    (hts : 0 < clearMs) (h : ∃ r ∈ db.rows, faultRows.opensAt code r = true) :
    faultRows.Closes code db.rows (db.markHistoryCleared code clearMs).rows :=
  Journal.closes_amendLast (isOpen_cleared hts) h

/-- The number of an open row of the code closes that row. -/
theorem closes_markHistoryClearedById {db : SqliteFaultSink} (hn : db.Numbered)
    {code : BitVec 16} {clearMs : Nat} (hts : 0 < clearMs) {r : FaultHistoryDbRecord}
    (hr : r ∈ db.rows) (hid : r.id ≠ 0) (hopen : faultRows.opensAt code r = true) :
    faultRows.Closes code db.rows (db.markHistoryClearedById r.id clearMs).rows := by
  rw [SqliteFaultSink.markHistoryClearedById, if_neg hid]
  exact Journal.closes_of_id (isOpen_cleared hts) hn.nodup hr hopen

end SqliteFaultSink
end EnergyStorage
