import Mathlib.Data.List.Sort
import EnergyStorage.Lib.Paging
import EnergyStorage.Snapshot.FaultSink

/-! # The queries behind the history page -/

namespace EnergyStorage

/-- How a statement runs: to its end, not at all, or up to an error after some rows. -/
inductive StatementRun where
  | done
  | notPrepared
  | breaksOff (rows : Nat)
  deriving DecidableEq, Repr

/-- `bindRowsFromStmt_` reads rows while there are any; an error ends them like their end. -/
def StatementRun.bindRows {α : Type*} (run : StatementRun) (rows : List α) : Option (List α) :=
  match run with
  | .done => some rows
  | .notPrepared => none
  | .breaksOff k => some (rows.take k)

/-- A count query that gives its row. -/
def StatementRun.GivesRow (run : StatementRun) : Prop := run ≠ .notPrepared ∧ run ≠ .breaksOff 0

instance (run : StatementRun) : Decidable run.GivesRow :=
  inferInstanceAs (Decidable (_ ∧ _))

/-- An error among the rows is taken for their end. -/
def StatementRun.Whole (run : StatementRun) : Prop := run = .done ∨ run = .notPrepared

instance (run : StatementRun) : Decidable run.Whole :=
  inferInstanceAs (Decidable (_ ∨ _))

/-- `sqlite3_bind_int` of a `uint32_t`. -/
def bindInt (n : Nat) : Int := (BitVec.ofNat 32 n).toInt

/-- `LIMIT limit OFFSET offset`: a negative limit is none, a negative offset counts as 0. -/
def limitOffset {α : Type*} (limit offset : Int) (rows : List α) : List α :=
  if limit < 0 then rows.drop offset.toNat else (rows.drop offset.toNat).take limit.toNat

namespace SqliteFaultSink

/-- `WHERE clear_ms != 0 ORDER BY id DESC`. -/
def clearedRows (db : SqliteFaultSink) : List FaultHistoryDbRecord :=
  (db.rows.filter fun r => r.clearMs != 0).insertionSort fun a b => b.id ≤ a.id

def countHistoryRows (run : StatementRun) (db : SqliteFaultSink) : Option Nat :=
  match run with
  | .notPrepared | .breaksOff 0 => none
  | .done | .breaksOff _ => some (db.rows.countP (fun r => r.clearMs != 0) % 2 ^ 32)

def loadLatestHistory (run : StatementRun) (db : SqliteFaultSink) (limit : Nat) :
    Option (List FaultHistoryDbRecord) :=
  run.bindRows (limitOffset (bindInt limit) 0 db.clearedRows)

def loadHistoryRange (run : StatementRun) (db : SqliteFaultSink) (offset limit : Nat) :
    Option (List FaultHistoryDbRecord) :=
  if limit = 0 then some []
  else run.bindRows (limitOffset (bindInt limit) (bindInt offset) db.clearedRows)

theorem loadLatestHistory_eq_none {run : StatementRun} {db : SqliteFaultSink} {limit : Nat} :
    db.loadLatestHistory run limit = none ↔ run = .notPrepared := by
  cases run with
  | done => exact iff_of_false nofun nofun
  | notPrepared => exact iff_of_true rfl rfl
  | breaksOff k => exact iff_of_false nofun nofun

/-- The cleared rows are those of the table, newest first. -/
theorem clearedRows_perm (db : SqliteFaultSink) :
    db.clearedRows.Perm (db.rows.filter fun r => r.clearMs != 0) :=
  List.perm_insertionSort _ _

theorem countP_eq_length_clearedRows (db : SqliteFaultSink) :
    db.rows.countP (fun r => r.clearMs != 0) = db.clearedRows.length := by
  rw [List.countP_eq_length_filter, db.clearedRows_perm.length_eq]

theorem Numbered.nodup_clearedRows {db : SqliteFaultSink} (h : db.Numbered) :
    (db.clearedRows.map FaultHistoryDbRecord.id).Nodup := by
  have hids := db.clearedRows_perm.map FaultHistoryDbRecord.id
  rw [hids.nodup_iff]
  exact h.nodup.sublist (List.filter_sublist.map _)

end SqliteFaultSink

/-- The offset that the statement gets for a given one. -/
def sqlOffset (n : Nat) : Nat := (bindInt n).toNat

theorem sqlOffset_of_lt {n : Nat} (h : n < 2 ^ 31) : sqlOffset n = n := by
  have hmod : n % 2 ^ 32 = n := Nat.mod_eq_of_lt (by omega)
  rw [sqlOffset, bindInt, BitVec.toInt_eq_toNat_cond, BitVec.toNat_ofNat, hmod, if_pos (by omega)]
  rfl

theorem toNat_bindInt_of_nonneg {n : Nat} (hn : n < 2 ^ 32) (h : ¬ bindInt n < 0) :
    (bindInt n).toNat = n := by
  have hmod : n % 2 ^ 32 = n := Nat.mod_eq_of_lt hn
  rw [bindInt, BitVec.toInt_eq_toNat_cond, BitVec.toNat_ofNat, hmod] at h ⊢
  split at h
  · rename_i hlt
    rw [if_pos hlt]
    rfl
  · omega

end EnergyStorage
