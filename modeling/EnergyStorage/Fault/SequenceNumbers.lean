import Mathlib.Data.List.Range
import EnergyStorage.Fault.History

/-! # The numbers of the records

A new record gets the next 16-bit number.  A restore counts on from the numbers of the rows, so
that the numbers go on in the order in which the records were created, and come back after 65536
of them. -/

namespace EnergyStorage
namespace Fault

open Lib

/-- What a record and its row never change: code, time and number. -/
abbrev Origin := BitVec 16 × Nat × BitVec 16

def recordOrigin (r : FaultCenterHistRecord) : Origin := (r.code, r.firstOnMs, r.seqNo)

def rowOrigin (r : FaultHistoryDbRecord) : Origin := (r.code, r.firstOnMs, r.seqNo)

/-- The numbers of the first `n` records. -/
def numbers (n : Nat) : List (BitVec 16) := (List.range n).map fun i => BitVec.ofNat 16 (i + 1)

theorem numbers_succ (n : Nat) : numbers (n + 1) = numbers n ++ [BitVec.ofNat 16 (n + 1)] := by
  rw [numbers, List.range_succ, List.map_append]
  rfl

namespace FaultCenter

variable (cat : FaultCatalog)

/-! ### The number after a restore -/

/-- Numbers that follow each other. -/
def Consecutive (seqs : List (BitVec 16)) : Prop := seqs.IsChain fun a b => b = a + 1

theorem numbers_consecutive (n : Nat) : Consecutive (numbers n) := by
  rw [Consecutive, numbers, List.isChain_map, List.isChain_range]
  intro m _
  exact (BitVec.ofNat_add (m + 1) 1)

/-- The restored rows number on from the last of them. -/
theorem foldl_restoreRow_next (rows : List FaultHistoryDbRecord) {c : FaultCenter}
    (hc : c.nextHistSeq = 1) (h : Consecutive (rows.map FaultHistoryDbRecord.seqNo)) :
    (rows.foldl restoreRow c).nextHistSeq =
      ((rows.map FaultHistoryDbRecord.seqNo).getLast?.map (· + 1)).getD 1 := by
  induction rows using List.reverseRecOn with
  | nil => exact hc
  | append_singleton rows r ih =>
    rw [List.map_append, Consecutive, List.isChain_append] at h
    obtain ⟨hbefore, -, hlast⟩ := h
    have hnext : ∀ c : FaultCenter, (restoreRow c r).nextHistSeq =
        if c.nextHistSeq ≤ r.seqNo then r.seqNo + 1 else c.nextHistSeq := by
      intro c
      rw [restoreRow]
      split <;> rfl
    rw [List.foldl_append, List.foldl_cons, List.foldl_nil, hnext, ih hbefore, List.map_append,
      List.map_singleton, List.getLast?_concat, Option.map_some, Option.getD_some]
    cases hl : (rows.map FaultHistoryDbRecord.seqNo).getLast? with
    | some a =>
      -- the number expected is that of the row
      rw [Option.map_some, Option.getD_some, ← hlast a hl r.seqNo rfl, if_pos (BitVec.le_refl _)]
    | none =>
      rw [Option.map_none, Option.getD_none]
      split
      · rfl
      · -- only the number 0 is below the first number expected
        bv_omega

theorem next_restoreHistoryFromDb (c : FaultCenter) {rows : List FaultHistoryDbRecord}
    (h : Consecutive (rows.map FaultHistoryDbRecord.seqNo)) :
    (c.restoreHistoryFromDb rows).nextHistSeq =
      ((rows.map FaultHistoryDbRecord.seqNo).getLast?.map (· + 1)).getD 1 :=
  foldl_restoreRow_next rows rfl h

end FaultCenter

/-! ### The order of creation -/

/-- The records in the order in which they were created, as far back as the numbers go: the rows
carry their numbers, and the history is a part of them. -/
structure FaultStore.InOrder (s : FaultStore) (created : List Origin) : Prop where
  suffix : created <:+ s.db.rows.map rowOrigin
  whole : 0 < s.db.loadLimit → created = s.db.rows.map rowOrigin
  numbered : created.map (fun o => o.2.2) = numbers created.length
  held : (s.center.history.map recordOrigin).Sublist created
  next : s.center.nextHistSeq = BitVec.ofNat 16 (created.length + 1)

namespace FaultStore

variable {cat : FaultCatalog} {s : FaultStore} {created : List Origin}

theorem InOrder.of_same (h : s.InOrder created) {s' : FaultStore}
    (hrows : s'.db.rows.map rowOrigin = s.db.rows.map rowOrigin)
    (hlimit : s'.db.loadLimit = s.db.loadLimit)
    (hhistory : s'.center.history.map recordOrigin = s.center.history.map recordOrigin)
    (hnext : s'.center.nextHistSeq = s.center.nextHistSeq) : s'.InOrder created where
  suffix := by
    rw [hrows]
    exact h.suffix
  whole hpos := by
    rw [hrows]
    exact h.whole (hlimit ▸ hpos)
  numbered := h.numbered
  held := by
    rw [hhistory]
    exact h.held
  next := hnext.trans h.next

/-- A new record goes to the end, with the next number. -/
theorem InOrder.beginHistory {c : FaultCenter} {db : SqliteFaultSink}
    (h : InOrder ⟨c, db⟩ created) (code : BitVec 16) (ts : Nat) :
    InOrder ⟨(c.beginHistory cat db code ts).1, (c.beginHistory cat db code ts).2⟩
      (created ++ [(code, ts, c.nextHistSeq)]) := by
  have hrow : ∀ id, rowOrigin { FaultCenter.beginRow cat ⟨code, ts, 0, c.nextHistSeq, 1⟩ with
      id := id } = (code, ts, c.nextHistSeq) := by
    intro id
    unfold FaultCenter.beginRow
    cases cat code <;> rfl
  have hrows : (c.beginHistory cat db code ts).2.rows.map rowOrigin =
      db.rows.map rowOrigin ++ [(code, ts, c.nextHistSeq)] := by
    rw [FaultCenter.rows_beginHistory, List.map_append, List.map_singleton, hrow]
  have hnext : c.nextHistSeq = BitVec.ofNat 16 (created.length + 1) := h.next
  refine ⟨?_, fun hpos => ?_, ?_, ?_, ?_⟩
  · show _ <:+ (c.beginHistory cat db code ts).2.rows.map rowOrigin
    rw [hrows]
    exact (List.suffix_append_self_iff).mpr h.suffix
  · show _ = (c.beginHistory cat db code ts).2.rows.map rowOrigin
    rw [hrows, ← h.whole hpos]
  · rw [List.map_append, List.length_append, h.numbered, List.length_singleton, numbers_succ,
      List.map_singleton, hnext]
  · show ((c.beginHistory cat db code ts).1.history.map recordOrigin).Sublist _
    rw [FaultCenter.history_beginHistory]
    refine ((Journal.trim_sublist _ _).map recordOrigin).trans ?_
    rw [List.map_append]
    exact h.held.append_right _
  · show c.nextHistSeq + 1 = _
    rw [hnext, List.length_append, List.length_singleton]
    exact (BitVec.ofNat_add (created.length + 1) 1).symm

theorem rows_clearRow (c : FaultCenter) (db : SqliteFaultSink) (code : BitVec 16) (ts : Nat) :
    (c.clearRow db code ts).rows.map rowOrigin = db.rows.map rowOrigin ∧
      (c.clearRow db code ts).loadLimit = db.loadLimit := by
  have hby : (db.markHistoryCleared code ts).rows.map rowOrigin = db.rows.map rowOrigin := by
    have hsame : ∀ r, rowOrigin (SqliteFaultSink.cleared ts r) = rowOrigin r := fun _ => rfl
    exact Journal.map_amendLast hsame _
  have hbyId : ∀ id, (db.markHistoryClearedById id ts).rows.map rowOrigin =
        db.rows.map rowOrigin ∧ (db.markHistoryClearedById id ts).loadLimit = db.loadLimit := by
    intro id
    unfold SqliteFaultSink.markHistoryClearedById
    split
    · exact ⟨rfl, rfl⟩
    · refine ⟨?_, rfl⟩
      show (db.rows.map _).map rowOrigin = _
      rw [List.map_map]
      apply List.map_congr_left
      intro r _
      show rowOrigin (if r.id = id then SqliteFaultSink.cleared ts r else r) = rowOrigin r
      split <;> rfl
  unfold FaultCenter.clearRow
  split
  · split
    · exact hbyId _
    · exact ⟨hby, rfl⟩
  · exact ⟨hby, rfl⟩

theorem InOrder.setActive (h : s.InOrder created) (code : BitVec 16) (on : Bool) (ts : UnixMs) :
    ∃ created', (s.step cat (.setActive code on ts)).InOrder created' := by
  show ∃ created', InOrder ⟨(s.center.setActive cat s.db code on ts.ms).1,
    (s.center.setActive cat s.db code on ts.ms).2⟩ created'
  by_cases hsame : decide (code ∈ s.center.active) = on
  · rw [FaultCenter.setActive_of_eq cat hsame]
    exact ⟨created, h⟩
  obtain ⟨rfl, hnew⟩ | ⟨rfl, hwas⟩ := FaultCenter.setActive_of_ne hsame
  · rw [FaultCenter.setActive_begin cat hnew]
    split
    · have hactive : InOrder ⟨{ s.center with
          active := insert code s.center.active
          activeBeginMsByCode := s.center.activeBeginMsByCode.insert code ts.ms }, s.db⟩ created :=
        h.of_same rfl rfl rfl rfl
      exact ⟨_, hactive.beginHistory code ts.ms⟩
    · exact ⟨created, h.of_same rfl rfl rfl rfl⟩
  · rw [FaultCenter.setActive_end cat hwas]
    dsimp only
    split
    · obtain ⟨hrows, hlimit⟩ := rows_clearRow
        { s.center with active := s.center.active.erase code } s.db code ts.ms
      have hsame : ∀ r : FaultCenterHistRecord,
          recordOrigin { r with clearMs := ts.ms, state := 0 } = recordOrigin r := fun _ => rfl
      exact ⟨created, h.of_same hrows hlimit (Journal.map_amendLast hsame _) rfl⟩
    · exact ⟨created, h.of_same rfl rfl rfl rfl⟩

theorem getLast?_numbers (n : Nat) :
    (numbers n).getLast?.map (· + 1) = if n = 0 then none else some (BitVec.ofNat 16 (n + 1)) := by
  cases n with
  | zero => rfl
  | succ n =>
    rw [numbers_succ, List.getLast?_concat, Option.map_some, if_neg (Nat.succ_ne_zero n)]
    exact congrArg some (BitVec.ofNat_add (n + 1) 1).symm

/-- A restore goes on where the rows end; without any row loaded it starts over. -/
theorem InOrder.restore (h : s.InOrder created) (c : FaultCenter) :
    ∃ created', InOrder ⟨c.restoreHistoryFromDb s.db.loadRecentHistory, s.db⟩ created' := by
  have hheld : (c.restoreHistoryFromDb s.db.loadRecentHistory).history.map recordOrigin =
      (s.db.rows.map rowOrigin).drop (s.db.rows.length - s.db.loadLimit) := by
    rw [FaultCenter.history_restoreHistoryFromDb, List.map_map, ← List.map_drop]
    rfl
  have hseqs : s.db.loadRecentHistory.map FaultHistoryDbRecord.seqNo =
      ((s.db.rows.map rowOrigin).map fun o => o.2.2).drop
        (s.db.rows.length - s.db.loadLimit) := by
    rw [List.map_map, ← List.map_drop]
    rfl
  obtain hlimit | hpos := Nat.eq_zero_or_pos s.db.loadLimit
  · have hnone : s.db.loadRecentHistory.map FaultHistoryDbRecord.seqNo = [] := by
      rw [SqliteFaultSink.loadRecentHistory, hlimit, Nat.sub_zero, List.drop_length]
      rfl
    refine ⟨[], List.nil_suffix, fun hpos => absurd hlimit (Nat.ne_of_gt hpos), rfl, ?_, ?_⟩
    · show (List.map recordOrigin _).Sublist []
      rw [hheld, hlimit, Nat.sub_zero, ← List.length_map rowOrigin, List.drop_length]
    · show (c.restoreHistoryFromDb _).nextHistSeq = _
      rw [FaultCenter.next_restoreHistoryFromDb c (by rw [hnone]; exact List.isChain_nil), hnone]
      rfl
  · have hcreated := h.whole hpos
    have hlength : created.length = s.db.rows.length := by rw [hcreated, List.length_map]
    rw [← hcreated, h.numbered] at hseqs
    refine ⟨created, h.suffix, fun _ => hcreated, h.numbered, ?_, ?_⟩
    · show (List.map recordOrigin _).Sublist created
      rw [hheld, ← hcreated]
      exact List.drop_sublist _ _
    · show (c.restoreHistoryFromDb _).nextHistSeq = _
      have hchain := (FaultCenter.numbers_consecutive created.length).drop
        (s.db.rows.length - s.db.loadLimit)
      rw [FaultCenter.next_restoreHistoryFromDb c (by rw [hseqs]; exact hchain), hseqs,
        List.getLast?_drop, numbers, List.length_map, List.length_range, ← numbers]
      obtain hzero | hsome := Nat.eq_zero_or_pos created.length
      · rw [if_pos (by omega), hzero]
        rfl
      · rw [if_neg (by omega), getLast?_numbers, if_neg (Nat.ne_of_gt hsome)]
        rfl

theorem loadLimit_setActive (c : FaultCenter) (db : SqliteFaultSink) (code : BitVec 16) (on : Bool)
    (ts : Nat) : (c.setActive cat db code on ts).2.loadLimit = db.loadLimit := by
  by_cases hsame : decide (code ∈ c.active) = on
  · rw [FaultCenter.setActive_of_eq cat hsame]
  obtain ⟨rfl, hnew⟩ | ⟨rfl, hwas⟩ := FaultCenter.setActive_of_ne hsame
  · rw [FaultCenter.setActive_begin cat hnew]
    split <;> rfl
  · rw [FaultCenter.setActive_end cat hwas]
    dsimp only
    split
    · exact (rows_clearRow _ db code ts).2
    · rfl

theorem loadLimit_run (loadLimit : Nat) (calls : List FaultCall) :
    ((faultRuns cat loadLimit).run calls).db.loadLimit = loadLimit := by
  refine Machine.Invariant.run (M := faultRuns cat loadLimit)
    (I := fun s => s.db.loadLimit = loadLimit) ⟨rfl, ?_⟩ calls
  intro s call h
  cases call with
  | setActive code on ts => exact (loadLimit_setActive s.center s.db code on ts.ms).trans h
  | restoreHistoryFromDb => exact h
  | restart => exact h

theorem inOrder_run (loadLimit : Nat) (calls : List FaultCall) :
    ∃ created, ((faultRuns cat loadLimit).run calls).InOrder created := by
  refine Machine.Invariant.run (M := faultRuns cat loadLimit)
    (I := fun s => ∃ created, s.InOrder created) ⟨?_, ?_⟩ calls
  · have hempty : InOrder ⟨{}, { loadLimit }⟩ [] :=
      ⟨List.suffix_refl _, fun _ => rfl, rfl, List.Sublist.refl _, rfl⟩
    exact hempty.restore _
  · rintro s call ⟨created, h⟩
    cases call with
    | setActive code on ts => exact h.setActive code on ts
    | restoreHistoryFromDb => exact h.restore s.center
    | restart => exact h.restore _

/-! ### When a number comes back -/

theorem drop_numbers (n k : Nat) :
    (numbers n).drop k = (List.range' k (n - k)).map fun i => BitVec.ofNat 16 (i + 1) := by
  rw [numbers, ← List.map_drop, List.range_eq_range', List.drop_range']
  simp

/-- The numbers of the latest 65535 records differ from each other and from the next one. -/
theorem nodup_recent (n : Nat) :
    ((numbers n).drop (n - 65535)).Nodup ∧
      BitVec.ofNat 16 (n + 1) ∉ (numbers n).drop (n - 65535) := by
  rw [drop_numbers]
  have hnat : ∀ i j, BitVec.ofNat 16 (i + 1) = BitVec.ofNat 16 (j + 1) →
      (i + 1) % 65536 = (j + 1) % 65536 := fun i j h => congrArg BitVec.toNat h
  constructor
  · refine List.Nodup.map_on ?_ (List.nodup_range' ..)
    intro i hi j hj hij
    have hmod := hnat i j hij
    rw [List.mem_range'_1] at hi hj
    omega
  · intro hmem
    obtain ⟨i, hi, hin⟩ := List.mem_map.mp hmem
    have hmod := hnat i n hin
    rw [List.mem_range'_1] at hi
    omega

variable (cat) in
/-- The numbers of the records are those of their creation, counted with 16 bits, over restores
and restarts.  As long as every record that is held is among the latest 65535 that were created,
their numbers differ, and the next record gets another one. -/
theorem numbers_in_order (loadLimit : Nat) (calls : List FaultCall) :
    let s := (faultRuns cat loadLimit).run calls
    ∃ created, s.InOrder created ∧ (0 < loadLimit → created = s.db.rows.map rowOrigin) ∧
      ((s.center.history.map recordOrigin).Sublist (created.drop (created.length - 65535)) →
        (s.center.history.map FaultCenterHistRecord.seqNo).Nodup ∧
          ∀ r ∈ s.center.history, r.seqNo ≠ s.center.nextHistSeq) := by
  intro s
  obtain ⟨created, h⟩ : ∃ created, s.InOrder created := inOrder_run loadLimit calls
  refine ⟨created, h, fun hpos => h.whole (by rw [loadLimit_run]; exact hpos), fun hrecent => ?_⟩
  have hseqs : (s.center.history.map FaultCenterHistRecord.seqNo).Sublist
      ((numbers created.length).drop (created.length - 65535)) := by
    have hmapped := hrecent.map fun o : Origin => o.2.2
    rw [List.map_map, List.map_drop, h.numbered] at hmapped
    exact hmapped
  obtain ⟨hnodup, hnext⟩ := nodup_recent created.length
  refine ⟨hseqs.nodup hnodup, fun r hr heq => hnext ?_⟩
  rw [← h.next, ← heq]
  exact hseqs.mem (List.mem_map_of_mem hr)

/-! ### An old open record -/

/-- One fault stays, another comes and ends `n` times. -/
def longCalls (n : Nat) : List FaultCall :=
  .setActive 0x1001 true ⟨10, Nat.succ_pos 9⟩ ::
    (List.replicate n [.setActive 0x1002 true ⟨20, Nat.succ_pos 19⟩,
      .setActive 0x1002 false ⟨30, Nat.succ_pos 29⟩]).flatten

/-- The codes of the rows. -/
def codes (s : FaultStore) : List (BitVec 16) := s.db.rows.map FaultHistoryDbRecord.code

theorem codes_begin {code : BitVec 16} (h : code ∉ s.center.active) (ts : UnixMs) :
    (s.step recordAll (.setActive code true ts)).codes = s.codes ++ [code] := by
  show (s.center.setActive recordAll s.db code true ts.ms).2.rows.map _ = _
  have hrecorded : FaultCenter.shouldRecordToDb recordAll code = true := rfl
  rw [FaultCenter.setActive_begin recordAll h, if_pos hrecorded, FaultCenter.rows_beginHistory,
    List.map_append, List.map_singleton, FaultCenter.code_beginRow]
  rfl

theorem codes_end {code : BitVec 16} (h : code ∈ s.center.active) (ts : UnixMs) :
    (s.step recordAll (.setActive code false ts)).codes = s.codes := by
  have horigins := (rows_clearRow { s.center with active := s.center.active.erase code } s.db code
    ts.ms).1
  have hcodes := congrArg (List.map fun o : Origin => o.1) horigins
  rw [List.map_map, List.map_map] at hcodes
  show (s.center.setActive recordAll s.db code false ts.ms).2.rows.map _ = _
  rw [FaultCenter.setActive_end recordAll h]
  exact hcodes

theorem active_step (code : BitVec 16) (on : Bool) (ts : UnixMs) :
    (s.step cat (.setActive code on ts)).center.active =
      if on then insert code s.center.active else s.center.active.erase code :=
  FaultCenter.active_setActive cat s.center s.db code on ts.ms

theorem Kept.setActive (h : s.Kept cat) (code : BitVec 16) (on : Bool) (ts : UnixMs)
    (hcard : (s.step cat (.setActive code on ts)).center.active.card ≤ kMaxHistoryRecords) :
    (s.step cat (.setActive code on ts)).Kept cat :=
  h.step ((Finset.card_filter_le _ _).trans hcard) trivial

/-- The first fault is the only one active, its row is the first, and `n` of the other fault
follow. -/
structure FirstStays (s : FaultStore) (n : Nat) : Prop where
  kept : s.Kept recordAll
  active : s.center.active = {0x1001}
  codes : s.codes = 0x1001 :: List.replicate n 0x1002

theorem FirstStays.cycle {n : Nat} (h : s.FirstStays n) (ts ts' : UnixMs) :
    ((s.step recordAll (.setActive 0x1002 true ts)).step recordAll
      (.setActive 0x1002 false ts')).FirstStays (n + 1) := by
  have hon : (s.step recordAll (.setActive 0x1002 true ts)).center.active = {0x1002, 0x1001} := by
    rw [active_step, h.active]
    rfl
  have hoff : ((s.step recordAll (.setActive 0x1002 true ts)).step recordAll
      (.setActive 0x1002 false ts')).center.active = {0x1001} := by
    rw [active_step, hon]
    decide
  refine ⟨(h.kept.setActive _ _ _ ?_).setActive _ _ _ ?_, hoff, ?_⟩
  · rw [hon]
    decide
  · rw [hoff]
    decide
  · rw [codes_end (by rw [hon]; decide), codes_begin (by rw [h.active]; decide), h.codes,
      List.replicate_succ', List.cons_append]

theorem longCalls_run (n : Nat) : ((faultRuns recordAll 1000).run (longCalls n)).FirstStays n := by
  induction n with
  | zero =>
    have hkept : (boot { loadLimit := 1000 }).Kept recordAll :=
      kept_boot ⟨List.nodup_nil, fun _ hid => (by cases hid), Nat.one_pos⟩ Journal.tracks_nil
    have hactive : ((boot { loadLimit := 1000 }).step recordAll
        (.setActive 0x1001 true ⟨10, by decide⟩)).center.active = {0x1001} := by
      rw [active_step]
      decide
    show ((boot { loadLimit := 1000 }).step recordAll
      (.setActive 0x1001 true ⟨10, by decide⟩)).FirstStays 0
    refine ⟨hkept.setActive _ _ _ ?_, hactive, codes_begin (by decide) _⟩
    rw [hactive]
    decide
  | succ n ih =>
    have hlong : longCalls (n + 1) = longCalls n ++ [.setActive 0x1002 true ⟨20, by decide⟩] ++
        [.setActive 0x1002 false ⟨30, by decide⟩] := by
      rw [longCalls, List.replicate_succ', List.flatten_append, List.flatten_singleton,
        List.append_assoc]
      rfl
    rw [hlong, Machine.run_snoc, Machine.run_snoc]
    exact ih.cycle _ _

theorem FirstStays.seqNo {n : Nat} (h : s.FirstStays n) (horder : s.InOrder created)
    (hpos : 0 < s.db.loadLimit) :
    s.center.nextHistSeq = BitVec.ofNat 16 (n + 2) ∧
      ∃ r ∈ s.center.history, r.clearMs = 0 ∧ r.code = 0x1001 ∧ r.seqNo = 1 := by
  have hcodes : created.map (fun o => o.1) = 0x1001 :: List.replicate n 0x1002 := by
    rw [horder.whole hpos, List.map_map, ← h.codes]
    rfl
  have hactive : 0x1001 ∈ s.center.recordedActive recordAll := by
    rw [FaultCenter.mem_recordedActive, h.active]
    exact ⟨Finset.mem_singleton_self _, rfl⟩
  obtain ⟨r, hr, hopens⟩ := h.kept.history.exists_open hactive
  obtain ⟨hopen, hcode⟩ := Journal.opensAt_iff.mp hopens
  have hcode' : r.code = 0x1001 := hcode
  have hmem := horder.held.mem (List.mem_map_of_mem hr)
  have hnumbered := horder.numbered
  cases created with
  | nil => cases hcodes
  | cons o rest =>
    obtain ⟨hfirst, hrest⟩ := List.cons.inj hcodes
    have hlength : rest.length = n := by
      rw [← List.length_map fun o : Origin => o.1, hrest, List.length_replicate]
    refine ⟨by rw [horder.next, List.length_cons, hlength], r, hr, beq_iff_eq.mp hopen, hcode', ?_⟩
    rw [List.length_cons, numbers, List.range_succ_eq_map] at hnumbered
    obtain ⟨hone, -⟩ := List.cons.inj hnumbered
    obtain rfl | hlater := List.mem_cons.mp hmem
    · exact hone
    · have hother : r.code ∈ List.replicate n 0x1002 := by
        rw [← hrest]
        exact List.mem_map_of_mem hlater
      rw [hcode'] at hother
      exact absurd (List.eq_of_mem_replicate hother) (by decide)

/-- A record begins with a number that no open record has. -/
def BeginsFresh (s : FaultStore) (code : BitVec 16) : Prop :=
  code ∉ s.center.active → FaultCenter.shouldRecordToDb recordAll code = true →
    ∀ r ∈ s.center.history, r.clearMs = 0 → r.seqNo ≠ s.center.nextHistSeq

/-- After 65535 other faults the first one is still open, and the next record gets its number. -/
theorem open_number_again :
    ¬ ((faultRuns recordAll 1000).run (longCalls 65535)).BeginsFresh 0x1002 := by
  intro hfresh
  have hstays := longCalls_run 65535
  obtain ⟨created, horder⟩ :
      ∃ created, ((faultRuns recordAll 1000).run (longCalls 65535)).InOrder created :=
    inOrder_run 1000 (longCalls 65535)
  have hloads : 0 < ((faultRuns recordAll 1000).run (longCalls 65535)).db.loadLimit := by
    rw [loadLimit_run]
    decide
  obtain ⟨hnext, r, hr, hopen, -, hone⟩ := hstays.seqNo horder hloads
  refine hfresh ?_ rfl r hr hopen ?_
  · rw [hstays.active]
    decide
  · rw [hone, hnext]
    decide

end FaultStore
end Fault
end EnergyStorage
