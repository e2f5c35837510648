import EnergyStorage.App.Rs485Frames
import EnergyStorage.Modbus.Server

/-! # Polling the devices on the RS485 master ports

Each poll of a port sends the query of its protocol.  An air conditioner is asked for one segment
of its registers after the other, and the answer does not say which: the segment is told from the
number of registers. -/

namespace EnergyStorage

/-! ### The queries of an air conditioner -/

namespace AirConditionerProto

structure Segment where
  start : Word
  count : Word

def segmentOf : PollStage → Segment
  | .version => ⟨0x0000, 1⟩
  | .runState => ⟨0x0100, 6⟩
  | .sensors => ⟨0x0500, 9⟩
  | .alarms => ⟨0x0600, 0x21⟩
  | .params => ⟨0x0700, 0x0B⟩

def kSeq : List PollStage :=
  [.runState, .sensors, .alarms, .runState, .sensors, .alarms, .params,
    .runState, .sensors, .alarms, .runState, .sensors, .alarms, .version]

/-- Where the polling is. -/
structure Poll where
  nextStage : PollStage := .runState
  pollSeqIndex : Nat := 0

namespace Poll

def advanceStage (p : Poll) : Poll :=
  ⟨kSeq.getD (p.pollSeqIndex % kSeq.length) .runState, (p.pollSeqIndex + 1) % kSeq.length⟩

end Poll

def buildReadCmd (addr : Byte) (p : Poll) : List Byte × Poll :=
  let seg := segmentOf p.nextStage
  (CrcOrder.loHi.close (readHolding addr seg.start seg.count), p.advanceStage)

/-- The stage of the `k`-th query. -/
def stageAt : Nat → PollStage
  | 0 => .runState
  | k + 1 => kSeq.getD (k % kSeq.length) .runState

/-- The polling after `k` queries. -/
def pollAt (k : Nat) : Poll := ⟨stageAt k, k % kSeq.length⟩

theorem advanceStage_pollAt (k : Nat) : (pollAt k).advanceStage = pollAt (k + 1) := by
  show (⟨kSeq.getD (k % kSeq.length % kSeq.length) .runState,
    (k % kSeq.length + 1) % kSeq.length⟩ : Poll) = pollAt (k + 1)
  rw [Nat.mod_mod, Nat.mod_add_mod]
  rfl

theorem inferStage_segmentOf (s : PollStage) :
    inferStageByRegCount (segmentOf s).count.toNat = some s := by
  cases s <;> rfl

end AirConditionerProto

namespace App

open Lib (Dict)
open AirConditionerProto (Segment Poll PollStage segmentOf stageAt pollAt)

/-! ### The queries of a port -/

/-- The router, with the polling of the air conditioners by port. -/
structure RouterPolls where
  router : ProtocolRouter
  polls : Dict Int Poll := Dict.empty

namespace RouterPolls

def pollOf (s : RouterPolls) (index : Int) : Poll := (s.polls.get index).getD {}

def buildQuery (s : RouterPolls) (index : Int) : List Byte × RouterPolls :=
  match s.router.proto.lookup index with
  | none => ([], s)
  | some (.gas addr) | some (.smoke addr) => (CrcOrder.hiLo.close (readHolding addr 0x0000 5), s)
  | some (.airConditioner addr) =>
    let r := AirConditionerProto.buildReadCmd addr (s.pollOf index)
    (r.1, { s with polls := s.polls.insert index r.2 })
  | some (.hmi _) => ([], s)

/-- What is sent; an empty query is not. -/
def sendPoll (s : RouterPolls) (index : Int) : Option (List Byte) × RouterPolls :=
  let r := s.buildQuery index
  (if r.1.isEmpty then none else some r.1, r.2)

/-- The queries sent while the ports are polled one after the other, each with its port. -/
def sent : RouterPolls → List Int → List (Int × List Byte)
  | _, [] => []
  | s, index :: indexes =>
    match s.sendPoll index with
    | (none, s') => sent s' indexes
    | (some req, s') => (index, req) :: sent s' indexes

end RouterPolls

/-! ### What is asked for -/

namespace Rs485Proto

/-- A device that is polled. -/
def IsPolled (p : Rs485Proto) : Prop := ∀ addr, p ≠ .hmi addr

def order : Rs485Proto → CrcOrder
  | gas _ | smoke _ => .hiLo
  | airConditioner _ | hmi _ => .loHi

/-- The registers that the `k`-th query asks for. -/
def asked : Rs485Proto → Nat → Segment
  | airConditioner _, k => segmentOf (stageAt k)
  | gas _, _ | smoke _, _ | hmi _, _ => ⟨0x0000, 5⟩

/-- The device with its registers as they are at some time. -/
def server (p : Rs485Proto) (regs : Word → Word) : ModbusServer := ⟨p.slaveAddr, p.order, regs⟩

/-- The registers that answer the `k`-th query. -/
def answered (p : Rs485Proto) (k : Nat) (regs : Word → Word) : List Word :=
  (p.server regs).values (p.asked k).start (p.asked k).count

def query (p : Rs485Proto) (k : Nat) : List Byte :=
  p.order.close (readHolding p.slaveAddr (p.asked k).start (p.asked k).count)

/-- What the device answers to its queries, with its registers as they are at each. -/
def answers (p : Rs485Proto) (regs : Nat → Word → Word) (queries : List (List Byte)) :
    List (List Byte) :=
  queries.mapIdx fun k q => (p.server (regs k)).answer q

/-- The message for registers. -/
def reported (p : Rs485Proto) (idx : Int) (values : List Word) : ParserMessage :=
  match p.decode values with
  | some d => ⟨.deviceData, .rs485, idx, d⟩
  | none => ⟨.parseError, .rs485, idx, {}⟩

theorem asked_count (p : Rs485Proto) (k : Nat) :
    1 ≤ (p.asked k).count.toNat ∧ (p.asked k).count.toNat ≤ 62 := by
  cases p with
  | airConditioner addr =>
    show 1 ≤ (segmentOf (stageAt k)).count.toNat ∧ (segmentOf (stageAt k)).count.toNat ≤ 62
    cases stageAt k <;> decide
  | gas addr => exact (by decide : 1 ≤ (5#16).toNat ∧ (5#16).toNat ≤ 62)
  | smoke addr => exact (by decide : 1 ≤ (5#16).toNat ∧ (5#16).toNat ≤ 62)
  | hmi addr => exact (by decide : 1 ≤ (5#16).toNat ∧ (5#16).toNat ≤ 62)

theorem length_answered (p : Rs485Proto) (k : Nat) (regs : Word → Word) :
    (p.answered k regs).length = (p.asked k).count.toNat :=
  (p.server regs).length_values _ _

/-- Its query is answered with the registers asked for. -/
theorem answer_query (p : Rs485Proto) (k : Nat) (regs : Word → Word) :
    (p.server regs).answer (p.query k) =
      p.order.close (registerAnswer p.slaveAddr (p.answered k regs)) := by
  have hcount := p.asked_count k
  exact (p.server regs).answer_readHolding _ hcount.1 (by omega)

end Rs485Proto

/-! ### A poll -/

namespace RouterPolls

variable {s : RouterPolls} {idx : Int} {p : Rs485Proto}

/-- The port of an air conditioner has sent `k` queries. -/
def At (s : RouterPolls) (idx : Int) (p : Rs485Proto) (k : Nat) : Prop :=
  s.router.proto.lookup idx = some p ∧ ∀ addr, p = .airConditioner addr → s.pollOf idx = pollAt k

theorem At.buildQuery {k : Nat} (h : s.At idx p k) (hp : p.IsPolled) :
    (s.buildQuery idx).1 = p.query k ∧ (s.buildQuery idx).2.At idx p (k + 1) := by
  obtain ⟨hlookup, hpoll⟩ := h
  rw [RouterPolls.buildQuery, hlookup]
  cases p with
  | gas addr => exact ⟨rfl, hlookup, fun addr' h => nomatch h⟩
  | smoke addr => exact ⟨rfl, hlookup, fun addr' h => nomatch h⟩
  | hmi addr => exact absurd rfl (hp addr)
  | airConditioner addr =>
    have hat := hpoll addr rfl
    refine ⟨?_, hlookup, ?_⟩
    · show (AirConditionerProto.buildReadCmd addr (s.pollOf idx)).1 = _
      rw [hat]
      rfl
    · intro addr' _
      show ((s.polls.insert idx (s.pollOf idx).advanceStage).get idx).getD {} = _
      rw [Dict.get_insert, if_pos rfl, hat]
      exact AirConditionerProto.advanceStage_pollAt k

theorem At.other {k : Nat} (h : s.At idx p k) {index : Int} (hne : index ≠ idx) :
    (s.buildQuery index).2.At idx p k := by
  obtain ⟨hlookup, hpoll⟩ := h
  rw [RouterPolls.buildQuery]
  split
  · exact ⟨hlookup, hpoll⟩
  · exact ⟨hlookup, hpoll⟩
  · exact ⟨hlookup, hpoll⟩
  · refine ⟨hlookup, ?_⟩
    intro addr hair
    rw [← hpoll addr hair]
    show ((s.polls.insert index _).get idx).getD {} = _
    rw [Dict.get_insert, if_neg (Ne.symm hne)]
    rfl
  · exact ⟨hlookup, hpoll⟩

theorem query_ne_nil (p : Rs485Proto) (k : Nat) : (p.query k).isEmpty = false := by
  have hlen := p.order.length_close
    (readHolding p.slaveAddr (p.asked k).start (p.asked k).count)
  cases hq : p.query k with
  | nil =>
    rw [Rs485Proto.query] at hq
    rw [hq] at hlen
    exact absurd hlen (by simp)
  | cons b bs => rfl

/-- Whatever other ports are polled, the queries on a port are those of its device in turn. -/
theorem At.sent {k : Nat} (h : s.At idx p k) (hp : p.IsPolled) (indexes : List Int) :
    onPort idx (s.sent indexes) =
      (List.range (indexes.count idx)).map fun j => p.query (k + j) := by
  induction indexes generalizing s k with
  | nil => rfl
  | cons index indexes ih =>
    by_cases hidx : index = idx
    · subst hidx
      obtain ⟨hquery, hnext⟩ := h.buildQuery hp
      have hsend : s.sendPoll index = (some (p.query k), (s.buildQuery index).2) := by
        rw [sendPoll]
        show (if (s.buildQuery index).1.isEmpty then none else some (s.buildQuery index).1, _) = _
        rw [hquery, query_ne_nil]
        rfl
      rw [RouterPolls.sent, hsend]
      show onPort index ((index, p.query k) :: (s.buildQuery index).2.sent indexes) = _
      rw [onPort_cons_self, ih hnext, List.count_cons_self, List.range_succ_eq_map, List.map_cons,
        List.map_map]
      refine List.cons_eq_cons.mpr ⟨rfl, ?_⟩
      apply List.map_congr_left
      intro j _
      show p.query (k + 1 + j) = p.query (k + (j + 1))
      rw [Nat.add_assoc, Nat.add_comm 1 j]
    · have hnext := ih (h.other hidx)
      rw [List.count_cons_of_ne hidx, ← hnext, RouterPolls.sent, sendPoll]
      split
      · next heq =>
        obtain ⟨-, rfl⟩ := Prod.ext_iff.mp heq
        rfl
      · next req s' heq =>
        obtain ⟨-, rfl⟩ := Prod.ext_iff.mp heq
        exact onPort_cons_of_ne hidx req _

end RouterPolls

end App
end EnergyStorage
