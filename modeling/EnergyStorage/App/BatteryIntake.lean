import EnergyStorage.App.CanIntake
import EnergyStorage.Bms.LastFrames

/-! # From the interface of the batteries to their records

The frames go through a queue that keeps the latest of each identifier, and the worker takes what
is there in any order.  Frames are passed over on the way, but never the last one of a message: a
record is that of the last frame, as if each frame had been read when it came. -/

namespace EnergyStorage
namespace App

open Lib
open BmsWorker (fillCanFrame fillCanFrame_queued isStopFrame limit machine parsed)
open Bms (BmsGroup BmsTxConfig BusEvent Carries RecordOf entryOf groupData groupMessage
  groupData_isSome_iff recordOf_run)
open Bms.FrameRouter (extractInstanceIndex makeInstanceName)

/-- The data of the frame, if it came over the interface of the batteries as the message of group
`g` of battery `idx`. -/
def receivedData (bms : Option Int) (idx : Nat) (g : BmsGroup) : CanInput → Option (BitVec 64)
  | .can rx _ => if bms = some rx.canIndex then groupData idx g rx.frame else none
  | .other _ => none

/-- The queue got what the dispatcher queued, the worker has worked everything off, and the loop
has got what the worker parsed, in this order and with ticks in between. -/
structure Delivered (links : List CanRxLink) (bms : Option Int) (cfg : BmsWorker.Config)
    (xs : List CanInput) (es : List (QueueStep BmsFrame)) (bs : List BusEvent) : Prop where
  queued : LatestQueue.pushed es = xs.filterMap (queuedOf (dispatcher links bms))
  idle : LatestQueue.Idle ((machine cfg).run es)
  posted : bs.filterMap BusEvent.frame? = parsed cfg [] es

/-- What the worker's frame tells of the group. -/
def queuedData (idx : Nat) (g : BmsGroup) (f : BmsFrame) : Option (BitVec 64) :=
  groupData idx g (fillCanFrame f)

section Frame

variable {idx : Nat} {g : BmsGroup} {canIndex : Int} {nowMs : Nat} {fr : CanFrame} {f : BmsFrame}

theorem queued_of_carries (canIndex : Int) (nowMs : Nat) (h : Carries fr (groupMessage g)) :
    ∃ f, CanDispatcher.queued canIndex nowMs fr = some f := by
  obtain ⟨hext, hdlc, -⟩ := h
  have hflag : ¬ fr.canId &&& canEffFlag = 0#32 := by
    rw [CanFrame.isExtended, bne_iff_ne] at hext
    exact hext
  rw [CanDispatcher.queued, if_neg hflag, if_neg (by omega)]
  exact ⟨_, rfl⟩

/-- The queue changes nothing about a frame that a group could be told from. -/
theorem queuedData_eq (h : CanDispatcher.queued canIndex nowMs fr = some f) :
    queuedData idx g f = groupData idx g fr ∧ f.id29 = fr.id29 := by
  obtain ⟨hid, hext, hdlc, hdata⟩ := fillCanFrame_queued h
  rw [CanDispatcher.queued] at h
  split_ifs at h with hflag hshort
  cases h
  have hcarries : Carries (fillCanFrame ⟨canIndex, fr.id29, fr.canDlc, fr.data, nowMs⟩)
      (groupMessage g) ↔ Carries fr (groupMessage g) := by
    have hfr : fr.isExtended = true := bne_iff_ne.mpr hflag
    rw [Carries, Carries, hext, hdlc, hid, hfr]
  refine ⟨?_, rfl⟩
  rw [queuedData, groupData, groupData, hid, hdata]
  simp only [hcarries]

/-- Of the queued frames the identifier decides. -/
theorem queuedData_isSome_iff (h : CanDispatcher.queued canIndex nowMs fr = some f) :
    (queuedData idx g f).isSome ↔
      Bms.TableRuntime.findMessage f.id29 = some (groupMessage g) ∧
        extractInstanceIndex f.id29 = idx := by
  obtain ⟨hdata, hid⟩ := queuedData_eq h
  rw [CanDispatcher.queued] at h
  split_ifs at h with hflag hshort
  have hext : fr.isExtended = true := bne_iff_ne.mpr hflag
  have hdlc : 8 ≤ fr.canDlc := by omega
  rw [hdata, groupData_isSome_iff, hid]
  exact and_congr_left' ⟨fun h => h.2.2, fun h => ⟨hext, hdlc, h⟩⟩

/-- What the worker passes over for the frame of `stop` is of no group. -/
theorem not_isStopFrame (h : (queuedData idx g f).isSome) : isStopFrame f = false := by
  have hcarries := (groupData_isSome_iff.mp h).1
  have hnone : Bms.TableRuntime.findMessage 0#32 = none := by decide +kernel
  refine decide_eq_false ?_
  rintro ⟨hid, -⟩
  have hzero : (fillCanFrame f).id29 = 0#32 := by
    rw [fillCanFrame, hid]
    show ((0#32 &&& canEffMask) ||| canEffFlag) &&& canEffMask = 0#32
    decide
  have hfound := hcarries.2.2
  rw [hzero, hnone] at hfound
  cases hfound

end Frame

section Path

variable {links : List CanRxLink} {bms : Option Int} {cfg : BmsWorker.Config}
  {xs : List CanInput} {es : List (QueueStep BmsFrame)} {bs : List BusEvent} {idx : Nat}
  {g : BmsGroup}

theorem filterMap_queued (links : List CanRxLink) (xs : List CanInput) :
    (xs.filterMap (queuedOf (dispatcher links bms))).filterMap (queuedData idx g) =
      xs.filterMap (receivedData bms idx g) := by
  rw [List.filterMap_filterMap]
  apply List.filterMap_congr
  intro x _
  rw [queuedOf_eq]
  cases x with
  | other e => rfl
  | can rx nowMs =>
    rw [bmsFrameOf, receivedData]
    split
    · cases hq : CanDispatcher.queued rx.canIndex nowMs rx.frame with
      | some f => exact (queuedData_eq hq).1
      | none =>
        symm
        refine if_neg fun h => ?_
        obtain ⟨f, hf⟩ := queued_of_carries rx.canIndex nowMs h.1
        rw [hq] at hf
        cases hf
    · rfl

/-- A queued frame is one that came over the interface. -/
theorem exists_of_queued {f : BmsFrame}
    (hf : f ∈ xs.filterMap (queuedOf (dispatcher links bms))) :
    ∃ rx nowMs, CanInput.can rx nowMs ∈ xs ∧ bms = some rx.canIndex ∧
      CanDispatcher.queued rx.canIndex nowMs rx.frame = some f := by
  obtain ⟨x, hx, hxf⟩ := List.mem_filterMap.mp hf
  rw [queuedOf_eq] at hxf
  cases x with
  | other e => cases hxf
  | can rx nowMs =>
    rw [bmsFrameOf] at hxf
    split_ifs at hxf with hbms
    exact ⟨rx, nowMs, hx, hbms, hxf⟩

/-- Whatever frames the queue has passed over, whatever order the worker took the others in, and
however its messages and the ticks followed each other: once everything is worked off, the record
of each group is that of the last frame that came for it, if the group comes under one
identifier. -/
theorem battery_shows_last_frame (hcfg : cfg.maxFramesPerRound = 0)
    (h : Delivered links bms cfg xs es bs) (hidx : idx ≤ 4) (hg : g ≠ .fire2b)
    (hone : ∀ rx t rx' t', CanInput.can rx t ∈ xs → CanInput.can rx' t' ∈ xs →
      (receivedData bms idx g (.can rx t)).isSome →
      (receivedData bms idx g (.can rx' t')).isSome → rx.frame.id29 = rx'.frame.id29)
    (tx : BmsTxConfig) :
    RecordOf g ((xs.filterMap (receivedData bms idx g)).getLast?)
      (entryOf ((Bms.bmsLoop tx).run (bs.flatMap Bms.onBus)).cache (makeInstanceName idx)) := by
  have hcut : ∀ fs, limit cfg fs = fs := fun fs => BmsWorker.limit_eq_self (Or.inl hcfg)
  have hkey : ∀ f ∈ LatestQueue.pushed es, ∀ f' ∈ LatestQueue.pushed es,
      (queuedData idx g f).isSome → ((queuedData idx g f').isSome ↔ f'.key = f.key) := by
    intro f hf f' hf' hsome
    rw [h.queued] at hf hf'
    obtain ⟨rx, t, hrx, hbms, hq⟩ := exists_of_queued hf
    obtain ⟨rx', t', hrx', hbms', hq'⟩ := exists_of_queued hf'
    obtain ⟨hdata, hid⟩ := queuedData_eq hq
    obtain ⟨hdata', hid'⟩ := queuedData_eq hq'
    constructor
    · intro hsome'
      have hsame := hone rx t rx' t' hrx hrx'
      rw [receivedData, if_pos hbms, receivedData, if_pos hbms', ← hdata, ← hdata'] at hsame
      rw [BmsFrame.key, BmsFrame.key, hid, hid', hsame hsome hsome']
    · intro hkey
      have hsame : f'.id29 = f.id29 := by
        apply BitVec.eq_of_toNat_eq
        have hnat := congrArg BitVec.toNat hkey
        simp only [BmsFrame.key, BitVec.toNat_setWidth] at hnat
        omega
      rw [queuedData_isSome_iff hq', hsame]
      exact (queuedData_isSome_iff hq).mp hsome
  have hlast := LatestQueue.last_handed hcut h.idle hkey fun f _ hsome => not_isStopFrame hsome
  have hrecord := recordOf_run hidx hg tx bs
  rw [h.posted, parsed, List.filterMap_map] at hrecord
  rw [← filterMap_queued links, ← h.queued, ← hlast]
  exact hrecord

end Path

/-- Two temperatures of the first battery, and its second status. -/
def twiceInput : List CanInput :=
  [.can ⟨1, Bms.st4Frame 60⟩ 5, .can ⟨1, Bms.st4Frame 61⟩ 6,
    .can ⟨1, Bms.extendedFrame 0x1884E105#32 0⟩ 7]

def twiceQueued : List BmsFrame := twiceInput.filterMap (queuedOf (dispatcher [] (some 1)))

/-- The worker comes after all of them. -/
def twiceSteps : List (QueueStep BmsFrame) :=
  twiceQueued.map .push ++ [.popAll default, .next, .next]

def twiceBus : List BusEvent :=
  (parsed {} [] twiceSteps).flatMap fun fr => [.frame fr 8, .tick 9 fun _ => none]

theorem battery_shows_last_frame_twice :
    (parsed {} [] twiceSteps).length = 2 ∧ RecordOf .st4 (some 61#64)
      (entryOf ((Bms.bmsLoop Bms.defaultTx).run (twiceBus.flatMap Bms.onBus)).cache
        (makeInstanceName 1)) := by
  have hdelivered : Delivered [] (some 1) {} twiceInput twiceSteps twiceBus :=
    ⟨rfl, ⟨rfl, rfl⟩, rfl⟩
  have hid : ∀ x ∈ twiceInput, ∀ rx t, x = .can rx t →
      (receivedData (some 1) 1 .st4 x).isSome → rx.frame.id29 = 0x1886E107#32 := by
    intro x hx rx t hrx hsome
    simp only [twiceInput, List.mem_cons, List.not_mem_nil, or_false] at hx
    rcases hx with rfl | rfl | rfl
    · cases hrx
      rfl
    · cases hrx
      rfl
    · have hother : ¬ (receivedData (some 1) 1 .st4
          (.can ⟨1, Bms.extendedFrame 0x1884E105#32 0⟩ 7)).isSome := by decide +kernel
      exact absurd hsome hother
  have h := battery_shows_last_frame rfl hdelivered (by decide : 1 ≤ 4) (by decide)
    (fun rx t rx' t' hrx hrx' hsome hsome' =>
      (hid _ hrx rx t rfl hsome).trans (hid _ hrx' rx' t' rfl hsome').symm) Bms.defaultTx
  have hlast : (twiceInput.filterMap (receivedData (some 1) 1 .st4)).getLast? = some 61#64 := by
    decide +kernel
  rw [hlast] at h
  exact ⟨by decide +kernel, h⟩

end App
end EnergyStorage
