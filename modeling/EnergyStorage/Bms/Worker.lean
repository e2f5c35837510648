import EnergyStorage.Can.Frame
import EnergyStorage.Lib.LatestQueue

/-! # The queue of the BMS frames and its worker

The CAN thread pushes, the worker takes everything at once and works it off.  Two places of the
worker lose a frame that nothing has superseded: the limit of a round is applied after the queue
was emptied, and the filter for the frame that `stop` injects passes over a real one. -/

namespace EnergyStorage

structure BmsFrame where
  canIndex : Int := 0
  id29 : BitVec 32 := 0
  dlc : Nat := 8
  data : BitVec 64 := 0
  tsMs : Nat := 0
  deriving DecidableEq, Repr

namespace BmsFrame

def key (f : BmsFrame) : BitVec 64 := f.id29.setWidth 64

end BmsFrame

/-- What `CanDispatcher::handle` queues of a frame on the BMS channel. -/
def CanDispatcher.queued (canIndex : Int) (nowMs : Nat) (fr : CanFrame) : Option BmsFrame :=
  if fr.canId &&& canEffFlag = 0#32 then none
  else if fr.canDlc < 8 then none
  else some ⟨canIndex, fr.id29, fr.canDlc, fr.data, nowMs⟩

namespace BmsWorker

open Lib

structure Config where
  waitTimeoutMs : Nat := 10
  maxFramesPerRound : Nat := 0
  dispatchThrottleMs : Nat := 0
  deriving DecidableEq, Repr

def fillCanFrame (f : BmsFrame) : CanFrame :=
  ⟨(f.id29 &&& canEffMask) ||| canEffFlag, f.dlc, f.data⟩

/-- `frames.resize`, which drops what is behind the limit. -/
def limit (cfg : Config) (frames : List BmsFrame) : List BmsFrame :=
  if 0 < cfg.maxFramesPerRound ∧ cfg.maxFramesPerRound < frames.length then
    frames.take cfg.maxFramesPerRound
  else frames

/-- The empty frame that `stop` pushes to wake the worker, or what looks like it. -/
def isStopFrame (f : BmsFrame) : Bool := f.id29 = 0 ∧ f.dlc = 8

/-- The CAN threads that push, and the loop of the worker while it runs. -/
def machine (cfg : Config) : Machine (LatestQueue BmsFrame) (QueueStep BmsFrame) BmsFrame :=
  LatestQueue.machine BmsFrame.key (limit cfg) isStopFrame

/-- What `BmsProto::parse` gets while the steps `post` follow the steps `pre`. -/
def parsed (cfg : Config) (pre post : List (QueueStep BmsFrame)) : List CanFrame :=
  (LatestQueue.handed BmsFrame.key (limit cfg) isStopFrame ((machine cfg).run pre) post).map
    fillCanFrame

/-- What becomes in the steps `post` of the frame that was pushed after `pre`, and of no other one
that is equal to it. -/
abbrev Fate (cfg : Config) (pre : List (QueueStep BmsFrame)) (f : BmsFrame)
    (post : List (QueueStep BmsFrame)) : Prop :=
  LatestQueue.Fate BmsFrame.key (limit cfg) isStopFrame
    ((machine cfg).run (pre ++ [.push f])) f post

/-- That frame is handed to `BmsProto::parse`. -/
abbrev Handed (cfg : Config) (pre : List (QueueStep BmsFrame)) (f : BmsFrame)
    (post : List (QueueStep BmsFrame)) : Prop :=
  LatestQueue.Handed BmsFrame.key (limit cfg) isStopFrame
    ((machine cfg).run (pre ++ [.push f])) f post

/-- The frame is not the marker, and the queue that the worker takes is within the limit. -/
def Roomy (cfg : Config) (q : LatestQueue BmsFrame) : QueueStep BmsFrame → Prop
  | .push f => ¬(f.id29 = 0 ∧ f.dlc = 8)
  | .popAll _ => q.batch = [] →
      cfg.maxFramesPerRound = 0 ∨ q.latest.length ≤ cfg.maxFramesPerRound
  | .next => True

/-! ### One step -/

theorem fillCanFrame_queued {canIndex : Int} {nowMs : Nat} {fr : CanFrame} {f : BmsFrame}
    (h : CanDispatcher.queued canIndex nowMs fr = some f) :
    (fillCanFrame f).id29 = fr.id29 ∧ (fillCanFrame f).isExtended = true ∧
      (fillCanFrame f).canDlc = fr.canDlc ∧ (fillCanFrame f).data = fr.data := by
  unfold CanDispatcher.queued at h
  split at h
  · cases h
  split at h
  · cases h
  cases h
  have hid : ((fr.id29 &&& canEffMask) ||| canEffFlag) &&& canEffMask = fr.id29 := by
    have hapart : canEffFlag &&& canEffMask = 0#32 := by decide
    rw [BitVec.and_or_distrib_right, hapart, BitVec.or_zero, CanFrame.id29, BitVec.and_assoc,
      BitVec.and_self, BitVec.and_assoc, BitVec.and_self]
  refine ⟨hid, ?_, rfl, rfl⟩
  have hflag : ((fr.id29 &&& canEffMask) ||| canEffFlag) &&& canEffFlag = canEffFlag := by
    have hapart : canEffMask &&& canEffFlag = 0#32 := by decide
    rw [BitVec.and_or_distrib_right, BitVec.and_assoc, hapart, BitVec.and_zero,
      BitVec.zero_or, BitVec.and_self]
  unfold CanFrame.isExtended fillCanFrame
  rw [hflag]
  rfl

theorem limit_eq_self {cfg : Config} {frames : List BmsFrame}
    (h : cfg.maxFramesPerRound = 0 ∨ frames.length ≤ cfg.maxFramesPerRound) :
    limit cfg frames = frames := by
  unfold limit
  apply if_neg
  omega

/-- What a roomy step takes off the queue stays in the batch. -/
theorem keeps_of_roomy {cfg : Config} {q : LatestQueue BmsFrame} {e : QueueStep BmsFrame}
    (h : Roomy cfg q e) : LatestQueue.Keeps (limit cfg) isStopFrame q e := by
  cases e with
  | push f => exact decide_eq_false h
  | popAll order =>
    intro hbatch f hf
    have hperm := order.perm q.latest
    rw [limit_eq_self]
    · exact hperm.mem_iff.mpr hf
    · rw [hperm.length_eq]
      exact h hbatch
  | next => trivial

/-! ### Runs -/

/-- While every frame that is pushed is a real one and every queue that is taken is within the
limit, a pushed frame is parsed, superseded before it was, or still waiting; once nothing
waits, the last frame of every key has been parsed; and the worker gets there. -/
theorem frames_accounted {cfg : Config} {es : List (QueueStep BmsFrame)}
    (h : (machine cfg).EveryStep (Roomy cfg) es) :
    (∀ pre f post, es = pre ++ .push f :: post →
      Fate cfg pre f post ∧
      ((∀ g, .push g ∈ post → g.key ≠ f.key) → LatestQueue.Idle ((machine cfg).run es) →
        Handed cfg pre f post ∧ fillCanFrame f ∈ parsed cfg (pre ++ [.push f]) post)) ∧
    ∀ order, LatestQueue.Idle ((machine cfg).runFrom ((machine cfg).run es)
      (LatestQueue.round (limit cfg) order ((machine cfg).run es))) := by
  have hkeeps : (machine cfg).EveryStep (LatestQueue.Keeps (limit cfg) isStopFrame) es := by
    intro pre e hpre
    exact keeps_of_roomy (h pre e hpre)
  constructor
  · intro pre f post hes
    have hfate : Fate cfg pre f post := LatestQueue.fate_of_keeps hkeeps hes
    refine ⟨hfate, ?_⟩
    intro hlast hidle
    rw [hes, machine, LatestQueue.run_push] at hidle
    have hhanded := hfate.handed_of_idle (LatestQueue.mem_push ..) hidle hlast
    exact ⟨hhanded, List.mem_map_of_mem hhanded.mem⟩
  · intro order
    exact LatestQueue.idle_round order _

/-- Two equal frames, the second pushed while the first is in the batch, and no more than one at a
time in the queue: the second is handed on itself. -/
theorem frames_accounted_two :
    Handed { maxFramesPerRound := 1 } [.push { id29 := 1 }, .popAll default] { id29 := 1 }
      [.next, .popAll default, .next] := by
  have hroomy : (machine { maxFramesPerRound := 1 }).EveryStep (Roomy { maxFramesPerRound := 1 })
      [.push { id29 := 1 }, .popAll default, .push { id29 := 1 }, .next, .popAll default,
        .next] := by
    have hreal : ¬({ id29 := 1 } : BmsFrame).id29 = 0 := by decide
    simp only [Machine.everyStep_cons]
    exact ⟨fun h => hreal h.1, fun _ => Or.inr (Nat.le_refl 1), fun h => hreal h.1, trivial,
      fun _ => Or.inr (Nat.le_refl 1), trivial, Machine.everyStep_nil _ _⟩
  have h := (frames_accounted hroomy).1 [.push { id29 := 1 }, .popAll default] { id29 := 1 }
    [.next, .popAll default, .next] rfl
  refine (h.2 ?_ ⟨rfl, rfl⟩).1
  intro g hg
  simp at hg

/-- One frame a round: the queue was emptied for two, and the second is parsed never. -/
theorem limited_round_loses_frame :
    LatestQueue.Idle ((machine { maxFramesPerRound := 1 }).run
      [.push { id29 := 1 }, .push { id29 := 2 }, .popAll default, .next]) ∧
    parsed { maxFramesPerRound := 1 } [.push { id29 := 1 }, .push { id29 := 2 }]
      [.popAll default, .next] = [⟨0x80000001, 8, 0⟩] ∧
    ¬Fate { maxFramesPerRound := 1 } [.push { id29 := 1 }] { id29 := 2 }
      [.popAll default, .next] := by
  refine ⟨⟨rfl, rfl⟩, by decide, ?_⟩
  intro h
  have hparsed := (h.handed_of_idle (LatestQueue.mem_push ..) ⟨rfl, rfl⟩ (by simp)).mem
  revert hparsed
  decide

end BmsWorker
end EnergyStorage
