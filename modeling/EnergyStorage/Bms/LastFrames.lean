import EnergyStorage.Bms.Intake

/-! # The record of a group is that of its last frame

Between two frames of a group the other messages and the ticks leave its record alone.  Only a
measurement that the last frame gives as invalid is older than that frame. -/

namespace EnergyStorage
namespace Bms

open Lib
open BmsProto LogicAdapter TableRuntime FrameRouter

/-- The data of the frame, if it is the message of group `g` of battery `idx`. -/
def groupData (idx : Nat) (g : BmsGroup) (fr : CanFrame) : Option (BitVec 64) :=
  if Carries fr (groupMessage g) ∧ extractInstanceIndex fr.id29 = idx then some fr.data else none

def BusEvent.frame? : BusEvent → Option CanFrame
  | .frame fr _ => some fr
  | .tick _ _ => none

/-- The record of the group is what a frame with these data makes of it. -/
def RecordOf (g : BmsGroup) (data : Option (BitVec 64)) (x : BmsPerInstanceCache) : Prop :=
  match data with
  | none => SameRecord g x {}
  | some data => ∃ tsMs old, (contentOf (groupMessage g) data).Fills g tsMs old x

theorem groupData_isSome_iff {idx : Nat} {g : BmsGroup} {fr : CanFrame} :
    (groupData idx g fr).isSome ↔
      Carries fr (groupMessage g) ∧ extractInstanceIndex fr.id29 = idx := by
  rw [groupData]
  split
  · next h => exact iff_of_true rfl h
  · next h => exact iff_of_false (by simp) h

theorem sameRecord_refl (g : BmsGroup) (x : BmsPerInstanceCache) : SameRecord g x x := by
  cases g <;> rfl

theorem RecordOf.congr {g : BmsGroup} {data : Option (BitVec 64)} {x y : BmsPerInstanceCache}
    (h : RecordOf g data x) (hsame : SameRecord g y x) : RecordOf g data y := by
  cases data with
  | none => exact hsame.trans h
  | some data =>
    obtain ⟨tsMs, old, hfills⟩ := h
    exact ⟨tsMs, old, SameRecord.fills (sameRecord_refl g old) hsame hfills⟩

/-! ### One event -/

/-- The adapter has one handler for a message, and the table one message for it. -/
theorem eq_groupMessage {m : MessageDef} (hm : m ∈ kMessages) {g : BmsGroup}
    (h : handlerGroup (canonicalMsgName m.name) = some g) : m = groupMessage g := by
  have hall : ∀ m ∈ kMessages, ∀ g ∈ handlerGroup (canonicalMsgName m.name),
      m = groupMessage g := by
    decide +kernel
  exact hall m hm g h

theorem receive_sameRecord {d : DeviceData} {g : BmsGroup} (h : groupOf d ≠ some g) (tsMs : Nat)
    (x : BmsPerInstanceCache) : SameRecord g (receive d tsMs x) x := by
  have hbefore : SameRecord g
      (markOnline (parseMsgName d) (stamp d (parseMsgName d) tsMs x)) x := by
    rw [markOnline]
    split <;> cases g <;> rfl
  refine SameRecord.trans ?_ hbefore
  rw [receive, handle]
  rw [groupOf] at h
  split
  · next g' hg' =>
    have hne : g ≠ g' := by
      rintro rfl
      exact h hg'
    refine SameRecord.trans ?_
      (updateGroup_sameRecord hne (Signals.ofDevice d (keyMsgName g')) _)
    cases g <;> rfl
  · cases g <;> rfl

theorem makeInstanceName_inj {i j : Nat} (hi : i ≤ 4) (hj : j ≤ 4)
    (h : makeInstanceName i = makeInstanceName j) : i = j := by
  have hall : ∀ i < 5, ∀ j < 5, makeInstanceName i = makeInstanceName j → i = j := by decide
  exact hall i (by omega) j (by omega) h

section Event

variable {idx : Nat} {g : BmsGroup} {cache : BmsLogicCache} {data : Option (BitVec 64)}

theorem recordOf_age (h : RecordOf g data (entryOf cache (makeInstanceName idx))) (nowMs : Nat) :
    RecordOf g data (entryOf (updateBmsRuntimeHealth cache nowMs) (makeInstanceName idx)) := by
  apply h.congr
  rw [entryOf, entryOf, get_updateBmsRuntimeHealth]
  cases cache.items.get (makeInstanceName idx) with
  | none => exact sameRecord_refl g _
  | some x => cases g <;> rfl

variable (hidx : idx ≤ 4) (hg : g ≠ .fire2b)

include hidx hg

theorem recordOf_message (h : RecordOf g data (entryOf cache (makeInstanceName idx)))
    {fr : CanFrame} {d : DeviceData} (hd : parse fr = some d) (tsMs : Nat) :
    RecordOf g ((groupData idx g fr).or data)
      (entryOf (onDeviceData d tsMs cache) (makeInstanceName idx)) := by
  obtain ⟨hext, hdlc, msg, hmsg, rfl⟩ := parse_eq_some_iff.mp hd
  have hmem := findMessage_mem hmsg
  rw [entryOf, get_onDeviceData]
  by_cases hname : makeInstanceName (extractInstanceIndex fr.id29) = makeInstanceName idx
  · have hinst := makeInstanceName_inj (extractInstanceIndex_le fr.id29) hidx hname
    rw [if_pos ((addressed_parseMessage hmem fr _).mpr hname), Option.getD_some]
    by_cases hgroup : msg = groupMessage g
    · subst hgroup
      rw [groupData, if_pos ⟨⟨hext, hdlc, hmsg⟩, hinst⟩]
      exact ⟨tsMs, _, (receive_updated hg fr tsMs _).fields⟩
    · have hnone : groupData idx g fr = none := by
        refine if_neg fun hdata => hgroup ?_
        exact Option.some_inj.mp (hmsg.symm.trans hdata.1.2.2)
      have hother : groupOf (parseMessage fr msg) ≠ some g := by
        rw [groupOf, parseMsgName_parseMessage hmem]
        exact fun h => hgroup (eq_groupMessage hmem h)
      rw [hnone, Option.none_or]
      exact (h.congr (ensure_sameRecord cache _ _ g)).congr (receive_sameRecord hother tsMs _)
  · have hnone : groupData idx g fr = none := by
      refine if_neg fun hdata => hname ?_
      rw [hdata.2]
    rw [if_neg fun haddr => hname ((addressed_parseMessage hmem fr _).mp haddr), hnone,
      Option.none_or]
    exact h

/-- However frames and ticks follow each other. -/
theorem recordOf_run (cfg : BmsTxConfig) (bs : List BusEvent) :
    RecordOf g (((bs.filterMap BusEvent.frame?).filterMap (groupData idx g)).getLast?)
      (entryOf ((bmsLoop cfg).run (bs.flatMap onBus)).cache (makeInstanceName idx)) := by
  induction bs using List.reverseRecOn with
  | nil => exact sameRecord_refl g _
  | append_singleton bs e ih =>
    rw [List.filterMap_append, List.filterMap_append, List.getLast?_append, List.flatMap_append,
      List.flatMap_singleton, Machine.run_append]
    generalize (bmsLoop cfg).run (bs.flatMap onBus) = s at ih ⊢
    cases e with
    | tick tsMs hv => exact recordOf_age ih tsMs
    | frame fr tsMs =>
      have hlast : (([BusEvent.frame fr tsMs].filterMap BusEvent.frame?).filterMap
          (groupData idx g)).getLast? = groupData idx g fr := by
        show ([fr].filterMap (groupData idx g)).getLast? = _
        cases hdata : groupData idx g fr <;> simp [hdata]
      rw [hlast, onBus]
      cases hd : parse fr with
      | none =>
        have hnone : groupData idx g fr = none := by
          refine if_neg fun hdata => ?_
          rw [hdata.1.parse] at hd
          cases hd
        rw [hnone, Option.none_or]
        exact ih
      | some d => exact recordOf_message hidx hg ih hd tsMs

end Event

end Bms
end EnergyStorage
