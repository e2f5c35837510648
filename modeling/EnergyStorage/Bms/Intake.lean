import EnergyStorage.Bms.FireLevel

/-! # From a frame to the cache

The message name links the table, the parser and the two chains of the adapter.  For
every group but one the names agree, and a frame updates exactly its group. -/

namespace EnergyStorage
namespace Bms

open Lib
open BmsProto LogicAdapter TableRuntime FrameRouter

/-! ### Names -/

section Names

variable {msg : MessageDef} (hmsg : msg ∈ kMessages) (fr : CanFrame)

include hmsg

theorem parseMsgName_parseMessage :
    parseMsgName (parseMessage fr msg) = canonicalMsgName msg.name := by
  have hstr : (parseMessage fr msg).str.get "__bms.msg" = some (canonicalMsgName msg.name) := by
    rw [(parseMessage_own_key hmsg fr rfl).2]
    simp only [header, if_neg (kMessages_name_ne msg hmsg)]
    rw [Dict.get_insert_of_ne _ (by decide), Dict.get_insert_of_ne _ (by decide),
      Dict.get_insert_of_ne _ (by decide), Dict.get_insert_self]
  have hne : canonicalMsgName msg.name ≠ "" := by
    have hall : ∀ m ∈ kMessages, canonicalMsgName m.name ≠ "" := by decide
    exact hall msg hmsg
  rw [parseMsgName, hstr]
  exact if_pos hne

/-- The adapter files a frame under the instance its identifier names. -/
theorem instanceOf_parseMessage :
    LogicAdapter.instanceOf (parseMessage fr msg) =
      makeInstanceName (extractInstanceIndex fr.id29) := by
  have hstr : (parseMessage fr msg).str.get "__bms.instance" =
      some (makeInstanceName (extractInstanceIndex fr.id29)) := by
    rw [(parseMessage_own_key hmsg fr rfl).2]
    simp only [header]
    rw [Dict.get_insert_of_ne _ (by decide), Dict.get_insert_of_ne _ (by decide),
      Dict.get_insert_of_ne _ (by decide), Dict.get_insert_of_ne _ (by decide),
      Dict.get_insert_self]
  have hne : makeInstanceName (extractInstanceIndex fr.id29) ≠ "" := by
    rw [makeInstanceName]
    split <;> simp
  rw [LogicAdapter.instanceOf, parseInstanceName, hstr]
  exact if_pos hne

theorem addressed_parseMessage (name : String) :
    Addressed name (parseMessage fr msg) ↔
      makeInstanceName (extractInstanceIndex fr.id29) = name := by
  have hdev : isBmsDevice (parseMessage fr msg) = true := by
    rw [isBmsDevice, (parseMessage_rest fr).1]
    rfl
  rw [Addressed, instanceOf_parseMessage hmsg]
  exact and_iff_right hdev

end Names

/-- The name drift: the extinguisher's message has no handler under its own name. -/
theorem handlerGroup_groupMessage (g : BmsGroup) :
    handlerGroup (canonicalMsgName (groupMessage g).name) =
      if g = .fire2b then none else some g := by
  cases g <;> decide

theorem keyMsgName_eq (g : BmsGroup) :
    keyMsgName g = canonicalMsgName (groupMessage g).name := by
  cases g <;> decide

theorem handlerGroup_ne_fire2b :
    ∀ m ∈ kMessages, handlerGroup (canonicalMsgName m.name) ≠ some .fire2b := by
  decide

/-! ### One message -/

/-- Two entries have the same record for a group. -/
def SameRecord (g : BmsGroup) (x y : BmsPerInstanceCache) : Prop :=
  match g with
  | .st1 => x.st1 = y.st1
  | .st2 => x.st2 = y.st2
  | .st3 => x.st3 = y.st3
  | .st4 => x.st4 = y.st4
  | .st5 => x.st5 = y.st5
  | .st6 => x.st6 = y.st6
  | .st7 => x.st7 = y.st7
  | .elecEnergy => x.elecEnergy = y.elecEnergy
  | .currentLimit => x.currentLimit = y.currentLimit
  | .tm2b => x.tm2b = y.tm2b
  | .fire2b => x.fire2b = y.fire2b
  | .fault1 => x.fault1 = y.fault1
  | .fault2 => x.fault2 = y.fault2

theorem updateGroup_sameRecord {g g' : BmsGroup} (h : g' ≠ g) (s : Signals)
    (x : BmsPerInstanceCache) : SameRecord g' (updateGroup g s x) x := by
  cases g <;> cases g' <;> first | rfl | exact absurd rfl h

theorem SameRecord.symm {g : BmsGroup} {x y : BmsPerInstanceCache} (h : SameRecord g x y) :
    SameRecord g y x := by
  cases g <;> exact Eq.symm h

theorem SameRecord.trans {g : BmsGroup} {x y z : BmsPerInstanceCache}
    (h : SameRecord g x y) (h' : SameRecord g y z) : SameRecord g x z := by
  cases g <;> exact Eq.trans h h'

theorem SameRecord.fills {g : BmsGroup} {tsMs : Nat} {c : Content}
    {old new old' new' : BmsPerInstanceCache} (hold : SameRecord g old old')
    (hnew : SameRecord g new new') (h : c.Fills g tsMs old' new') : c.Fills g tsMs old new := by
  cases g <;> simp only [SameRecord, Content.Fills] at hold hnew h ⊢ <;>
    first | rw [hnew, hold, h] | rw [hnew, h]

/-- What a frame of group `g` with content `c`, received at `tsMs`, makes of an
entry. -/
structure Updated (g : BmsGroup) (c : Content) (tsMs : Nat) (old new : BmsPerInstanceCache) :
    Prop where
  online : new.groupOnline g = true
  stamp : new.lastMs g = tsMs
  fields : c.Fills g tsMs old new
  others : ∀ g', g' ≠ g → new.groupOnline g' = old.groupOnline g' ∧
    new.lastMs g' = old.lastMs g' ∧ SameRecord g' new old
  fireAlarm : g = .fire2b → fireAny c.fire2b = true → new.raw.fireAlarm = true

section Message

variable {g : BmsGroup} (hg : g ≠ .fire2b) (fr : CanFrame) (tsMs : Nat) (x : BmsPerInstanceCache)

include hg

theorem groupOf_parseMessage : groupOf (parseMessage fr (groupMessage g)) = some g := by
  rw [groupOf, parseMsgName_parseMessage (groupMessage_mem g), handlerGroup_groupMessage,
    if_neg hg]

/-- The entry the handler meets, and what it makes of it. -/
theorem receive_parseMessage :
    ∃ before, before.lastRxMs = tsMs ∧ (∀ g', SameRecord g' before x) ∧
      ∀ g', SameRecord g' (receive (parseMessage fr (groupMessage g)) tsMs x)
        (updateGroup g (Signals.ofDevice (parseMessage fr (groupMessage g))
          (canonicalMsgName (groupMessage g).name)) before) := by
  have hname : parseMsgName (parseMessage fr (groupMessage g)) =
      canonicalMsgName (groupMessage g).name :=
    parseMsgName_parseMessage (groupMessage_mem g) fr
  have hgroup : handlerGroup (canonicalMsgName (groupMessage g).name) = some g := by
    rw [handlerGroup_groupMessage, if_neg hg]
  refine ⟨markOnline (canonicalMsgName (groupMessage g).name)
    (stamp (parseMessage fr (groupMessage g)) (canonicalMsgName (groupMessage g).name) tsMs x),
    ?_, ?_, ?_⟩
  · rw [markOnline, onlineGroup_eq_handlerGroup, hgroup]
    rfl
  · intro g'
    rw [markOnline, onlineGroup_eq_handlerGroup, hgroup]
    cases g' <;> rfl
  · intro g'
    rw [receive, hname, handle, hgroup]
    simp only [keyMsgName_eq]
    cases g' <;> rfl

theorem receive_updated :
    Updated g (contentOf (groupMessage g) fr.data) tsMs x
      (receive (parseMessage fr (groupMessage g)) tsMs x) where
  online := by
    rw [receive_groupOnline, groupOf_parseMessage hg]
    simp
  stamp := by
    rw [receive_lastMs, groupOf_parseMessage hg, if_pos rfl]
  fields := by
    obtain ⟨before, hrx, hbefore, hafter⟩ := receive_parseMessage hg fr tsMs x
    have hfills := updateGroup_fills hg
      (agrees_parseMessage (groupMessage_mem g) fr) before
    rw [hrx] at hfills
    exact SameRecord.fills (hbefore g).symm (hafter g) hfills
  others g' hne := by
    obtain ⟨before, -, hbefore, hafter⟩ := receive_parseMessage hg fr tsMs x
    have hne' : ¬ some g = some g' := fun h => hne (Option.some_inj.mp h).symm
    refine ⟨?_, ?_, ?_⟩
    · rw [receive_groupOnline, groupOf_parseMessage hg]
      simp [Ne.symm hne]
    · rw [receive_lastMs, groupOf_parseMessage hg, if_neg hne']
    · exact ((hafter g').trans (updateGroup_sameRecord hne _ _)).trans (hbefore g')
  fireAlarm h := absurd h hg

end Message

/-! ### One frame on the bus -/

/-- Before its first message an entry reads as the default one. -/
def entryOf (cache : BmsLogicCache) (name : String) : BmsPerInstanceCache :=
  (cache.items.get name).getD {}

theorem ensure_sameRecord (cache : BmsLogicCache) (name : String) (index : Nat)
    (g : BmsGroup) : SameRecord g (cache.ensure name index) (entryOf cache name) := by
  cases g <;> rfl

theorem ensure_groupOnline (cache : BmsLogicCache) (name : String) (index : Nat) :
    (cache.ensure name index).groupOnline = (entryOf cache name).groupOnline := rfl

theorem ensure_stamps (cache : BmsLogicCache) (name : String) (index : Nat) :
    (cache.ensure name index).lastMs = (entryOf cache name).lastMs := rfl

theorem Updated.of_ensure {g : BmsGroup} {c : Content} {tsMs : Nat} {cache : BmsLogicCache}
    {name : String} {index : Nat} {new : BmsPerInstanceCache}
    (h : Updated g c tsMs (cache.ensure name index) new) :
    Updated g c tsMs (entryOf cache name) new where
  online := h.online
  stamp := h.stamp
  fields := SameRecord.fills (ensure_sameRecord cache name index g).symm
    (by cases g <;> rfl) h.fields
  others g' hne := by
    obtain ⟨honline, hstamp, hrec⟩ := h.others g' hne
    exact ⟨honline, hstamp, hrec.trans (ensure_sameRecord cache name index g')⟩
  fireAlarm := h.fireAlarm

/-- The frame's message reached the adapter and made of the cache what it should:
the entry of its instance is updated, the others are as before. -/
def UpdatesCache (g : BmsGroup) (fr : CanFrame) (tsMs : Nat) (cache : BmsLogicCache) : Prop :=
  ∃ d, parse fr = some d ∧
    (∃ new, (onDeviceData d tsMs cache).items.get
        (makeInstanceName (extractInstanceIndex fr.id29)) = some new ∧
      Updated g (contentOf (groupMessage g) fr.data) tsMs
        (entryOf cache (makeInstanceName (extractInstanceIndex fr.id29))) new) ∧
    ∀ name, name ≠ makeInstanceName (extractInstanceIndex fr.id29) →
      (onDeviceData d tsMs cache).items.get name = cache.items.get name

/-- No entry has seen an extinguisher message. -/
def FireSilent (cache : BmsLogicCache) : Prop :=
  ∀ name x, cache.items.get name = some x →
    x.groupOnline .fire2b = false ∧ x.lastMs .fire2b = 0

theorem onDeviceData_fireSilent {cache : BmsLogicCache} (h : FireSilent cache) {fr : CanFrame}
    {d : DeviceData} (hd : parse fr = some d) (tsMs : Nat) :
    FireSilent (onDeviceData d tsMs cache) := by
  obtain ⟨-, -, msg, hmsg, rfl⟩ := parse_eq_some_iff.mp hd
  have hmem := findMessage_mem hmsg
  have hgroup : groupOf (parseMessage fr msg) ≠ some .fire2b := by
    rw [groupOf, parseMsgName_parseMessage hmem]
    exact handlerGroup_ne_fire2b msg hmem
  intro name x hx
  rw [get_onDeviceData] at hx
  split at hx
  · obtain rfl := Option.some_inj.mp hx
    have hentry : (entryOf cache name).groupOnline .fire2b = false ∧
        (entryOf cache name).lastMs .fire2b = 0 := by
      rw [entryOf]
      cases hx : cache.items.get name with
      | none => exact ⟨rfl, rfl⟩
      | some y => exact h name y hx
    rw [receive_groupOnline, receive_lastMs, if_neg hgroup, ensure_groupOnline, ensure_stamps]
    simp [hgroup, hentry]
  · exact h name x hx

theorem updateBmsRuntimeHealth_fireSilent {cache : BmsLogicCache} (h : FireSilent cache)
    (nowMs : Nat) : FireSilent (updateBmsRuntimeHealth cache nowMs) := by
  intro name x hx
  rw [get_updateBmsRuntimeHealth, Option.map_eq_some_iff] at hx
  obtain ⟨y, hy, rfl⟩ := hx
  have hzero := (h name y hy).2
  refine ⟨?_, hzero⟩
  rw [← Bool.not_eq_true, ageInstance_groupOnline, hzero]
  exact fun hfresh => hfresh.1 rfl

theorem busRun_fireSilent (cfg : BmsTxConfig) (es : List BusEvent) :
    FireSilent ((bmsLoop cfg).run (es.flatMap onBus)).cache := by
  refine Machine.run_flatMap (I := fun s : BmsState => FireSilent s.cache) ?_ ?_ es
  · intro name x hx
    cases hx
  · intro s e h
    cases e with
    | frame fr tsMs =>
      rw [onBus]
      cases hd : parse fr with
      | none => exact h
      | some d => exact onDeviceData_fireSilent h hd tsMs
    | tick tsMs hv => exact updateBmsRuntimeHealth_fireSilent h tsMs

/-- After any run, a frame of a group with a handler updates its group in the cache,
and nothing else, exactly when it is not the extinguisher's. -/
theorem frame_updatesCache_iff (cfg : BmsTxConfig) (es : List BusEvent) (g : BmsGroup)
    (fr : CanFrame) (hfr : Carries fr (groupMessage g)) (tsMs : Nat) :
    UpdatesCache g fr tsMs ((bmsLoop cfg).run (es.flatMap onBus)).cache ↔ g ≠ .fire2b := by
  have hsilent := busRun_fireSilent cfg es
  generalize ((bmsLoop cfg).run (es.flatMap onBus)).cache = cache at hsilent
  have hmem := groupMessage_mem g
  constructor
  · rintro ⟨d, hd, ⟨new, hnew, hupd⟩, -⟩ rfl
    have honline := (onDeviceData_fireSilent hsilent hd tsMs _ new hnew).1
    rw [hupd.online] at honline
    cases honline
  · intro hg
    refine ⟨parseMessage fr (groupMessage g), hfr.parse, ?_, ?_⟩
    · have hupd := receive_updated hg fr tsMs
        (cache.ensure (makeInstanceName (extractInstanceIndex fr.id29))
          (parseInstanceIndex (parseMessage fr (groupMessage g))))
      refine ⟨_, ?_, hupd.of_ensure⟩
      rw [get_onDeviceData, if_pos ((addressed_parseMessage hmem fr _).mpr rfl)]
    · intro name hname
      rw [get_onDeviceData,
        if_neg fun h => hname ((addressed_parseMessage hmem fr name).mp h).symm]

theorem frame_updatesCache_st4 :
    UpdatesCache .st4 (st4Frame 60) 100
      ((bmsLoop defaultTx).run (quietStart.flatMap onBus)).cache :=
  (frame_updatesCache_iff defaultTx quietStart .st4 (st4Frame 60) (st4Frame_carries 60) 100).mpr
    (by decide)

/-- The alarm of a frame does not reach the unified faults. -/
theorem fire_alarm_lost :
    Carries (extendedFrame 0x18FFF10F#32 0x300#64) (groupMessage .fire2b) ∧
      fireAny (contentOf (groupMessage .fire2b) 0x300#64).fire2b = true ∧
      ¬ UpdatesCache .fire2b (extendedFrame 0x18FFF10F#32 0x300#64) 140
        ((bmsLoop defaultTx).run (quietStart.flatMap onBus)).cache := by
  have hname : makeInstanceName (extractInstanceIndex
      (extendedFrame 0x18FFF10F#32 0x300#64).id29) = "BMS_1" := by
    decide
  have hlost : ∀ d ∈ parse (extendedFrame 0x18FFF10F#32 0x300#64),
      ∀ x ∈ (onDeviceData d 140
        ((bmsLoop defaultTx).run (quietStart.flatMap onBus)).cache).items.get "BMS_1",
        x.groupOnline .fire2b = false ∧ x.raw.fireAlarm = false := by
    decide +kernel
  refine ⟨by decide +kernel, by decide +kernel, ?_⟩
  rintro ⟨d, hd, ⟨x, hx, hupd⟩, -⟩
  rw [hname] at hx
  have honline := (hlost d hd x hx).1
  rw [hupd.online] at honline
  cases honline

end Bms
end EnergyStorage
