import EnergyStorage.Bms.Worker
import EnergyStorage.Logic.Engine
import EnergyStorage.Pcu.StatusFrame

/-! # Which way a CAN frame takes

The frames of the BMS interface go to the queue of its worker.  On every other interface the
protocol that the configuration binds there parses the frame at once; the configuration also says
which PCU is behind the interface. -/

namespace EnergyStorage

open Lib
open Pcu (parsePcuStatus canFrameRawHex IsStatus Reports)

/-- An entry of `can_links`, with what the receiving side reads of it. -/
structure CanRxLink extends Logic.CanLinkCfg where
  idPcuStatus : BitVec 32 := 0#32

inductive CanParseResult
  | parsed
  | consumed
  | noProto
  | parseFail
  deriving DecidableEq, Repr

/-- `protoByCan` has the status identifier of each bound `ProtoPCU`. -/
structure CanDispatcher where
  protoByCan : Dict Int (BitVec 32) := Dict.empty
  pcuInstanceByCan : Dict Int Nat := Dict.empty
  /-- `bms_can_index_`, once there is a queue. -/
  bmsCanIndex : Option Int := none

namespace CanDispatcher

/-! ### The configuration -/

def isPcuLink (l : CanRxLink) : Bool := l.enable && l.protocolType == "emu_pcu_v1"

def hasInstance (l : CanRxLink) : Bool := 1 ≤ l.pcuInstance ∧ l.pcuInstance ≤ 2

def bindLink (c : CanDispatcher) (l : CanRxLink) : CanDispatcher :=
  if isPcuLink l then
    { c with
      protoByCan := c.protoByCan.insert l.canIndex l.idPcuStatus
      pcuInstanceByCan :=
        if hasInstance l then c.pcuInstanceByCan.insert l.canIndex l.pcuInstance
        else c.pcuInstanceByCan }
  else c

def init (links : List CanRxLink) : CanDispatcher := links.foldl bindLink {}

def setBmsAsync (c : CanDispatcher) (bmsCanIndex : Int) : CanDispatcher :=
  { c with bmsCanIndex := some bmsCanIndex }

/-- The identifier that the last PCU link of an interface has. -/
def boundId (links : List CanRxLink) (canIndex : Int) : Option (BitVec 32) :=
  links.reverse.findSome? fun l =>
    if isPcuLink l ∧ l.canIndex = canIndex then some l.idPcuStatus else none

/-- The number that the last numbered PCU link of an interface has. -/
def boundInstance (links : List CanRxLink) (canIndex : Int) : Option Nat :=
  links.reverse.findSome? fun l =>
    if isPcuLink l ∧ hasInstance l ∧ l.canIndex = canIndex then some l.pcuInstance else none

theorem protoByCan_init (links : List CanRxLink) (canIndex : Int) :
    (init links).protoByCan.get canIndex = boundId links canIndex := by
  have hstep : ∀ (c : CanDispatcher), ∀ l ∈ links,
      (bindLink c l).protoByCan.get canIndex =
        (if isPcuLink l ∧ l.canIndex = canIndex then some l.idPcuStatus else none).or
          (c.protoByCan.get canIndex) := by
    intro c l _
    unfold bindLink
    by_cases hlink : isPcuLink l = true
    · rw [if_pos hlink]
      show (c.protoByCan.insert l.canIndex l.idPcuStatus).get canIndex = _
      rw [Dict.get_insert]
      by_cases hindex : l.canIndex = canIndex
      · rw [if_pos hindex.symm, if_pos ⟨hlink, hindex⟩]
        rfl
      · rw [if_neg (fun h => hindex h.symm), if_neg (fun h => hindex h.2)]
        rfl
    · rw [if_neg hlink, if_neg (fun h => hlink h.1)]
      rfl
  rw [init, observe_foldl (fun c : CanDispatcher => c.protoByCan.get canIndex) {} links hstep]
  exact Option.or_none

theorem pcuInstanceByCan_init (links : List CanRxLink) (canIndex : Int) :
    (init links).pcuInstanceByCan.get canIndex = boundInstance links canIndex := by
  have hstep : ∀ (c : CanDispatcher), ∀ l ∈ links,
      (bindLink c l).pcuInstanceByCan.get canIndex =
        (if isPcuLink l ∧ hasInstance l ∧ l.canIndex = canIndex then some l.pcuInstance
          else none).or (c.pcuInstanceByCan.get canIndex) := by
    intro c l _
    unfold bindLink
    by_cases hlink : isPcuLink l = true
    · rw [if_pos hlink]
      by_cases hinst : hasInstance l = true
      · show (if hasInstance l then _ else _ : Dict Int Nat).get canIndex = _
        rw [if_pos hinst, Dict.get_insert]
        by_cases hindex : l.canIndex = canIndex
        · rw [if_pos hindex.symm, if_pos ⟨hlink, hinst, hindex⟩]
          rfl
        · rw [if_neg (fun h => hindex h.symm), if_neg (fun h => hindex h.2.2)]
          rfl
      · show (if hasInstance l then _ else _ : Dict Int Nat).get canIndex = _
        rw [if_neg hinst, if_neg (fun h => hinst h.2.1)]
        rfl
    · rw [if_neg hlink, if_neg (fun h => hlink h.1)]
      rfl
  rw [init, observe_foldl (fun c : CanDispatcher => c.pcuInstanceByCan.get canIndex) {} links hstep]
  exact Option.or_none

/-- A bound number is that of a link. -/
theorem boundInstance_range {links : List CanRxLink} {canIndex : Int} {inst : Nat}
    (h : boundInstance links canIndex = some inst) : inst = 1 ∨ inst = 2 := by
  obtain ⟨l, -, hl⟩ := List.exists_of_findSome?_eq_some h
  split_ifs at hl with hlink
  have hinst : l.pcuInstance = inst := Option.some_inj.mp hl
  have hrange : 1 ≤ l.pcuInstance ∧ l.pcuInstance ≤ 2 := of_decide_eq_true hlink.2.1
  omega

/-! ### One frame -/

def pcuRuntimeName (pcuInstance : Nat) : String :=
  if pcuInstance = 1 then "PCU_0" else if pcuInstance = 2 then "PCU_1" else ""

/-- The first part of `stampParsedMeta_`: where the data come from. -/
def stampCan (canIndex : Int) (fr : CanFrame) (out : DeviceData) : DeviceData :=
  let d := out.setValue "__can_index" canIndex
  let d := d.setValue "__can_id" fr.id29.toNat
  let d := d.setValue "__can_dlc" fr.canDlc
  let d := d.setStr "__can.raw_hex" (canFrameRawHex fr)
  if (d.deviceName = "PCU" ∨ d.deviceName = "PCU_CTRL") ∧ d.str.get "__pcu.raw_hex" = none then
    d.setStr "__pcu.raw_hex" (canFrameRawHex fr)
  else d

/-- The second part: which PCU it is. -/
def stampPcu (canIndex : Int) (inst : Nat) (d : DeviceData) : DeviceData :=
  let runtimeName := pcuRuntimeName inst
  if runtimeName = "" then d
  else
    let d := d.setValue "__pcu.instance" inst
    let d := d.setValue "__pcu.runtime_index" (inst - 1)
    let d := d.setValue "__pcu.can_index" canIndex
    let d := d.setStr "__pcu.instance_name" runtimeName
    let d := d.setStr "__pcu.display_name" ("PCU" ++ toString inst)
    if d.str.get "__pcu.msg" = none then d.setStr "__pcu.msg" "PCU_STATUS" else d

def stampParsedMeta (c : CanDispatcher) (canIndex : Int) (fr : CanFrame) (out : DeviceData) :
    DeviceData :=
  let d := stampCan canIndex fr out
  if d.deviceName ≠ "PCU" ∧ d.deviceName ≠ "PCU_CTRL" then d
  else
    match c.pcuInstanceByCan.get canIndex with
    | none => d
    | some inst => if inst < 1 ∨ 2 < inst then d else stampPcu canIndex inst d

/-- The result, the data, and the frame that goes to the queue of the BMS worker. -/
def handle (c : CanDispatcher) (canIndex : Int) (fr : CanFrame) (nowMs : Nat) (out : DeviceData) :
    CanParseResult × DeviceData × Option BmsFrame :=
  if c.bmsCanIndex = some canIndex then (.consumed, out, queued canIndex nowMs fr)
  else
    match c.protoByCan.get canIndex with
    | none => (.noProto, out, none)
    | some idPcuStatus =>
      match parsePcuStatus idPcuStatus fr out with
      | none => (.parseFail, out, none)
      | some d => (.parsed, c.stampParsedMeta canIndex fr d, none)

/-- The keys under which the dispatcher writes numbers. -/
def stampedKeys : List String :=
  ["__can_index", "__can_id", "__can_dlc", "__pcu.instance", "__pcu.runtime_index",
    "__pcu.can_index"]

/-! ### The stamp -/

theorem stampCan_spec (canIndex : Int) (fr : CanFrame) (out : DeviceData) :
    (stampCan canIndex fr out).deviceName = out.deviceName ∧
      (stampCan canIndex fr out).status = out.status ∧
      (stampCan canIndex fr out).num = out.num ∧
      (stampCan canIndex fr out).value = ((out.value.insert "__can_index" canIndex).insert
        "__can_id" fr.id29.toNat).insert "__can_dlc" fr.canDlc := by
  unfold stampCan
  dsimp only [DeviceData.setStr, DeviceData.setValue]
  split
  · exact ⟨rfl, rfl, rfl, rfl⟩
  · exact ⟨rfl, rfl, rfl, rfl⟩

theorem stampPcu_spec (canIndex : Int) (d : DeviceData) {inst : Nat} (h : inst = 1 ∨ inst = 2) :
    (stampPcu canIndex inst d).deviceName = d.deviceName ∧
      (stampPcu canIndex inst d).status = d.status ∧
      (stampPcu canIndex inst d).num = d.num ∧
      (stampPcu canIndex inst d).value = ((d.value.insert "__pcu.instance" inst).insert
        "__pcu.runtime_index" (inst - 1)).insert "__pcu.can_index" canIndex := by
  have hname : pcuRuntimeName inst ≠ "" := by
    rcases h with rfl | rfl
    · decide
    · decide
  unfold stampPcu
  dsimp only [DeviceData.setStr, DeviceData.setValue]
  rw [if_neg hname]
  split
  · exact ⟨rfl, rfl, rfl, rfl⟩
  · exact ⟨rfl, rfl, rfl, rfl⟩

/-- What the stamp does to the data of a PCU. -/
theorem stampParsedMeta_pcu (links : List CanRxLink) (bms : Option Int) (canIndex : Int)
    (fr : CanFrame) {out : DeviceData} (hname : out.deviceName = "PCU") :
    let c : CanDispatcher := { init links with bmsCanIndex := bms }
    let d := c.stampParsedMeta canIndex fr out
    d.deviceName = "PCU" ∧ d.status = out.status ∧ d.num = out.num ∧
      (∀ k, k ∉ stampedKeys → d.value.get k = out.value.get k) ∧
      d.value.get "__pcu.instance" = match boundInstance links canIndex with
        | none => out.value.get "__pcu.instance"
        | some inst => some (inst : Int) := by
  intro c d
  obtain ⟨hcanName, hcanStatus, hcanNum, hcanValue⟩ := stampCan_spec canIndex fr out
  have hcan : ∀ k, k ∉ stampedKeys → (stampCan canIndex fr out).value.get k = out.value.get k := by
    intro k hk
    simp only [stampedKeys, List.mem_cons, List.not_mem_nil, or_false, not_or] at hk
    rw [hcanValue, Dict.get_insert_of_ne _ hk.2.2.1, Dict.get_insert_of_ne _ hk.2.1,
      Dict.get_insert_of_ne _ hk.1]
  have hd : d = match boundInstance links canIndex with
      | none => stampCan canIndex fr out
      | some inst => if inst < 1 ∨ 2 < inst then stampCan canIndex fr out
          else stampPcu canIndex inst (stampCan canIndex fr out) := by
    show c.stampParsedMeta canIndex fr out = _
    rw [stampParsedMeta, if_neg (fun h => h.1 (hcanName.trans hname)), ← pcuInstanceByCan_init]
  cases hinst : boundInstance links canIndex with
  | none =>
    rw [hinst] at hd
    rw [hd]
    refine ⟨hcanName.trans hname, hcanStatus, hcanNum, hcan, ?_⟩
    rw [hcanValue]
    rfl
  | some inst =>
    have hrange := boundInstance_range hinst
    obtain ⟨hpcuName, hpcuStatus, hpcuNum, hpcuValue⟩ :=
      stampPcu_spec canIndex (stampCan canIndex fr out) hrange
    rw [hinst] at hd
    have hstamp : d = stampPcu canIndex inst (stampCan canIndex fr out) :=
      hd.trans (if_neg (by omega))
    rw [hstamp]
    refine ⟨hpcuName.trans (hcanName.trans hname), hpcuStatus.trans hcanStatus,
      hpcuNum.trans hcanNum, ?_, ?_⟩
    · intro k hk
      have hkeys := hk
      simp only [stampedKeys, List.mem_cons, List.not_mem_nil, or_false, not_or] at hkeys
      rw [hpcuValue, Dict.get_insert_of_ne _ hkeys.2.2.2.2.2,
        Dict.get_insert_of_ne _ hkeys.2.2.2.2.1, Dict.get_insert_of_ne _ hkeys.2.2.2.1]
      exact hcan k hk
    · rw [hpcuValue]
      rfl

/-! ### The frame of a PCU -/

/-- A frame that a protocol bound to its interface accepts. -/
def Accepted (links : List CanRxLink) (bms : Option Int) (canIndex : Int) (fr : CanFrame) : Prop :=
  bms ≠ some canIndex ∧ ∃ id ∈ boundId links canIndex, IsStatus id fr

instance (links : List CanRxLink) (bms : Option Int) (canIndex : Int) (fr : CanFrame) :
    Decidable (Accepted links bms canIndex fr) :=
  decidable_of_iff
    (bms ≠ some canIndex ∧ ((boundId links canIndex).any fun id => decide (IsStatus id fr)) = true)
    (by
      rw [Accepted, Option.any_eq_true]
      simp only [decide_eq_true_eq, Option.mem_def])

end CanDispatcher
end EnergyStorage
