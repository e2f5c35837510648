import EnergyStorage.App.HealthMerge
import EnergyStorage.Logic.PcuOnline
import EnergyStorage.Protocol.CanDispatcher

/-! # From a CAN frame to the state of its PCU

The parser thread hands a frame to the dispatcher, the parsed data go under the name of their PCU
to the control loop, and the logic writes them into the state of that PCU.  The number of the PCU
is put on at one end by the configuration of the interface, and read at the other. -/

namespace EnergyStorage
namespace App

open Lib
open Aggregator (instanceUnder)
open Pcu (IsStatus Reports Shows observeStatus parsePcuStatus tryResolvePcuInstance
  readU32FromDeviceData)
open CanDispatcher (boundId boundInstance Accepted stampedKeys)

structure CanRxPacket where
  canIndex : Int
  frame : CanFrame

/-- The branch of `threadLoop` for a CAN frame: the message for `onParsed`, and the frame that was
queued for the BMS worker. -/
def onCan (c : CanDispatcher) (rx : CanRxPacket) (nowMs : Nat) :
    Option ParserMessage × Option BmsFrame :=
  match c.handle rx.canIndex rx.frame nowMs {} with
  | (.parsed, d, queued) => (some ⟨.deviceData, .can, rx.canIndex, d⟩, queued)
  | (.consumed, _, queued) => (none, queued)
  | (_, _, queued) => (some ⟨.parseError, .can, rx.canIndex, {}⟩, queued)

/-- What the control loop gets of the message. -/
def controlData (c : CanDispatcher) (rx : CanRxPacket) (nowMs : Nat) : Option DeviceData :=
  (onCan c rx nowMs).1.bind ParserMessage.handedOn

/-- A frame on an interface, or another event for the control loop. -/
inductive CanInput
  | can (rx : CanRxPacket) (nowMs : Nat)
  | other (e : Logic.Event)

def events (c : CanDispatcher) : CanInput → List Logic.Event
  | .can rx nowMs => (controlData c rx nowMs).toList.map fun d => ⟨nowMs, .deviceData d⟩
  | .other e => [e]

def queuedOf (c : CanDispatcher) : CanInput → Option BmsFrame
  | .can rx nowMs => (onCan c rx nowMs).2
  | .other _ => none

/-- The dispatcher of a configuration. -/
def dispatcher (links : List CanRxLink) (bms : Option Int) : CanDispatcher :=
  { CanDispatcher.init links with bmsCanIndex := bms }

/-- The frame is a status of PCU `i`: it came over an interface of that PCU. -/
def IsStatusOf (links : List CanRxLink) (bms : Option Int) (i : Fin 2) (rx : CanRxPacket) : Prop :=
  Accepted links bms rx.canIndex rx.frame ∧ boundInstance links rx.canIndex = some (i.val + 1)

instance (links : List CanRxLink) (bms : Option Int) (i : Fin 2) (rx : CanRxPacket) :
    Decidable (IsStatusOf links bms i rx) :=
  inferInstanceAs (Decidable (_ ∧ _))

/-- The status frames of PCU `i` with the times of their events. -/
def statusOf (links : List CanRxLink) (bms : Option Int) (i : Fin 2) :
    CanInput → Option (CanFrame × Nat)
  | .can rx nowMs => if IsStatusOf links bms i rx then some (rx.frame, nowMs) else none
  | .other _ => none

section Frame

variable {links : List CanRxLink} {bms : Option Int} {rx : CanRxPacket} (nowMs : Nat)

/-- A frame on the interface of the batteries is no message. -/
theorem onCan_bms (h : bms = some rx.canIndex) :
    onCan (dispatcher links bms) rx nowMs =
      (none, CanDispatcher.queued rx.canIndex nowMs rx.frame) := by
  rw [onCan, CanDispatcher.handle, if_pos (show (dispatcher links bms).bmsCanIndex = _ from h)]

/-- Another frame that no protocol accepts is a parse error. -/
theorem onCan_refused (hbms : bms ≠ some rx.canIndex)
    (h : ∀ id ∈ boundId links rx.canIndex, ¬ IsStatus id rx.frame) :
    onCan (dispatcher links bms) rx nowMs =
      (some ⟨.parseError, .can, rx.canIndex, {}⟩, none) := by
  rw [onCan, CanDispatcher.handle,
    if_neg (show ¬ (dispatcher links bms).bmsCanIndex = _ from hbms)]
  have hbound : (dispatcher links bms).protoByCan.get rx.canIndex = boundId links rx.canIndex :=
    CanDispatcher.protoByCan_init links rx.canIndex
  rw [hbound]
  cases hid : boundId links rx.canIndex with
  | none => rfl
  | some id =>
    dsimp only
    rw [Pcu.parsePcuStatus_of_not_status (h id hid)]

/-- An accepted frame is parsed, and the data carry the number of the PCU behind the interface. -/
theorem onCan_accepted (h : Accepted links bms rx.canIndex rx.frame) :
    ∃ d, onCan (dispatcher links bms) rx nowMs =
        (some ⟨.deviceData, .can, rx.canIndex, d⟩, none) ∧
      d.deviceName = "PCU" ∧ Reports d rx.frame ∧ d.num = Dict.empty ∧
      d.value.get "pcu_instance" = none ∧ d.status.get "__pcu.instance" = none ∧
      d.status.get "pcu_instance" = none ∧
      d.value.get "__pcu.instance" = (boundInstance links rx.canIndex).map Int.ofNat := by
  obtain ⟨hbms, id, hid, hstatus⟩ := h
  obtain ⟨d, hparse, hname⟩ := Pcu.parsePcuStatus_of_status hstatus {}
  have hreports := Pcu.reports_of_parse hparse rfl
  have hvalues : d.value.get "pcu_instance" = none ∧ d.value.get "__pcu.instance" = none ∧
      d.status.get "__pcu.instance" = none ∧ d.status.get "pcu_instance" = none ∧
      d.num = Dict.empty := by
    rw [parsePcuStatus] at hparse
    split_ifs at hparse
    cases hparse
    exact ⟨rfl, rfl, rfl, rfl, rfl⟩
  obtain ⟨hnewName, hnewStatus, hnewNum, hkept, hinstance⟩ :=
    CanDispatcher.stampParsedMeta_pcu links bms rx.canIndex rx.frame hname
  refine ⟨(dispatcher links bms).stampParsedMeta rx.canIndex rx.frame d, ?_, hnewName, ?_,
    hnewNum.trans hvalues.2.2.2.2, ?_, ?_, ?_, ?_⟩
  · have hbound : (dispatcher links bms).protoByCan.get rx.canIndex = some id :=
      (CanDispatcher.protoByCan_init links rx.canIndex).trans hid
    rw [onCan, CanDispatcher.handle,
      if_neg (show ¬ (dispatcher links bms).bmsCanIndex = _ from hbms), hbound]
    dsimp only
    rw [hparse]
  · refine hreports.congr (fun k hk => hkept k ?_) hnewStatus
    revert k
    decide
  · exact (hkept "pcu_instance" (by decide)).trans hvalues.1
  · exact (congrArg (fun s : Dict String Nat => s.get "__pcu.instance") hnewStatus).trans
      hvalues.2.2.1
  · exact (congrArg (fun s : Dict String Nat => s.get "pcu_instance") hnewStatus).trans
      hvalues.2.2.2.1
  · rw [show (dispatcher links bms).stampParsedMeta rx.canIndex rx.frame d =
      ({ CanDispatcher.init links with bmsCanIndex := bms } : CanDispatcher).stampParsedMeta
        rx.canIndex rx.frame d from rfl, hinstance]
    cases boundInstance links rx.canIndex with
    | none => exact hvalues.2.1
    | some inst => rfl

/-- The data under the name of PCU `inst - 1`. -/
theorem normalize_reports {d : DeviceData} {fr : CanFrame} (linkIndex : Int) {inst : Nat}
    (hname : d.deviceName = "PCU") (hreports : Reports d fr)
    (hinstance : d.value.get "__pcu.instance" = some (inst : Int)) (hrange : inst = 1 ∨ inst = 2) :
    let d' := normalizePcuDeviceData ⟨.deviceData, .can, linkIndex, d⟩
    Logic.isPcuName d'.deviceName = true ∧ Reports d' fr ∧
      tryResolvePcuInstance d' = some (inst - 1) := by
  intro d'
  have hinst : pcuInstanceFromDeviceData d = inst := by
    rw [pcuInstanceFromDeviceData, instanceUnder, hinstance]
    rcases hrange with rfl | rfl
    · rfl
    · rfl
  have hbase : pcuRuntimeNameFromInstance (pcuInstanceFromDeviceData d) ≠ "" := by
    apply pcuRuntimeName_ne
    rw [hinst]
    omega
  have hd' : d' = normalizePcuDeviceData ⟨.deviceData, .can, linkIndex, d⟩ := rfl
  rw [normalizePcuDeviceData] at hd'
  dsimp only at hd'
  rw [if_neg (not_not.mpr rfl), if_neg (fun h => h.1 hname), if_neg hbase,
    if_neg (by rw [hname]; decide), hinst] at hd'
  have hnumber : d'.value.get "__pcu.instance" = some (inst : Int) := by
    rw [hd']
    rfl
  refine ⟨?_, ?_, ?_⟩
  · rw [hd']
    rcases hrange with rfl | rfl
    · rfl
    · rfl
  · rw [hd']
    refine hreports.congr ?_ rfl
    intro k hk
    simp only [DeviceData.setStr_value, DeviceData.setValue_value]
    rw [Dict.get_insert_of_ne, Dict.get_insert_of_ne, Dict.get_insert_of_ne]
    all_goals
      revert k
      decide
  · rw [tryResolvePcuInstance, readU32FromDeviceData, hnumber]
    rcases hrange with rfl | rfl
    · rfl
    · rfl

/-- Without a number the data are those of no PCU. -/
theorem normalize_of_unnumbered {d : DeviceData} {linkIndex : Int} (hname : d.deviceName = "PCU")
    (hnum : d.num = Dict.empty)
    (hvalue : d.value.get "__pcu.instance" = none ∧ d.value.get "pcu_instance" = none)
    (hstatus : d.status.get "__pcu.instance" = none ∧ d.status.get "pcu_instance" = none) :
    tryResolvePcuInstance (normalizePcuDeviceData ⟨.deviceData, .can, linkIndex, d⟩) = none := by
  have hinst : pcuInstanceFromDeviceData d = 0 := by
    rw [pcuInstanceFromDeviceData, instanceUnder, instanceUnder, hvalue.1, hvalue.2]
    rfl
  rw [normalize_of_no_instance rfl hname hinst]
  have hread : ∀ key ∈ ["__pcu.instance", "pcu_instance"],
      readU32FromDeviceData (d.setValue "__can_index" linkIndex) key = none := by
    intro key hkey
    have hkeys : key = "__pcu.instance" ∨ key = "pcu_instance" := by simpa using hkey
    have hnum' : (d.setValue "__can_index" linkIndex).num = Dict.empty := hnum
    have hstatus' : (d.setValue "__can_index" linkIndex).status = d.status := rfl
    rw [readU32FromDeviceData, hnum', hstatus', DeviceData.setValue_value]
    rcases hkeys with rfl | rfl
    · rw [Dict.get_insert_of_ne _ (by decide), hvalue.1, hstatus.1]
      rfl
    · rw [Dict.get_insert_of_ne _ (by decide), hvalue.2, hstatus.2]
      rfl
  rw [tryResolvePcuInstance, hread _ List.mem_cons_self,
    hread _ (List.mem_cons_of_mem _ List.mem_cons_self)]
  have hkept : (d.setValue "__can_index" linkIndex).deviceName = "PCU" := hname
  rw [hkept]
  rfl

/-- What the control loop gets of an accepted frame. -/
theorem controlData_accepted (h : Accepted links bms rx.canIndex rx.frame) (i : Fin 2) :
    ∃ d, controlData (dispatcher links bms) rx nowMs = some d ∧
      (boundInstance links rx.canIndex = some (i.val + 1) →
        Reports d rx.frame ∧
          Logic.frameOf i d nowMs = some ⟨rx.frame.byte 0, nowMs⟩) ∧
      (boundInstance links rx.canIndex ≠ some (i.val + 1) → Logic.frameOf i d nowMs = none) := by
  obtain ⟨d, hparsed, hname, hreports, hnum, hvalue, hstatus, hstatus', hinstance⟩ :=
    onCan_accepted nowMs h
  have hcontrol : controlData (dispatcher links bms) rx nowMs =
      some (normalizePcuDeviceData ⟨.deviceData, .can, rx.canIndex, d⟩) := by
    rw [controlData, hparsed]
    refine if_pos ⟨rfl, ?_⟩
    show d.deviceName ≠ "BMS"
    rw [hname]
    decide
  refine ⟨_, hcontrol, ?_, ?_⟩
  · intro hbound
    rw [hbound] at hinstance
    obtain ⟨hpcu, hreports', hresolve⟩ := normalize_reports rx.canIndex hname
      hreports hinstance (by omega)
    refine ⟨hreports', ?_⟩
    rw [Logic.frameOf, if_pos ⟨hpcu, hresolve⟩, hreports'.tryGetPcuHeartbeat]
    rfl
  · intro hbound
    have hresolve : tryResolvePcuInstance
        (normalizePcuDeviceData ⟨.deviceData, .can, rx.canIndex, d⟩) ≠ some i.val := by
      cases hinst : boundInstance links rx.canIndex with
      | none =>
        rw [hinst] at hinstance
        rw [normalize_of_unnumbered hname hnum ⟨hinstance, hvalue⟩ ⟨hstatus, hstatus'⟩]
        exact (Option.some_ne_none _).symm
      | some inst =>
        rw [hinst] at hinstance hbound
        have hrange := CanDispatcher.boundInstance_range hinst
        obtain ⟨-, -, hresolve⟩ := normalize_reports rx.canIndex hname hreports
          hinstance hrange
        rw [hresolve]
        intro heq
        have hi : inst - 1 = i.val := Option.some_inj.mp heq
        apply hbound
        congr 1
        omega
    exact if_neg fun hframe => hresolve hframe.2

/-- Of a frame that is not accepted it gets nothing. -/
theorem controlData_of_not_accepted (h : ¬ Accepted links bms rx.canIndex rx.frame) :
    controlData (dispatcher links bms) rx nowMs = none := by
  by_cases hbms : bms = some rx.canIndex
  · rw [controlData, onCan_bms nowMs hbms]
    rfl
  · rw [controlData, onCan_refused nowMs hbms fun id hid hstatus => h ⟨hbms, id, hid, hstatus⟩]
    rfl

end Frame

/-! ### Runs -/

section Run

variable (links : List CanRxLink) (bms : Option Int) (sys : Option (List Logic.CanLinkCfg))
  (map : Option Logic.HmiMapModel) (i : Fin 2)

/-- The state of a PCU after inputs. -/
def stateAfter (xs : List CanInput) : Pcu.PcuOnlineState :=
  ((Logic.logicLoop sys map).run (xs.flatMap (events (dispatcher links bms)))).ctx.pcuState i

/-- The state shows the last status frame, or nothing if there was none. -/
def ShowsLast (last : Option (CanFrame × Nat)) (st : Pcu.PcuOnlineState) : Prop :=
  match last with
  | none => st.seenOnce = false ∧ st.hasLastHeartbeat = false ∧ st.pcuStateValid = false ∧
      st.estop = false
  | some (fr, ts) => Shows fr ts st

variable {links bms sys map i}

theorem ShowsLast.aged {last : Option (CanFrame × Nat)} {st : Pcu.PcuOnlineState}
    (h : ShowsLast last st) (t rx hb : Nat) :
    ShowsLast last (Pcu.updateOnePcuRuntimeHealth st t rx hb) := by
  cases last with
  | none => exact h
  | some f => exact Shows.updateOnePcuRuntimeHealth h t rx hb

/-- An event without a frame of the PCU only ages its state. -/
theorem ShowsLast.onEvent {last : Option (CanFrame × Nat)} {s : Logic.LogicState}
    (h : ShowsLast last (s.ctx.pcuState i)) {e : Logic.Event} (he : Logic.pcuFrame i e = none) :
    ShowsLast last ((Logic.LogicEngine.onEvent s e).1.ctx.pcuState i) := by
  rcases Logic.pcuState_onEvent s e i with ⟨d, f, hf, -⟩ | ⟨-, hst⟩ | ⟨t, -, hst⟩
  · rw [he] at hf
    cases hf
  · rw [hst]
    exact h
  · rw [hst]
    exact h.aged t _ _

/-- A frame on an interface. -/
theorem ShowsLast.can {last : Option (CanFrame × Nat)} {s : Logic.LogicState}
    (h : ShowsLast last (s.ctx.pcuState i)) (rx : CanRxPacket) (nowMs : Nat) :
    ShowsLast ((statusOf links bms i (.can rx nowMs)).or last)
      (((Logic.logicLoop sys map).runFrom s
        (events (dispatcher links bms) (.can rx nowMs))).ctx.pcuState i) := by
  rw [events, statusOf]
  by_cases haccepted : Accepted links bms rx.canIndex rx.frame
  · obtain ⟨d, hdata, hown, hforeign⟩ := controlData_accepted nowMs haccepted i
    have hevent : ((Logic.logicLoop sys map).runFrom s
        (events (dispatcher links bms) (.can rx nowMs))).ctx.pcuState i =
        (Logic.LogicEngine.onEvent s ⟨nowMs, .deviceData d⟩).1.ctx.pcuState i := by
      rw [events, hdata]
      rfl
    rw [events] at hevent
    rw [hevent]
    by_cases hbound : boundInstance links rx.canIndex = some (i.val + 1)
    · obtain ⟨hreports, hframe⟩ := hown hbound
      rw [if_pos ⟨haccepted, hbound⟩]
      have hobserve : (Logic.LogicEngine.onEvent s ⟨nowMs, .deviceData d⟩).1.ctx.pcuState i =
          Pcu.observePcu d (rx.frame.byte 0) nowMs (s.ctx.pcuState i) := by
        refine (Logic.pcuState_onDeviceData i d nowMs { s.ctx with lastEventTs := nowMs }).trans ?_
        rw [hframe]
        rfl
      rw [hobserve, hreports.observePcu]
      exact Pcu.shows_observeStatus rx.frame nowMs (s.ctx.pcuState i)
    · rw [if_neg (fun hstatus => hbound hstatus.2)]
      exact h.onEvent (hforeign hbound)
  · rw [if_neg (fun hstatus => haccepted hstatus.1), controlData_of_not_accepted nowMs haccepted]
    exact h

variable (links bms sys map i)

theorem showsLast_start : ShowsLast none (stateAfter links bms sys map i []) := by
  rw [stateAfter, List.flatMap_nil]
  show ShowsLast none ((Logic.logicLoop sys map).start.ctx.pcuState i)
  rw [Logic.pcuState_start]
  exact ⟨rfl, rfl, rfl, rfl⟩

/-- The frames of the BMS interface, as its worker gets them. -/
def bmsFrameOf (bms : Option Int) : CanInput → Option BmsFrame
  | .can rx nowMs =>
    if bms = some rx.canIndex then CanDispatcher.queued rx.canIndex nowMs rx.frame else none
  | .other _ => none

theorem queuedOf_eq (x : CanInput) : queuedOf (dispatcher links bms) x = bmsFrameOf bms x := by
  cases x with
  | other e => rfl
  | can rx nowMs =>
    rw [queuedOf, bmsFrameOf]
    by_cases hbms : bms = some rx.canIndex
    · rw [if_pos hbms, onCan_bms nowMs hbms]
    · rw [if_neg hbms]
      by_cases haccepted : Accepted links bms rx.canIndex rx.frame
      · obtain ⟨d, hparsed, -⟩ := onCan_accepted nowMs haccepted
        rw [hparsed]
      · rw [onCan_refused nowMs hbms fun id hid hstatus =>
          haccepted ⟨hbms, id, hid, hstatus⟩]

/-- Whatever the frames on the interfaces and the other events are, the state of a PCU shows the
last frame that came over an interface of that PCU with its identifier, eight bytes long; the
frames of the other PCU, of the batteries and of strangers leave no trace in it.  The frames of the
batteries go to the queue of their worker, and nothing else does. -/
theorem pcu_shows_own_status (xs : List CanInput)
    (hother : ∀ e, CanInput.other e ∈ xs → Logic.pcuFrame i e = none) :
    ShowsLast ((xs.filterMap (statusOf links bms i)).getLast?)
        (stateAfter links bms sys map i xs) ∧
      xs.filterMap (queuedOf (dispatcher links bms)) = xs.filterMap (bmsFrameOf bms) ∧
      ∀ rx nowMs, CanInput.can rx nowMs ∈ xs → bms = some rx.canIndex →
        controlData (dispatcher links bms) rx nowMs = none := by
  refine ⟨?_, ?_, ?_⟩
  · induction xs using List.reverseRecOn with
    | nil => exact showsLast_start links bms sys map i
    | append_singleton xs x ih =>
      have hshows := ih fun e he => hother e (List.mem_append_left [x] he)
      have hrun : stateAfter links bms sys map i (xs ++ [x]) =
          (((Logic.logicLoop sys map).runFrom
            ((Logic.logicLoop sys map).run (xs.flatMap (events (dispatcher links bms))))
            (events (dispatcher links bms) x))).ctx.pcuState i := by
        rw [stateAfter, List.flatMap_append, List.flatMap_singleton, Machine.run_append]
      have hlast : ((xs ++ [x]).filterMap (statusOf links bms i)).getLast? =
          (statusOf links bms i x).or (xs.filterMap (statusOf links bms i)).getLast? := by
        rw [List.filterMap_append]
        cases hx : statusOf links bms i x with
        | none => rw [List.filterMap_cons_none hx, List.filterMap_nil, List.append_nil]; rfl
        | some f => rw [List.filterMap_cons_some hx, List.filterMap_nil, List.getLast?_concat]; rfl
      rw [hrun, hlast]
      cases x with
      | can rx nowMs => exact hshows.can rx nowMs
      | other e => exact hshows.onEvent (hother e (List.mem_append_right xs List.mem_cons_self))
  · exact congrArg (fun f => xs.filterMap f) (funext (queuedOf_eq links bms))
  · intro rx nowMs _ hbms
    rw [controlData, onCan_bms nowMs hbms]
    rfl

end Run

/-- One PCU on each of two interfaces, under the same identifier. -/
def twoPcuLinks : List CanRxLink :=
  [{ canIndex := 0, enable := true, protocolType := "emu_pcu_v1", pcuInstance := 1,
      idPcuStatus := 0x1801EFA0#32 },
    { canIndex := 1, enable := true, protocolType := "emu_pcu_v1", pcuInstance := 2,
      idPcuStatus := 0x1801EFA0#32 }]

def pcuStatusFrame (bytes : BitVec 64) : CanFrame := ⟨0x9801EFA0#32, 8, bytes⟩

/-- Cabinet 3 stops in an emergency; the other PCU and a battery frame come after it. -/
def mixedInputs : List CanInput :=
  [.can ⟨0, pcuStatusFrame 0x03020107#64⟩ 100, .other ⟨110, .tick 110⟩,
    .can ⟨1, pcuStatusFrame 0x04000009#64⟩ 120, .can ⟨2, pcuStatusFrame 0#64⟩ 130]

theorem pcu_shows_own_status_mixed :
    Shows (pcuStatusFrame 0x03020107#64) 100
        (stateAfter twoPcuLinks (some 2) none none 0 mixedInputs) ∧
      Shows (pcuStatusFrame 0x04000009#64) 120
        (stateAfter twoPcuLinks (some 2) none none 1 mixedInputs) := by
  have hother : ∀ i e, CanInput.other e ∈ mixedInputs → Logic.pcuFrame i e = none := by
    intro i e he
    simp only [mixedInputs, List.mem_cons, List.not_mem_nil, or_false, reduceCtorEq, false_or,
      CanInput.other.injEq] at he
    rw [he]
    rfl
  have hfirst : mixedInputs.filterMap (statusOf twoPcuLinks (some 2) 0) =
      [(pcuStatusFrame 0x03020107#64, 100)] := by
    decide
  have hsecond : mixedInputs.filterMap (statusOf twoPcuLinks (some 2) 1) =
      [(pcuStatusFrame 0x04000009#64, 120)] := by
    decide
  have hown := (pcu_shows_own_status twoPcuLinks (some 2) none none 0 mixedInputs (hother 0)).1
  have hown' := (pcu_shows_own_status twoPcuLinks (some 2) none none 1 mixedInputs (hother 1)).1
  rw [hfirst] at hown
  rw [hsecond] at hown'
  exact ⟨hown, hown'⟩

end App
end EnergyStorage
