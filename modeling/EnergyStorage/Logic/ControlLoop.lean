import EnergyStorage.Hmi.Map
import EnergyStorage.Logic.Engine

/-! # From the panel to the engine

The slave answers requests in the thread of its port and reports each written value by a
callback, which posts one event a value.  The control thread takes the events in the
order in which they were posted, those of the panel before all others. -/

namespace EnergyStorage
namespace Logic

open Lib

/-- The two queues of the control loop. -/
structure ControlLoop where
  qHigh : List Event := []
  qNormal : List Event := []

namespace ControlLoop

def isHighPriorityEvent (e : Event) : Bool :=
  match e.body with
  | .hmiWrite _ | .hmiHeartbeat | .stop => true
  | .deviceData _ | .snapshot _ | .ioSample _ | .tick _ => false

def pushEvent (q : ControlLoop) (e : Event) : ControlLoop :=
  if isHighPriorityEvent e then { q with qHigh := q.qHigh ++ [e] }
  else { q with qNormal := q.qNormal ++ [e] }

/-- With both queues empty the thread waits. -/
def popEvent (q : ControlLoop) : Option (Event × ControlLoop) :=
  match q.qHigh, q.qNormal with
  | e :: rest, _ => some (e, { q with qHigh := rest })
  | [], e :: rest => some (e, { q with qNormal := rest })
  | [], [] => none

end ControlLoop

/-- The event that the callback of the slave posts. -/
def onWriteCallback (ev : EnergyStorage.HmiWriteEvent) (nowMs : Nat) : Event :=
  ⟨nowMs, .hmiWrite
    { startAddr := ev.addr.toNat
      bits := if ev.isBool then [if ev.valueU16 ≠ 0 then 1 else 0] else []
      regs := if ev.isBool then [] else [ev.valueU16.toNat]
      tsMs := nowMs }⟩

def IsHmiWrite (e : Event) : Prop := ∃ w, e.body = .hmiWrite w

/-- An event of another component; only the callback posts writes of the panel. -/
structure OtherEvent where
  event : Event
  notWrite : ¬ IsHmiWrite event

structure PanelState where
  slave : HMIProto
  /-- Values the slave has written and not reported yet. -/
  pending : List EnergyStorage.HmiWriteEvent := []
  loop : ControlLoop := {}
  logic : LogicState

/-- Of the snapshots posted only the latest is ever taken, which is one of those here. -/
inductive PanelEvent
  | slave (op : HmiOp)
  | report (nowMs : Nat)
  | post (e : OtherEvent)
  | take

def panelStep (s : PanelState) : PanelEvent → PanelState × List Command
  | .slave op =>
    ({ s with slave := (s.slave.step op).1, pending := s.pending ++ (s.slave.step op).2 }, [])
  | .report nowMs =>
    match s.pending with
    | [] => (s, [])
    | ev :: rest =>
      ({ s with pending := rest, loop := s.loop.pushEvent (onWriteCallback ev nowMs) }, [])
  | .post e => ({ s with loop := s.loop.pushEvent e.event }, [])
  | .take =>
    match s.loop.popEvent with
    | none => (s, [])
    | some (e, loop) =>
      ({ s with loop := loop, logic := (LogicEngine.onEvent s.logic e).1 },
        (LogicEngine.onEvent s.logic e).2)

/-- The slave with its callback set, the control loop and the engine. -/
def panelLoop (sys : Option (List CanLinkCfg)) (map : Option HmiMapModel) (slaveId : Byte) :
    Machine PanelState PanelEvent Command where
  start := { slave := .start slaveId true, logic := (logicLoop sys map).start }
  step := panelStep

theorem step_take_none {s : PanelState} (h : s.loop.popEvent = none) :
    (panelStep s .take).1 = s := by
  rw [panelStep, h]

theorem step_take_some {s : PanelState} {e : Event} {loop : ControlLoop}
    (h : s.loop.popEvent = some (e, loop)) :
    (panelStep s .take).1 =
      { s with loop := loop, logic := (LogicEngine.onEvent s.logic e).1 } := by
  rw [panelStep, h]

/-! ### What passes through the queues in order -/

/-- The event that the control thread takes next. -/
def ControlLoop.next (q : ControlLoop) : Option Event := q.popEvent.map Prod.fst

section Flow

variable {α : Type*} (word : Event → Option α) (report : EnergyStorage.HmiWriteEvent → Option α)

/-- What is read off the event that a step takes. -/
def handled (s : PanelState) : PanelEvent → List α
  | .take => (s.loop.next.bind word).toList
  | _ => []

/-- What is read off the values that a step of the slave reports. -/
def issued (s : PanelState) : PanelEvent → List α
  | .slave op => (s.slave.step op).2.filterMap report
  | _ => []

/-- Only panel events are read, and as the slave reports them. -/
structure ReadsReports : Prop where
  callback : ∀ ev nowMs, word (onWriteCallback ev nowMs) = report ev
  other : ∀ e, ¬ IsHmiWrite e → word e = none

/-- The event is no write of the panel, or the callback's. -/
def Posted (e : Event) : Prop := IsHmiWrite e → ∃ ev nowMs, e = onWriteCallback ev nowMs

/-- Writes of the panel stand in their own queue. -/
structure QueuesOk (q : ControlLoop) : Prop where
  normal : ∀ e ∈ q.qNormal, ¬ IsHmiWrite e
  high : ∀ e ∈ q.qHigh, Posted e

theorem isHighPriorityEvent_of_isHmiWrite {e : Event} (h : IsHmiWrite e) :
    ControlLoop.isHighPriorityEvent e = true := by
  obtain ⟨w, hw⟩ := h
  rw [ControlLoop.isHighPriorityEvent, hw]

theorem QueuesOk.pushEvent {q : ControlLoop} (h : QueuesOk q) {e : Event} (he : Posted e) :
    QueuesOk (q.pushEvent e) := by
  rw [ControlLoop.pushEvent]
  by_cases hhigh : ControlLoop.isHighPriorityEvent e = true
  · rw [if_pos hhigh]
    refine ⟨h.normal, fun x hx => ?_⟩
    obtain hx | hx := List.mem_append.mp hx
    · exact h.high x hx
    · exact List.mem_singleton.mp hx ▸ he
  · rw [if_neg hhigh]
    refine ⟨fun x hx => ?_, h.high⟩
    obtain hx | hx := List.mem_append.mp hx
    · exact h.normal x hx
    · rw [List.mem_singleton.mp hx]
      exact fun hw => hhigh (isHighPriorityEvent_of_isHmiWrite hw)

/-- What a queue holds is what it gives first, and then what the rest holds. -/
theorem popEvent_spec {word : Event → Option α} (hother : ∀ e, ¬ IsHmiWrite e → word e = none)
    {q q' : ControlLoop} {e : Event} (h : QueuesOk q) (hpop : q.popEvent = some (e, q')) :
    QueuesOk q' ∧ Posted e ∧
      q.qHigh.filterMap word = (word e).toList ++ q'.qHigh.filterMap word := by
  obtain ⟨qHigh, qNormal⟩ := q
  cases qHigh with
  | cons x rest =>
    obtain ⟨rfl, rfl⟩ := Prod.mk.inj (Option.some_inj.mp hpop)
    refine ⟨⟨h.normal, fun y hy => h.high y (List.mem_cons_of_mem x hy)⟩,
      h.high x List.mem_cons_self, ?_⟩
    rw [List.filterMap_cons]
    cases word x <;> rfl
  | nil =>
    cases qNormal with
    | nil => cases hpop
    | cons x rest =>
      obtain ⟨rfl, rfl⟩ := Prod.mk.inj (Option.some_inj.mp hpop)
      have hx := h.normal x List.mem_cons_self
      refine ⟨⟨fun y hy => h.normal y (List.mem_cons_of_mem x hy), h.high⟩,
        fun hw => absurd hw hx, ?_⟩
      rw [hother x hx]
      rfl

variable {word report}
variable (sys : Option (List CanLinkCfg)) (map : Option HmiMapModel) (slaveId : Byte)

/-- What has been handled, what is queued and what is pending make up what was issued. -/
theorem handled_append_queued (hread : ReadsReports word report) (es : List PanelEvent) :
    QueuesOk ((panelLoop sys map slaveId).run es).loop ∧
      (panelLoop sys map slaveId).trace (handled word) es ++
          ((panelLoop sys map slaveId).run es).loop.qHigh.filterMap word ++
          ((panelLoop sys map slaveId).run es).pending.filterMap report =
        (panelLoop sys map slaveId).trace (issued report) es := by
  refine (panelLoop sys map slaveId).run_induction (R := fun es s => QueuesOk s.loop ∧
    (panelLoop sys map slaveId).trace (handled word) es ++ s.loop.qHigh.filterMap word ++
      s.pending.filterMap report = (panelLoop sys map slaveId).trace (issued report) es) ?_ ?_ es
  · exact ⟨⟨(fun e he => nomatch he), (fun e he => nomatch he)⟩, rfl⟩
  · rintro pre e ⟨hq, hflow⟩
    rw [Machine.trace_snoc, Machine.trace_snoc, ← hflow]
    generalize (panelLoop sys map slaveId).run pre = s at hq ⊢
    have hpush : ∀ x, (s.loop.pushEvent x).qHigh.filterMap word =
        s.loop.qHigh.filterMap word ++ (word x).toList := by
      intro x
      rw [ControlLoop.pushEvent]
      by_cases hhigh : ControlLoop.isHighPriorityEvent x = true
      · rw [if_pos hhigh, List.filterMap_append]
        cases hx : word x with
        | none => rw [List.filterMap_cons_none hx]; rfl
        | some a => rw [List.filterMap_cons_some hx]; rfl
      · have hnone := hread.other x fun hw => hhigh (isHighPriorityEvent_of_isHmiWrite hw)
        rw [if_neg hhigh, hnone, Option.toList_none, List.append_nil]
    cases e with
    | slave op =>
      refine ⟨hq, ?_⟩
      show _ ++ [] ++ s.loop.qHigh.filterMap word ++
        (s.pending ++ (s.slave.step op).2).filterMap report = _
      rw [List.filterMap_append, List.append_nil, ← List.append_assoc]
      rfl
    | report nowMs =>
      obtain ⟨slave, _ | ⟨ev, rest⟩, loop, logic⟩ := s
      · refine ⟨hq, ?_⟩
        show _ ++ [] ++ _ ++ _ = _ ++ []
        rw [List.append_nil, List.append_nil]
        rfl
      · have hq' : QueuesOk (loop.pushEvent (onWriteCallback ev nowMs)) :=
          hq.pushEvent fun _ => ⟨ev, nowMs, rfl⟩
        refine ⟨hq', ?_⟩
        show _ ++ [] ++ (loop.pushEvent (onWriteCallback ev nowMs)).qHigh.filterMap word ++
          rest.filterMap report = _ ++ []
        rw [hpush, hread.callback, List.append_nil, List.append_nil, List.filterMap_cons]
        cases report ev with
        | none => simp only [Option.toList_none, List.append_nil]
        | some a =>
          simp only [Option.toList_some, List.append_assoc, List.singleton_append]
    | post x =>
      refine ⟨hq.pushEvent fun hw => absurd hw x.notWrite, ?_⟩
      show _ ++ [] ++ (s.loop.pushEvent x.event).qHigh.filterMap word ++ _ = _ ++ []
      rw [hpush, hread.other x.event x.notWrite, Option.toList_none, List.append_nil,
        List.append_nil, List.append_nil]
      rfl
    | take =>
      cases hpop : s.loop.popEvent with
      | none =>
        have hstep : ((panelLoop sys map slaveId).step s .take).1 = s := step_take_none hpop
        have hnone : handled word s .take = [] := by
          rw [handled, ControlLoop.next, hpop]
          rfl
        rw [hstep, hnone, List.append_nil]
        exact ⟨hq, (List.append_nil _).symm⟩
      | some r =>
        obtain ⟨x, loop⟩ := r
        obtain ⟨hq', -, hwords⟩ := popEvent_spec hread.other hq hpop
        have hstep : ((panelLoop sys map slaveId).step s .take).1 =
          { s with loop := loop, logic := (LogicEngine.onEvent s.logic x).1 } :=
          step_take_some hpop
        have hword : handled word s .take = (word x).toList := by
          rw [handled, ControlLoop.next, hpop]
          rfl
        rw [hstep, hword, hwords]
        refine ⟨hq', ?_⟩
        simp only [List.append_assoc]
        exact congrArg _ (congrArg _ (congrArg _ (List.append_nil _).symm))

end Flow

end Logic
end EnergyStorage
