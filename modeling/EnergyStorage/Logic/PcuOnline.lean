import EnergyStorage.Logic.Engine

/-! # When a PCU is online

Messages only leave stamps, and only ageing reads them.  So what a tick decides can be
told from the frames of the run: the time of the last one, and the time of the last
one whose heartbeat was not that of the frame before it. -/

namespace EnergyStorage
namespace Logic

open Lib
open Pcu (PcuOnlineState observePcu observeHeartbeat tryResolvePcuInstance tryGetPcuHeartbeat
  updateOnePcuRuntimeHealth pcuRxTimeoutMs pcuHbStaleMs)

/-! ### Frames -/

/-- A message of a PCU as its runtime state sees it. -/
structure PcuFrame where
  heartbeat : Nat
  tsMs : Nat
  deriving DecidableEq

def isPcuName (name : String) : Bool := name = "PCU" ∨ name = "PCU_0" ∨ name = "PCU_1"

/-- A message without an instance or a heartbeat is a frame of no PCU. -/
def frameOf (i : Fin 2) (d : DeviceData) (ts : Nat) : Option PcuFrame :=
  if isPcuName d.deviceName ∧ tryResolvePcuInstance d = some i.val then
    (tryGetPcuHeartbeat d).map fun heartbeat => ⟨heartbeat, ts⟩
  else none

def pcuFrame (i : Fin 2) (e : Event) : Option PcuFrame :=
  match e.body with
  | .deviceData d => frameOf i d e.tsMs
  | _ => none

def pcuFrames (i : Fin 2) (es : List Event) : List PcuFrame := es.filterMap (pcuFrame i)

/-- The frames whose heartbeat is not the one before, which is `prev` at first. -/
def changesFrom : Option Nat → List PcuFrame → List PcuFrame
  | _, [] => []
  | prev, f :: fs =>
    if prev = some f.heartbeat then changesFrom prev fs
    else f :: changesFrom (some f.heartbeat) fs

/-- The first heartbeat counts as a change. -/
def heartbeatChanges (fs : List PcuFrame) : List PcuFrame := changesFrom none fs

theorem changesFrom_sublist (prev : Option Nat) (fs : List PcuFrame) :
    (changesFrom prev fs).Sublist fs := by
  induction fs generalizing prev with
  | nil => exact List.Sublist.refl []
  | cons f fs ih =>
    rw [changesFrom]
    split
    · exact (ih prev).cons f
    · exact (ih _).cons_cons f

theorem changesFrom_snoc (prev : Option Nat) (fs : List PcuFrame) (f : PcuFrame) :
    changesFrom prev (fs ++ [f]) = changesFrom prev fs ++
      if (fs.getLast?.map PcuFrame.heartbeat).or prev = some f.heartbeat then [] else [f] := by
  induction fs generalizing prev with
  | nil => rfl
  | cons g fs ih =>
    have hlast : (((g :: fs).getLast?).map PcuFrame.heartbeat).or prev =
        (fs.getLast?.map PcuFrame.heartbeat).or (some g.heartbeat) := by
      rw [List.getLast?_cons]
      cases fs.getLast? <;> rfl
    rw [List.cons_append, changesFrom, changesFrom, hlast]
    by_cases hg : prev = some g.heartbeat
    · rw [if_pos hg, if_pos hg, ih, hg]
    · rw [if_neg hg, if_neg hg, ih, List.cons_append]

theorem heartbeatChanges_snoc (fs : List PcuFrame) (f : PcuFrame) :
    heartbeatChanges (fs ++ [f]) = heartbeatChanges fs ++
      if fs.getLast?.map PcuFrame.heartbeat = some f.heartbeat then [] else [f] := by
  rw [heartbeatChanges, changesFrom_snoc, Option.or_none]
  rfl

theorem pcuFrames_snoc (i : Fin 2) (es : List Event) (e : Event) :
    pcuFrames i (es ++ [e]) = pcuFrames i es ++ (pcuFrame i e).toList := by
  rw [pcuFrames, List.filterMap_append]
  cases h : pcuFrame i e with
  | none => rw [List.filterMap_cons_none h]; rfl
  | some f => rw [List.filterMap_cons_some h]; rfl

/-! ### The clock -/

/-- The time at which an event writes or reads the stamps of a PCU. -/
def clockOf (e : Event) : Option Nat :=
  match e.body with
  | .deviceData _ => some e.tsMs
  | .tick t => some t
  | .snapshot s => some s.tsMs
  | .hmiWrite _ | .hmiHeartbeat | .ioSample _ | .stop => none

def ClockMonotone (es : List Event) : Prop := (es.filterMap clockOf).Pairwise (· ≤ ·)

instance (es : List Event) : Decidable (ClockMonotone es) :=
  inferInstanceAs (Decidable (List.Pairwise _ _))

theorem clockOf_of_pcuFrame {i : Fin 2} {e : Event} {f : PcuFrame}
    (h : pcuFrame i e = some f) : clockOf e = some f.tsMs := by
  obtain ⟨tsMs, body⟩ := e
  cases body with
  | deviceData d =>
    change frameOf i d tsMs = some f at h
    rw [frameOf] at h
    split at h
    · obtain ⟨heartbeat, -, rfl⟩ := Option.map_eq_some_iff.mp h
      rfl
    · cases h
  | snapshot _ | hmiWrite _ | hmiHeartbeat | ioSample _ | tick _ | stop => cases h

theorem pcuFrames_sublist (i : Fin 2) (es : List Event) :
    ((pcuFrames i es).map PcuFrame.tsMs).Sublist (es.filterMap clockOf) := by
  induction es with
  | nil => exact List.Sublist.refl []
  | cons e es ih =>
    cases hf : pcuFrame i e with
    | none =>
      rw [pcuFrames, List.filterMap_cons_none hf]
      cases hc : clockOf e with
      | none => rw [List.filterMap_cons_none hc]; exact ih
      | some t => rw [List.filterMap_cons_some hc]; exact ih.cons t
    | some f =>
      rw [pcuFrames, List.filterMap_cons_some hf,
        List.filterMap_cons_some (clockOf_of_pcuFrame hf)]
      exact ih.cons_cons _

/-- A stamp above zero that lies at most `limit` before `t`. -/
def WithinMs (t limit stamp : Nat) : Prop := 0 < stamp ∧ t ≤ stamp + limit

theorem calcFreshByTimeout_eq_true {t limit stamp : Nat} (h : stamp ≤ t) :
    calcFreshByTimeout t stamp limit = true ↔ WithinMs t limit stamp := by
  rw [calcFreshByTimeout_iff, WithinMs]
  omega

/-- Of stamps in order, some lie within the limit exactly when the last one does. -/
theorem withinMs_getLast_iff {l : List Nat} (h : l.Pairwise (· ≤ ·)) (t limit : Nat) :
    WithinMs t limit (l.getLast?.getD 0) ↔ ∃ stamp ∈ l, WithinMs t limit stamp := by
  obtain rfl | ⟨l, last, rfl⟩ := List.eq_nil_or_concat l
  · constructor
    · rintro ⟨h0, -⟩
      cases h0
    · rintro ⟨stamp, hmem, -⟩
      cases hmem
  · rw [List.concat_eq_append] at h ⊢
    rw [List.getLast?_append_of_ne_nil _ (List.cons_ne_nil last []), List.getLast?_singleton,
      Option.getD_some]
    constructor
    · intro hlast
      exact ⟨last, List.mem_append_right l (List.mem_singleton_self last), hlast⟩
    · rintro ⟨stamp, hmem, hpos, hle⟩
      have hstamp : stamp ≤ last := by
        obtain hmem | hmem := List.mem_append.mp hmem
        · exact (List.pairwise_append.mp h).2.2 stamp hmem last (List.mem_singleton_self last)
        · exact (List.mem_singleton.mp hmem).le
      exact ⟨by omega, by omega⟩

/-! ### One event -/

def LogicContext.pcuState (ctx : LogicContext) (i : Fin 2) : PcuOnlineState :=
  if i = 0 then ctx.pcu0State else ctx.pcu1State

theorem observePcu_spec (d : DeviceData) (heartbeat ts : Nat) (st : PcuOnlineState) :
    let st' := observePcu d heartbeat ts st
    st'.seenOnce = true ∧ st'.lastRxMs = ts ∧ st'.hasLastHeartbeat = true ∧
      st'.lastHeartbeat = heartbeat ∧
      st'.lastHbChangeMs =
        (if st.hasLastHeartbeat = true ∧ st.lastHeartbeat = heartbeat then st.lastHbChangeMs
        else ts) ∧
      st'.online = st.online ∧ st'.disconnectCount = st.disconnectCount := by
  intro st'
  by_cases hhas : st.hasLastHeartbeat = true
  · by_cases heq : st.lastHeartbeat = heartbeat
    · have hst : st' = observePcu d heartbeat ts st := rfl
      rw [observePcu, observeHeartbeat, if_neg (not_not.mpr hhas), if_pos heq] at hst
      rw [hst, if_pos ⟨hhas, heq⟩]
      exact ⟨rfl, rfl, hhas, heq, rfl, rfl, rfl⟩
    · have hst : st' = observePcu d heartbeat ts st := rfl
      rw [observePcu, observeHeartbeat, if_neg (not_not.mpr hhas), if_neg heq] at hst
      rw [hst, if_neg fun h => heq h.2]
      exact ⟨rfl, rfl, hhas, rfl, rfl, rfl, rfl⟩
  · have hst : st' = observePcu d heartbeat ts st := rfl
    rw [observePcu, observeHeartbeat, if_pos hhas] at hst
    rw [hst, if_neg fun h => hhas h.1]
    exact ⟨rfl, rfl, rfl, rfl, rfl, rfl, rfl⟩

/-- The state of a PCU changes with its own frames alone. -/
theorem pcuState_onDeviceData (i : Fin 2) (d : DeviceData) (ts : Nat) (ctx : LogicContext) :
    (onDeviceData d ts ctx).pcuState i =
      match frameOf i d ts with
      | some f => observePcu d f.heartbeat ts (ctx.pcuState i)
      | none => ctx.pcuState i := by
  by_cases hname : isPcuName d.deviceName = true
  · have honly : onDeviceData d ts ctx = updatePcuOnlineState d ts ctx := by
      have hnames : d.deviceName = "PCU" ∨ d.deviceName = "PCU_0" ∨ d.deviceName = "PCU_1" :=
        of_decide_eq_true hname
      obtain h | h | h := hnames
      all_goals
        unfold onDeviceData
        rw [h]
        rfl
    rw [honly, updatePcuOnlineState, frameOf]
    simp only [hname, true_and]
    -- Only the indices 0 and 1 are slots; the frame is the slot's when they agree.
    obtain hi | hi : i = 0 ∨ i = 1 := by omega
    all_goals
      rw [hi]
      cases tryGetPcuHeartbeat d with
      | none =>
        split
        all_goals simp_all
      | some heartbeat =>
        obtain _ | _ | _ | r := tryResolvePcuInstance d
        all_goals rfl
  · have hframe : frameOf i d ts = none := if_neg fun h => hname h.1
    have hnot : ¬ (d.deviceName = "PCU" ∨ d.deviceName = "PCU_0" ∨ d.deviceName = "PCU_1") :=
      fun h => hname (decide_eq_true h)
    rw [hframe, onDeviceData, if_neg hnot]
    split
    · rfl
    split
    · rfl
    split
    · rfl
    split
    · rfl
    split
    · rfl
    · rfl

theorem updateOnePcuRuntimeHealth_online {st : PcuOnlineState} {t rx hb : Nat} :
    (updateOnePcuRuntimeHealth st t rx hb).online = true ↔
      (st.seenOnce = true ∧ calcFreshByTimeout t st.lastRxMs rx = true) ∧
        (st.hasLastHeartbeat = true ∧ calcFreshByTimeout t st.lastHbChangeMs hb = true) := by
  have hcode : ∀ seen rxAlive hbAlive : Bool,
      (decide ((if ¬ seen = true then 1 else if ¬ (seen && rxAlive) = true then 2 else
        if ¬ hbAlive = true then 3 else 0) = 0) = true ↔
      (seen = true ∧ rxAlive = true) ∧ hbAlive = true) := by
    decide
  rw [← Bool.and_eq_true st.hasLastHeartbeat]
  exact hcode st.seenOnce _ _

/-- What the frames received so far leave in the state of their PCU. -/
structure Observed (fs : List PcuFrame) (st : PcuOnlineState) : Prop where
  seen : st.seenOnce = fs.getLast?.isSome
  lastRx : st.lastRxMs = (fs.map PcuFrame.tsMs).getLast?.getD 0
  has : st.hasLastHeartbeat = fs.getLast?.isSome
  heartbeat : ∀ f ∈ fs.getLast?, st.lastHeartbeat = f.heartbeat
  change : st.lastHbChangeMs = ((heartbeatChanges fs).map PcuFrame.tsMs).getLast?.getD 0

theorem Observed.observePcu {fs : List PcuFrame} {st : PcuOnlineState} (h : Observed fs st)
    (d : DeviceData) (f : PcuFrame) :
    Observed (fs ++ [f]) (observePcu d f.heartbeat f.tsMs st) := by
  obtain ⟨hseen, hrx, hhas, hhb, hchange, -, -⟩ := observePcu_spec d f.heartbeat f.tsMs st
  have hlast : (fs ++ [f]).getLast? = some f := by simp
  refine ⟨by rw [hseen, hlast]; rfl, ?_, by rw [hhas, hlast]; rfl, ?_, ?_⟩
  · rw [hrx, List.map_append, List.map_singleton]
    simp
  · intro g hg
    rw [hlast, Option.mem_some_iff] at hg
    rw [hhb, hg]
  · rw [hchange, heartbeatChanges_snoc]
    have hsame : st.hasLastHeartbeat = true ∧ st.lastHeartbeat = f.heartbeat ↔
        fs.getLast?.map PcuFrame.heartbeat = some f.heartbeat := by
      rw [h.has]
      cases hg : fs.getLast? with
      | none => simp
      | some g => simp [h.heartbeat g hg]
    by_cases heq : fs.getLast?.map PcuFrame.heartbeat = some f.heartbeat
    · rw [if_pos (hsame.mpr heq), if_pos heq, List.append_nil]
      exact h.change
    · rw [if_neg fun h => heq (hsame.mp h), if_neg heq]
      simp

theorem Observed.updateOnePcuRuntimeHealth {fs : List PcuFrame} {st : PcuOnlineState}
    (h : Observed fs st) (t rx hb : Nat) :
    Observed fs (updateOnePcuRuntimeHealth st t rx hb) :=
  ⟨h.seen, h.lastRx, h.has, h.heartbeat, h.change⟩

/-- All that an event can do to a PCU. -/
theorem pcuState_onEvent (s : LogicState) (e : Event) (i : Fin 2) :
    (∃ d f, pcuFrame i e = some f ∧ (LogicEngine.onEvent s e).1.ctx.pcuState i =
        observePcu d f.heartbeat f.tsMs (s.ctx.pcuState i)) ∨
      (pcuFrame i e = none ∧
        (LogicEngine.onEvent s e).1.ctx.pcuState i = s.ctx.pcuState i) ∨
      ∃ t, pcuFrame i e = none ∧ (LogicEngine.onEvent s e).1.ctx.pcuState i =
        updateOnePcuRuntimeHealth (s.ctx.pcuState i) t pcuRxTimeoutMs pcuHbStaleMs := by
  have hage : ∀ (ctx : LogicContext) (t : Nat), (updateRuntimeHealth ctx t).pcuState i =
      updateOnePcuRuntimeHealth (ctx.pcuState i) t pcuRxTimeoutMs pcuHbStaleMs := by
    intro ctx t
    obtain hi | hi : i = 0 ∨ i = 1 := by omega
    · rw [hi]; rfl
    · rw [hi]; rfl
  obtain ⟨tsMs, body⟩ := e
  cases body with
  | deviceData d =>
    have hmsg : (LogicEngine.onEvent s ⟨tsMs, .deviceData d⟩).1.ctx.pcuState i = _ :=
      pcuState_onDeviceData i d tsMs { s.ctx with lastEventTs := tsMs }
    cases hf : frameOf i d tsMs with
    | none =>
      rw [hf] at hmsg
      exact Or.inr (Or.inl ⟨hf, hmsg⟩)
    | some f =>
      rw [hf] at hmsg
      have hts : f.tsMs = tsMs := (Option.some_inj.mp (clockOf_of_pcuFrame
        (e := ⟨tsMs, .deviceData d⟩) hf)).symm
      refine Or.inl ⟨d, f, hf, ?_⟩
      rw [hts]
      exact hmsg
  | snapshot snap =>
    exact Or.inr (Or.inr ⟨snap.tsMs, rfl, hage { s.ctx with lastEventTs := snap.tsMs } _⟩)
  | tick t => exact Or.inr (Or.inr ⟨t, rfl, hage { s.ctx with lastEventTs := tsMs } t⟩)
  | hmiWrite _ | hmiHeartbeat | ioSample _ | stop => exact Or.inr (Or.inl ⟨rfl, rfl⟩)

/-! ### Whole runs -/

section Run

variable (sys : Option (List CanLinkCfg)) (map : Option HmiMapModel) (i : Fin 2)

theorem pcuState_start : (logicLoop sys map).start.ctx.pcuState i = {} := by
  obtain hi | hi : i = 0 ∨ i = 1 := by omega
  · rw [hi]; rfl
  · rw [hi]; rfl

theorem observed_run (es : List Event) :
    Observed (pcuFrames i es) (((logicLoop sys map).run es).ctx.pcuState i) := by
  refine (logicLoop sys map).run_induction
    (R := fun es s => Observed (pcuFrames i es) (s.ctx.pcuState i)) ?_ ?_ es
  · rw [pcuState_start]
    exact ⟨rfl, rfl, rfl, (fun f hf => nomatch hf), rfl⟩
  · intro pre e ih
    rw [pcuFrames_snoc]
    show Observed _ ((LogicEngine.onEvent _ e).1.ctx.pcuState i)
    obtain ⟨d, f, hf, hst⟩ | ⟨hf, hst⟩ | ⟨t, hf, hst⟩ :=
      pcuState_onEvent ((logicLoop sys map).run pre) e i
    · rw [hf, hst]
      exact ih.observePcu d f
    · rw [hf, hst, Option.toList_none, List.append_nil]
      exact ih
    · rw [hf, hst, Option.toList_none, List.append_nil]
      exact ih.updateOnePcuRuntimeHealth t _ _

/-- The step takes the PCU from online to offline. -/
def goesOffline (s : LogicState) (e : Event) : Bool :=
  (s.ctx.pcuState i).online && !((LogicEngine.onEvent s e).1.ctx.pcuState i).online

/-- The online-to-offline transitions of a run. -/
def disconnections (es : List Event) : List Event :=
  (logicLoop sys map).trace (fun s e => if goesOffline i s e then [e] else []) es

theorem disconnectCount_onEvent (s : LogicState) (e : Event) :
    ((LogicEngine.onEvent s e).1.ctx.pcuState i).disconnectCount =
      if goesOffline i s e then ((s.ctx.pcuState i).disconnectCount + 1) % 2 ^ 32
      else (s.ctx.pcuState i).disconnectCount := by
  have hkeep : ∀ on : Bool, (on && !on) = false := by decide
  rw [goesOffline]
  obtain ⟨d, f, -, hst⟩ | ⟨-, hst⟩ | ⟨t, -, hst⟩ := pcuState_onEvent s e i
  · obtain ⟨-, -, -, -, -, honline, hcount⟩ :=
      observePcu_spec d f.heartbeat f.tsMs (s.ctx.pcuState i)
    rw [hst, honline, hcount, hkeep]
    rfl
  · rw [hst, hkeep]
    rfl
  · rw [hst]
    generalize s.ctx.pcuState i = st
    have hcount : (updateOnePcuRuntimeHealth st t pcuRxTimeoutMs pcuHbStaleMs).disconnectCount =
        if (updateOnePcuRuntimeHealth st t pcuRxTimeoutMs pcuHbStaleMs).online ≠ st.online ∧
          ¬ (updateOnePcuRuntimeHealth st t pcuRxTimeoutMs pcuHbStaleMs).online = true then
          (st.disconnectCount + 1) % 2 ^ 32 else st.disconnectCount := rfl
    rw [hcount]
    cases (updateOnePcuRuntimeHealth st t pcuRxTimeoutMs pcuHbStaleMs).online with
    | false => cases st.online <;> rfl
    | true => cases st.online <;> rfl

theorem disconnectCount_run (es : List Event) :
    (((logicLoop sys map).run es).ctx.pcuState i).disconnectCount =
      (disconnections sys map i es).length % 2 ^ 32 := by
  refine (logicLoop sys map).run_induction (R := fun es s =>
    (s.ctx.pcuState i).disconnectCount = (disconnections sys map i es).length % 2 ^ 32) ?_ ?_ es
  · rw [pcuState_start]
    rfl
  · intro pre e ih
    rw [disconnections, Machine.trace_snoc]
    show ((LogicEngine.onEvent _ e).1.ctx.pcuState i).disconnectCount = _
    rw [disconnectCount_onEvent, ih]
    by_cases hdrop : goesOffline i ((logicLoop sys map).run pre) e = true
    · rw [if_pos hdrop, if_pos hdrop, List.length_append, List.length_singleton,
        Nat.mod_add_mod]
      rfl
    · rw [if_neg hdrop, if_neg hdrop, List.append_nil]
      rfl

/-- What a tick at time `t` decides about a PCU, in terms of its frames. -/
theorem online_tick_iff {pre : List Event} {tsMs t : Nat}
    (hclock : ClockMonotone (pre ++ [⟨tsMs, .tick t⟩])) :
    (((logicLoop sys map).run (pre ++ [⟨tsMs, .tick t⟩])).ctx.pcuState i).online = true ↔
      (∃ f ∈ pcuFrames i pre, WithinMs t pcuRxTimeoutMs f.tsMs) ∧
        ∃ f ∈ heartbeatChanges (pcuFrames i pre), WithinMs t pcuHbStaleMs f.tsMs := by
  have hobs := observed_run sys map i pre
  have hage : ((logicLoop sys map).run (pre ++ [⟨tsMs, .tick t⟩])).ctx.pcuState i =
      updateOnePcuRuntimeHealth (((logicLoop sys map).run pre).ctx.pcuState i) t
        pcuRxTimeoutMs pcuHbStaleMs := by
    obtain hi | hi : i = 0 ∨ i = 1 := by omega
    · rw [hi, Machine.run_snoc]; rfl
    · rw [hi, Machine.run_snoc]; rfl
  rw [ClockMonotone, List.filterMap_append, List.pairwise_append] at hclock
  obtain ⟨hpre, -, hlast⟩ := hclock
  have hstamps : ∀ l : List PcuFrame, (l.map PcuFrame.tsMs).Sublist (pre.filterMap clockOf) →
      (l.map PcuFrame.tsMs).Pairwise (· ≤ ·) ∧ (l.map PcuFrame.tsMs).getLast?.getD 0 ≤ t := by
    intro l hl
    refine ⟨hpre.sublist hl, ?_⟩
    cases hg : (l.map PcuFrame.tsMs).getLast? with
    | none => exact Nat.zero_le t
    | some stamp =>
      exact hlast stamp (hl.subset (List.mem_of_getLast? hg)) t (List.mem_singleton_self t)
  obtain ⟨hrxSorted, hrxLe⟩ := hstamps _ (pcuFrames_sublist i pre)
  obtain ⟨hhbSorted, hhbLe⟩ := hstamps (heartbeatChanges (pcuFrames i pre))
    (((changesFrom_sublist none _).map _).trans (pcuFrames_sublist i pre))
  rw [hage, updateOnePcuRuntimeHealth_online, hobs.seen, hobs.has, hobs.lastRx, hobs.change,
    calcFreshByTimeout_eq_true hrxLe, calcFreshByTimeout_eq_true hhbLe,
    withinMs_getLast_iff hrxSorted, withinMs_getLast_iff hhbSorted]
  simp only [List.mem_map, exists_exists_and_eq_and]
  constructor
  · rintro ⟨⟨-, hrx⟩, -, hhb⟩
    exact ⟨hrx, hhb⟩
  · rintro ⟨⟨f, hf, hrx⟩, hhb⟩
    have hsome : (pcuFrames i pre).getLast?.isSome = true := by
      rw [List.getLast?_isSome]
      exact List.ne_nil_of_mem hf
    exact ⟨⟨hsome, f, hf, hrx⟩, hsome, hhb⟩

/-- A frame that repeats the heartbeat before it leaves the heartbeat's deadline. -/
theorem lastHbChangeMs_repeated {pre : List Event} {e : Event} {f g : PcuFrame}
    (hf : pcuFrame i e = some f) (hg : (pcuFrames i pre).getLast? = some g)
    (heq : f.heartbeat = g.heartbeat) :
    heartbeatChanges (pcuFrames i (pre ++ [e])) = heartbeatChanges (pcuFrames i pre) ∧
      (((logicLoop sys map).run (pre ++ [e])).ctx.pcuState i).lastHbChangeMs =
        (((logicLoop sys map).run pre).ctx.pcuState i).lastHbChangeMs := by
  have hchanges : heartbeatChanges (pcuFrames i (pre ++ [e])) =
      heartbeatChanges (pcuFrames i pre) := by
    rw [pcuFrames_snoc, hf, Option.toList_some, heartbeatChanges_snoc, hg, Option.map_some,
      heq, if_pos rfl, List.append_nil]
  refine ⟨hchanges, ?_⟩
  rw [(observed_run sys map i (pre ++ [e])).change, hchanges, (observed_run sys map i pre).change]

/-- After a tick a PCU is online exactly when a frame and a heartbeat other than the one
before it, or the first one, have come in time.  Repeated heartbeats count for nothing, and
the counter counts the disconnections modulo its width. -/
theorem pcu_online (es : List Event) (hclock : ClockMonotone es) :
    (∀ pre tsMs t, pre ++ [⟨tsMs, .tick t⟩] <+: es →
        ((((logicLoop sys map).run (pre ++ [⟨tsMs, .tick t⟩])).ctx.pcuState i).online = true ↔
          (∃ f ∈ pcuFrames i pre, WithinMs t 1500 f.tsMs) ∧
            ∃ f ∈ heartbeatChanges (pcuFrames i pre), WithinMs t 3000 f.tsMs)) ∧
      (∀ pre e f g, pre ++ [e] <+: es → pcuFrame i e = some f →
        (pcuFrames i pre).getLast? = some g → f.heartbeat = g.heartbeat →
        heartbeatChanges (pcuFrames i (pre ++ [e])) = heartbeatChanges (pcuFrames i pre) ∧
          (((logicLoop sys map).run (pre ++ [e])).ctx.pcuState i).lastHbChangeMs =
            (((logicLoop sys map).run pre).ctx.pcuState i).lastHbChangeMs) ∧
      (((logicLoop sys map).run es).ctx.pcuState i).disconnectCount =
        (disconnections sys map i es).length % 2 ^ 32 := by
  refine ⟨?_, ?_, disconnectCount_run sys map i es⟩
  · intro pre tsMs t hpre
    exact online_tick_iff sys map i (hclock.sublist (hpre.sublist.filterMap clockOf))
  · intro pre e f g _ hf hg heq
    exact lastHbChangeMs_repeated sys map i hf hg heq

end Run

/-- A status frame of the first PCU, as the parser hands it on. -/
def statusFrame (heartbeat tsMs : Nat) : Event :=
  ⟨tsMs, .deviceData
    { deviceName := "PCU_0", value := Dict.empty.insert "heartbeat" heartbeat }⟩

def tickAt (t : Nat) : Event := ⟨t, .tick t⟩

theorem pcu_online_statusFrame :
    (((logicLoop none none).run
      [statusFrame 7 1000, statusFrame 8 1900, tickAt 2000]).ctx.pcuState 0).online = true := by
  have hclock : ClockMonotone [statusFrame 7 1000, statusFrame 8 1900, tickAt 2000] := by decide
  refine ((pcu_online none none 0 _ hclock).1 [statusFrame 7 1000, statusFrame 8 1900] 2000 2000
    (List.prefix_refl _)).mpr ⟨⟨⟨8, 1900⟩, ?_, ⟨by decide, by decide⟩⟩, ⟨8, 1900⟩, ?_,
      ⟨by decide, by decide⟩⟩
  · decide
  · decide

/-! ### Outages -/

/-- A new heartbeat, then nothing for five seconds. -/
def outage (n : Nat) : List Event :=
  [statusFrame (n % 2) (5000 * n + 1), tickAt (5000 * n + 1), tickAt (5000 * n + 4900)]

def outages (n : Nat) : List Event := (List.range n).flatMap outage

theorem outages_succ (n : Nat) : outages (n + 1) = outages n ++ outage n := by
  rw [outages, List.range_succ, List.flatMap_append, List.flatMap_singleton]
  rfl

theorem outages_clock (n : Nat) :
    ClockMonotone (outages n) ∧ ∀ t ∈ (outages n).filterMap clockOf, t ≤ 5000 * n := by
  induction n with
  | zero => exact ⟨List.Pairwise.nil, fun t ht => nomatch ht⟩
  | succ n ih =>
    have hclock : (outage n).filterMap clockOf =
        [5000 * n + 1, 5000 * n + 1, 5000 * n + 4900] := rfl
    rw [ClockMonotone, outages_succ, List.filterMap_append, hclock]
    constructor
    · rw [List.pairwise_append]
      refine ⟨ih.1, by simp, ?_⟩
      intro a ha b hb
      have hle := ih.2 a ha
      simp only [List.mem_cons, List.not_mem_nil, or_false] at hb
      omega
    · intro t ht
      obtain ht | ht := List.mem_append.mp ht
      · have hle := ih.2 t ht
        omega
      · simp only [List.mem_cons, List.not_mem_nil, or_false] at ht
        omega

/-- Offline, and the next outage begins with a heartbeat of its own. -/
structure Waiting (n : Nat) (st : PcuOnlineState) : Prop where
  offline : st.online = false
  fresh : st.hasLastHeartbeat = true → st.lastHeartbeat ≠ n % 2

theorem pcuFrame_statusFrame (n tsMs : Nat) :
    pcuFrame 0 (statusFrame (n % 2) tsMs) = some ⟨n % 2, tsMs⟩ := by
  obtain h | h := Nat.mod_two_eq_zero_or_one n
  · rw [h]; rfl
  · rw [h]; rfl

theorem outage_from {s : LogicState} {n : Nat} (h : Waiting n (s.ctx.pcuState 0)) :
    Waiting (n + 1) (((logicLoop none none).runFrom s (outage n)).ctx.pcuState 0) ∧
      ((logicLoop none none).traceFrom
        (fun s e => if goesOffline 0 s e then [e] else []) s (outage n)).length = 1 := by
  generalize hs1 : (LogicEngine.onEvent s (statusFrame (n % 2) (5000 * n + 1))).1 = s1
  generalize hs2 : (LogicEngine.onEvent s1 (tickAt (5000 * n + 1))).1 = s2
  generalize hs3 : (LogicEngine.onEvent s2 (tickAt (5000 * n + 4900))).1 = s3
  have hrun : (logicLoop none none).runFrom s (outage n) = s3 := by
    rw [← hs3, ← hs2, ← hs1]
    rfl
  have htrace : (logicLoop none none).traceFrom
      (fun s e => if goesOffline 0 s e then [e] else []) s (outage n) =
      (if goesOffline 0 s (statusFrame (n % 2) (5000 * n + 1)) then
        [statusFrame (n % 2) (5000 * n + 1)] else []) ++
      ((if goesOffline 0 s1 (tickAt (5000 * n + 1)) then [tickAt (5000 * n + 1)] else []) ++
      ((if goesOffline 0 s2 (tickAt (5000 * n + 4900)) then [tickAt (5000 * n + 4900)] else []) ++
        [])) := by
    rw [← hs2, ← hs1]
    rfl
  have h2 : s2.ctx.pcuState 0 = updateOnePcuRuntimeHealth (s1.ctx.pcuState 0)
      (5000 * n + 1) pcuRxTimeoutMs pcuHbStaleMs := by
    rw [← hs2]
    rfl
  have h3 : s3.ctx.pcuState 0 = updateOnePcuRuntimeHealth (s2.ctx.pcuState 0)
      (5000 * n + 4900) pcuRxTimeoutMs pcuHbStaleMs := by
    rw [← hs3]
    rfl
  obtain ⟨d, f, hf, h1⟩ | ⟨hf, -⟩ | ⟨_, hf, -⟩ :=
    pcuState_onEvent s (statusFrame (n % 2) (5000 * n + 1)) 0
  · rw [pcuFrame_statusFrame, Option.some_inj] at hf
    rw [hs1, ← hf] at h1
    obtain ⟨hseen, hrx, hhas, hhb, hchange, honline, -⟩ :=
      observePcu_spec d (n % 2) (5000 * n + 1) (s.ctx.pcuState 0)
    rw [← h1] at hseen hrx hhas hhb hchange honline
    rw [if_neg fun hsame => h.fresh hsame.1 hsame.2] at hchange
    have hoff1 : (s1.ctx.pcuState 0).online = false := honline.trans h.offline
    have hon2 : (s2.ctx.pcuState 0).online = true := by
      rw [h2, updateOnePcuRuntimeHealth_online, hseen, hrx, hhas, hchange,
        calcFreshByTimeout_iff, calcFreshByTimeout_iff]
      simp
    have hoff3 : (s3.ctx.pcuState 0).online = false := by
      rw [h3, ← Bool.not_eq_true, updateOnePcuRuntimeHealth_online, h2]
      rintro ⟨⟨-, hfresh⟩, -⟩
      change calcFreshByTimeout (5000 * n + 4900) (s1.ctx.pcuState 0).lastRxMs 1500 = true
        at hfresh
      rw [hrx, calcFreshByTimeout_iff] at hfresh
      omega
    constructor
    · rw [hrun]
      refine ⟨hoff3, fun _ => ?_⟩
      rw [h3, h2]
      show (s1.ctx.pcuState 0).lastHeartbeat ≠ (n + 1) % 2
      rw [hhb]
      omega
    · have hquiet : goesOffline 0 s (statusFrame (n % 2) (5000 * n + 1)) = false := by
        rw [goesOffline, h.offline, Bool.false_and]
      have hquiet1 : goesOffline 0 s1 (tickAt (5000 * n + 1)) = false := by
        rw [goesOffline, hoff1, Bool.false_and]
      have hdrop : goesOffline 0 s2 (tickAt (5000 * n + 4900)) = true := by
        rw [goesOffline, hs3, hon2, hoff3]
        rfl
      rw [htrace, hquiet, hquiet1, hdrop]
      rfl
  · rw [pcuFrame_statusFrame] at hf
    cases hf
  · rw [pcuFrame_statusFrame] at hf
    cases hf

theorem disconnections_outages (n : Nat) :
    Waiting n (((logicLoop none none).run (outages n)).ctx.pcuState 0) ∧
      (disconnections none none 0 (outages n)).length = n := by
  induction n with
  | zero => exact ⟨⟨rfl, fun h => nomatch h⟩, rfl⟩
  | succ n ih =>
    obtain ⟨hwait, hone⟩ := outage_from ih.1
    rw [outages_succ, Machine.run_append, disconnections, Machine.trace, Machine.traceFrom_append,
      List.length_append]
    refine ⟨hwait, ?_⟩
    rw [← Machine.run, hone]
    exact congrArg (· + 1) ih.2

/-- The first heartbeat is no change of the heartbeat, a stamp of zero counts as never, and
after 2^32 disconnections the counter is back at zero. -/
theorem single_heartbeat_online :
    ((((logicLoop none none).run [statusFrame 7 1000, tickAt 1000]).ctx.pcuState 0).online =
        true ∧
      ∀ f ∈ pcuFrames 0 [statusFrame 7 1000, tickAt 1000], f.heartbeat = 7) ∧
    (((logicLoop none none).run [statusFrame 7 0, statusFrame 8 0, tickAt 0]).ctx.pcuState
      0).online = false ∧
    ClockMonotone (outages (2 ^ 32)) ∧
      (disconnections none none 0 (outages (2 ^ 32))).length = 2 ^ 32 ∧
      (((logicLoop none none).run (outages (2 ^ 32))).ctx.pcuState 0).disconnectCount = 0 := by
  refine ⟨⟨by decide, by decide +kernel⟩, by decide +kernel,
    (outages_clock _).1, (disconnections_outages _).2, ?_⟩
  rw [disconnectCount_run, (disconnections_outages _).2, Nat.mod_self]

end Logic
end EnergyStorage
