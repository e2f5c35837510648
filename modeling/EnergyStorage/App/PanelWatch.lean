import EnergyStorage.Fault.FaultSummary

/-! # Whether the panel is heard of

The parser's thread tells of the requests of the panel at most once a second, the control thread
takes what has been posted when it comes to it, and the thread of the fault pages compares the
stamp of the last one with the clock. -/

namespace EnergyStorage
namespace App

open Lib
open Fault (FaultLayer FaultEvent faultLayer)
open Fault.FaultContext (commTimedOut)

/-! ### The threads -/

/-- What the parser's thread posts about the panel. -/
inductive PanelPost
  | heartbeat (tsMs : Nat)
  | write (w : Logic.HmiWriteEvent)

namespace PanelPost

def tsMs : PanelPost → Nat
  | heartbeat t => t
  | write w => w.tsMs

def event : PanelPost → FaultEvent
  | heartbeat t => .hmiHeartbeat t
  | write w => .hmiWrite w.tsMs w

end PanelPost

/-- What has nothing to do with the panel. -/
def NotPanel : FaultEvent → Prop
  | .deviceData _ d => d.data.deviceName ≠ "HMI_SYS_HEARTBEAT"
  | .hmiWrite _ _ | .hmiHeartbeat _ | .refresh _ => False
  | .snapshot _ _ | .ioSample _ _ | .tick _ _ => True

structure OtherFaultEvent where
  event : FaultEvent
  notPanel : NotPanel event

structure PanelWatch where
  clock : Nat := 0
  /-- The static variable of the parser's loop. -/
  lastHmiHeartbeatTs : Nat := 0
  posted : List PanelPost := []
  layer : FaultLayer

inductive WatchStep
  | wait (ms : Nat)
  /-- A request that the slave has handled. -/
  | handled
  /-- A value written by a request, as the slave reports it. -/
  | write (w : Logic.HmiWriteEvent)
  /-- The control thread takes what was posted first. -/
  | deliver
  | other (e : OtherFaultEvent)
  | refresh

namespace PanelWatch

def step (s : PanelWatch) : WatchStep → PanelWatch
  | .wait ms => { s with clock := s.clock + ms }
  | .handled =>
    if s.clock - s.lastHmiHeartbeatTs > 1000 then
      { s with lastHmiHeartbeatTs := s.clock, posted := s.posted ++ [.heartbeat s.clock] }
    else s
  | .write w => { s with posted := s.posted ++ [.write { w with tsMs := s.clock }] }
  | .deliver =>
    match s.posted with
    | [] => s
    | p :: ps => { s with posted := ps, layer := s.layer.step p.event }
  | .other e => { s with layer := s.layer.step e.event }
  | .refresh => { s with layer := s.layer.step (.refresh s.clock) }

/-- The fault that the panel is silent. -/
def hmiCommFault (s : PanelWatch) : Bool := s.layer.faults.hmiCommFault

/-- When the steps of a kind are taken. -/
def times (kind : WatchStep → Bool) : PanelWatch → List WatchStep → List Nat
  | _, [] => []
  | s, e :: es => (if kind e then [s.clock] else []) ++ times kind (s.step e) es

end PanelWatch

def panelWatch (sys : Option (List Logic.CanLinkCfg)) (map : Option Logic.HmiMapModel) :
    Machine PanelWatch WatchStep Empty where
  start := { layer := (faultLayer sys map).start }
  step s e := (s.step e, [])

def isHandled : WatchStep → Bool
  | .handled => true
  | .wait _ | .write _ | .deliver | .other _ | .refresh => false

/-- A step that comes from the panel. -/
def isPanelStep : WatchStep → Bool
  | .handled | .write _ => true
  | .wait _ | .deliver | .other _ | .refresh => false

/-! ### What a step changes -/

namespace PanelWatch

/-- Whether the panel has been heard of, and the stamp of the last time. -/
def heard (l : FaultLayer) : Bool × Nat :=
  (l.logic.ctx.hmi.hmiSeenOnce, l.logic.ctx.hmi.lastHmiCommTs)

theorem heard_onHmiWrite (map : Option Logic.HmiMapModel) (ts : Nat) (w : Logic.HmiWriteEvent)
    (h : Logic.HmiControl) :
    (Logic.onHmiWrite map ts w h).hmiSeenOnce = true ∧
      (Logic.onHmiWrite map ts w h).lastHmiCommTs = w.tsMs := by
  have hclick : ∀ addr path name (h : Logic.HmiControl),
      (Logic.onHmiButtonClick addr path name ts h).hmiSeenOnce = h.hmiSeenOnce ∧
        (Logic.onHmiButtonClick addr path name ts h).lastHmiCommTs = h.lastHmiCommTs := by
    intro addr path name h
    unfold Logic.onHmiButtonClick
    split
    · exact ⟨rfl, rfl⟩
    · split <;> exact ⟨rfl, rfl⟩
  unfold Logic.onHmiWrite
  dsimp only
  split
  · unfold Logic.handleHmiCoilWrite
    dsimp only
    split
    · exact ⟨rfl, rfl⟩
    · split
      · exact ⟨rfl, rfl⟩
      · split
        · exact hclick _ _ _ _
        · exact ⟨rfl, rfl⟩
  · split
    · unfold Logic.handleHmiRegWrite
      dsimp only
      split
      · exact ⟨rfl, rfl⟩
      · split <;> exact ⟨rfl, rfl⟩
    · exact ⟨rfl, rfl⟩

theorem heard_post (l : FaultLayer) (p : PanelPost) : heard (l.step p.event) = (true, p.tsMs) := by
  cases p with
  | heartbeat t => rfl
  | write w =>
    have hwrite := heard_onHmiWrite l.logic.ctx.hmiMap w.tsMs w l.logic.ctx.hmi
    exact Prod.ext hwrite.1 hwrite.2

theorem heard_onDeviceData {d : DeviceData} (h : d.deviceName ≠ "HMI_SYS_HEARTBEAT") (ts : Nat)
    (ctx : Logic.LogicContext) : (Logic.onDeviceData d ts ctx).hmi = ctx.hmi := by
  unfold Logic.onDeviceData
  rw [if_neg h]
  split
  · rfl
  split
  · rfl
  split
  · rfl
  split
  · rfl
  split
  · unfold Logic.updatePcuOnlineState
    split <;> rfl
  · rfl

theorem heard_other (l : FaultLayer) {e : FaultEvent} (h : NotPanel e) :
    heard (l.step e) = heard l := by
  cases e with
  | deviceData ts d =>
    have hctx : (l.onDeviceData ts d).logic.ctx.hmi = l.logic.ctx.hmi := by
      rw [← heard_onDeviceData h ts { l.logic.ctx with lastEventTs := ts }]
      unfold FaultLayer.onDeviceData
      dsimp only
      split
      · rfl
      · split
        · rfl
        · split <;> rfl
    show ((l.onDeviceData ts d).logic.ctx.hmi.hmiSeenOnce,
      (l.onDeviceData ts d).logic.ctx.hmi.lastHmiCommTs) = heard l
    rw [hctx]
    rfl
  | snapshot ts snap => rfl
  | ioSample ts smp => rfl
  | tick ts t => rfl
  | hmiWrite ts w => exact h.elim
  | hmiHeartbeat ts => exact h.elim
  | refresh now => exact h.elim

theorem hmiCommFault_refresh (s : PanelWatch) :
    (s.step .refresh).hmiCommFault =
      commTimedOut (heard s.layer).1 (heard s.layer).2 10000 s.clock := rfl

theorem times_append (kind : WatchStep → Bool) (s : PanelWatch) (xs ys : List WatchStep) :
    times kind s (xs ++ ys) = times kind s xs ++ times kind (xs.foldl step s) ys := by
  induction xs generalizing s with
  | nil => rfl
  | cons x xs ih =>
    rw [List.cons_append, times, times, ih, List.foldl_cons, List.append_assoc]

/-! ### The stamps on their way -/

/-- The stamps that have been posted and not taken. -/
def stamps (s : PanelWatch) : List Nat := s.posted.map PanelPost.tsMs

/-- A stamp is on its way or has been overtaken by what was heard. -/
def Known (s : PanelWatch) (t : Nat) : Prop :=
  t ∈ s.stamps ∨ (heard s.layer).1 = true ∧ t ≤ (heard s.layer).2

/-- After requests at the times `asked`, among the other traffic of the panel at `touched`. -/
structure Tracks (asked touched : List Nat) (s : PanelWatch) : Prop where
  ordered : s.stamps.Pairwise (· ≤ ·)
  ahead : ∀ t ∈ s.stamps, (heard s.layer).2 ≤ t ∧ t ≤ s.clock
  throttle : s.lastHmiHeartbeatTs ≤ s.clock ∧
    (s.lastHmiHeartbeatTs = 0 ∨ s.Known s.lastHmiHeartbeatTs)
  past : (heard s.layer).2 ≤ s.clock
  answered : ∀ r ∈ asked, ∃ t, t ≤ r ∧ r ≤ t + 1000 ∧ (t = 0 ∨ s.Known t)
  origin : ∀ t, t ∈ s.stamps ∨ (heard s.layer).1 = true ∧ t = (heard s.layer).2 → t ∈ touched

variable {asked touched : List Nat} {s : PanelWatch}

/-- What goes on as before keeps track. -/
theorem Tracks.same (h : Tracks asked touched s) {s' : PanelWatch} (hposted : s'.posted = s.posted)
    (hlast : s'.lastHmiHeartbeatTs = s.lastHmiHeartbeatTs) (hclock : s.clock ≤ s'.clock)
    (hheard : heard s'.layer = heard s.layer) : Tracks asked touched s' := by
  have hstamps : s'.stamps = s.stamps := by rw [stamps, stamps, hposted]
  have hknown : ∀ t, s'.Known t ↔ s.Known t := by
    intro t
    rw [Known, Known, hstamps, hheard]
  have hpast := h.past
  have hthrottle := h.throttle.1
  constructor
  · rw [hstamps]
    exact h.ordered
  · intro t ht
    rw [hstamps] at ht
    have hahead := h.ahead t ht
    rw [hheard]
    omega
  · rw [hlast, hknown]
    exact ⟨by omega, h.throttle.2⟩
  · rw [hheard]
    omega
  · simp only [hknown]
    exact h.answered
  · rw [hstamps, hheard]
    exact h.origin

/-- A post at the present time goes behind all others. -/
theorem Tracks.post (h : Tracks asked touched s) {p : PanelPost} (hp : p.tsMs = s.clock)
    (s' : PanelWatch) (hposted : s'.posted = s.posted ++ [p]) (hclock : s'.clock = s.clock)
    (hlayer : s'.layer = s.layer)
    (hlast : s'.lastHmiHeartbeatTs = s.lastHmiHeartbeatTs ∨ s'.lastHmiHeartbeatTs = s.clock) :
    Tracks asked (touched ++ [s.clock]) s' ∧ s'.Known s.clock := by
  have hstamps : s'.stamps = s.stamps ++ [s.clock] := by
    rw [stamps, hposted, List.map_append, List.map_singleton, hp]
    rfl
  have hnow : s'.Known s.clock := by
    refine Or.inl ?_
    rw [hstamps]
    exact List.mem_append_right _ (List.mem_singleton_self _)
  have hknown : ∀ t, s.Known t → s'.Known t := by
    rintro t (ht | ht)
    · refine Or.inl ?_
      rw [hstamps]
      exact List.mem_append_left _ ht
    · refine Or.inr ?_
      rw [hlayer]
      exact ht
  refine ⟨?_, hnow⟩
  constructor
  · rw [hstamps, List.pairwise_append]
    refine ⟨h.ordered, List.pairwise_singleton _ _, ?_⟩
    intro t ht t' ht'
    rw [List.mem_singleton.mp ht']
    exact (h.ahead t ht).2
  · intro t ht
    rw [hstamps] at ht
    rw [hlayer, hclock]
    rcases List.mem_append.mp ht with ht | ht
    · exact h.ahead t ht
    · rw [List.mem_singleton.mp ht]
      exact ⟨h.past, Nat.le_refl _⟩
  · rw [hclock]
    rcases hlast with hlast | hlast
    · rw [hlast]
      exact ⟨h.throttle.1, h.throttle.2.imp_right (hknown _)⟩
    · rw [hlast]
      exact ⟨Nat.le_refl _, Or.inr hnow⟩
  · rw [hlayer, hclock]
    exact h.past
  · intro r hr
    obtain ⟨t, htr, hrt, ht⟩ := h.answered r hr
    exact ⟨t, htr, hrt, ht.imp_right (hknown t)⟩
  · intro t ht
    rw [hstamps, hlayer] at ht
    rcases ht with ht | ht
    · rcases List.mem_append.mp ht with ht | ht
      · exact List.mem_append_left _ (h.origin t (Or.inl ht))
      · exact List.mem_append_right _ ht
    · exact List.mem_append_left _ (h.origin t (Or.inr ht))

theorem Tracks.deliver (h : Tracks asked touched s) :
    Tracks asked touched (s.step .deliver) := by
  rw [step]
  cases hposted : s.posted with
  | nil => exact h
  | cons p ps =>
    have hstamps : s.stamps = p.tsMs :: ps.map PanelPost.tsMs := by
      rw [stamps, hposted, List.map_cons]
    have hheard := heard_post s.layer p
    have hordered := h.ordered
    have hahead := h.ahead
    rw [hstamps, List.pairwise_cons] at hordered
    rw [hstamps] at hahead
    have hfirst := hahead p.tsMs List.mem_cons_self
    have hknown : ∀ t, s.Known t →
        Known { s with posted := ps, layer := s.layer.step p.event } t := by
      rintro t (ht | ht)
      · rw [hstamps] at ht
        rcases List.mem_cons.mp ht with rfl | ht
        · refine Or.inr ?_
          rw [hheard]
          exact ⟨rfl, Nat.le_refl _⟩
        · exact Or.inl ht
      · refine Or.inr ?_
        rw [hheard]
        exact ⟨rfl, by show t ≤ p.tsMs; omega⟩
    constructor
    · exact hordered.2
    · intro t ht
      rw [hheard]
      exact ⟨hordered.1 t ht, (hahead t (List.mem_cons_of_mem _ ht)).2⟩
    · exact ⟨h.throttle.1, h.throttle.2.imp_right (hknown _)⟩
    · rw [hheard]
      exact hfirst.2
    · intro r hr
      obtain ⟨t, htr, hrt, ht⟩ := h.answered r hr
      exact ⟨t, htr, hrt, ht.imp_right (hknown t)⟩
    · intro t ht
      rw [hheard] at ht
      apply h.origin t
      rw [hstamps]
      rcases ht with ht | ⟨-, ht⟩
      · exact Or.inl (List.mem_cons_of_mem _ ht)
      · rw [ht]
        exact Or.inl List.mem_cons_self

/-- A request is told of, or has been told of less than a second ago. -/
theorem Tracks.handled (h : Tracks asked touched s) :
    Tracks (asked ++ [s.clock]) (touched ++ [s.clock]) (s.step .handled) := by
  have hthrottle := h.throttle
  rw [step]
  by_cases hlong : s.clock - s.lastHmiHeartbeatTs > 1000
  · rw [if_pos hlong]
    obtain ⟨hpost, hnow⟩ := h.post (p := .heartbeat s.clock) rfl
      { s with lastHmiHeartbeatTs := s.clock, posted := s.posted ++ [.heartbeat s.clock] }
      rfl rfl rfl (Or.inr rfl)
    refine ⟨hpost.ordered, hpost.ahead, hpost.throttle, hpost.past, ?_, hpost.origin⟩
    intro r hr
    rcases List.mem_append.mp hr with hr | hr
    · exact hpost.answered r hr
    · rw [List.mem_singleton.mp hr]
      exact ⟨s.clock, Nat.le_refl _, by omega, Or.inr hnow⟩
  · rw [if_neg hlong]
    refine ⟨h.ordered, h.ahead, hthrottle, h.past, ?_, ?_⟩
    · intro r hr
      rcases List.mem_append.mp hr with hr | hr
      · exact h.answered r hr
      · rw [List.mem_singleton.mp hr]
        exact ⟨s.lastHmiHeartbeatTs, hthrottle.1, by omega, hthrottle.2⟩
    · intro t ht
      exact List.mem_append_left _ (h.origin t ht)

theorem Tracks.step (h : Tracks asked touched s) (e : WatchStep) :
    Tracks (asked ++ times isHandled s [e]) (touched ++ times isPanelStep s [e]) (s.step e) := by
  cases e with
  | wait ms =>
    simp only [times, isHandled, isPanelStep, Bool.false_eq_true, if_false, List.append_nil]
    exact h.same rfl rfl (Nat.le_add_right _ ms) rfl
  | handled => exact h.handled
  | write w =>
    simp only [times, isHandled, isPanelStep, Bool.false_eq_true, if_false, List.append_nil]
    exact (h.post (p := .write { w with tsMs := s.clock }) rfl (s.step (.write w)) rfl rfl rfl
      (Or.inl rfl)).1
  | deliver =>
    simp only [times, isHandled, isPanelStep, Bool.false_eq_true, if_false, List.append_nil]
    exact h.deliver
  | other e =>
    simp only [times, isHandled, isPanelStep, Bool.false_eq_true, if_false, List.append_nil]
    exact h.same rfl rfl (Nat.le_refl _) (heard_other s.layer e.notPanel)
  | refresh =>
    simp only [times, isHandled, isPanelStep, Bool.false_eq_true, if_false, List.append_nil]
    exact h.same rfl rfl (Nat.le_refl _) rfl

/-! ### A run -/

variable (sys : Option (List Logic.CanLinkCfg)) (map : Option Logic.HmiMapModel)

/-- What the fault is after a refresh, when the panel has been heard of. -/
theorem commTimedOut_of_seen {seen : Bool} (h : seen = true) {last now : Nat} (hpos : last ≠ 0)
    (hle : last ≤ now) : commTimedOut seen last 10000 now = decide (now - last > 10000) := by
  rw [commTimedOut, if_neg (not_not.mpr h), if_neg hpos, if_neg (by omega)]

theorem commTimedOut_of_recent {seen : Bool} {last now : Nat} (h : now ≤ last + 10000) :
    commTimedOut seen last 10000 now = false := by
  rw [commTimedOut]
  split
  · rfl
  · split
    · rfl
    · split
      · rfl
      · exact decide_eq_false (by omega)

theorem tracks_run (es : List WatchStep) :
    Tracks (times isHandled (panelWatch sys map).start es)
      (times isPanelStep (panelWatch sys map).start es) ((panelWatch sys map).run es) := by
  induction es using List.reverseRecOn with
  | nil =>
    constructor
    · exact List.Pairwise.nil
    · exact fun t ht => absurd ht List.not_mem_nil
    · exact ⟨Nat.le_refl _, Or.inl rfl⟩
    · exact Nat.le_refl _
    · exact fun r hr => absurd hr List.not_mem_nil
    · rintro t (ht | ⟨hseen, -⟩)
      · exact absurd ht List.not_mem_nil
      · exact absurd hseen Bool.false_ne_true
  | append_singleton es e ih =>
    rw [times_append, times_append, Machine.run_snoc]
    exact ih.step e

/-- A panel whose last request but for the lag came within the timeout, less the second that a
heartbeat may be held back for, is not reported; one that has been heard of and has sent nothing
for longer than the timeout is. -/
theorem panel_watched (es : List WatchStep) :
    (∀ r ∈ times isHandled (panelWatch sys map).start es, ∀ lag,
      (∀ t ∈ ((panelWatch sys map).run es).stamps, ((panelWatch sys map).run es).clock < t + lag) →
      r + lag ≤ ((panelWatch sys map).run es).clock →
      ((panelWatch sys map).run es).clock ≤ r + 9000 →
      ((panelWatch sys map).run (es ++ [.refresh])).hmiCommFault = false) ∧
    ((∃ r ∈ times isHandled (panelWatch sys map).start es, 1000 < r) →
      ((panelWatch sys map).run es).stamps = [] →
      (∀ r ∈ times isPanelStep (panelWatch sys map).start es,
        r + 10000 < ((panelWatch sys map).run es).clock) →
      ((panelWatch sys map).run (es ++ [.refresh])).hmiCommFault = true) := by
  have h := tracks_run sys map es
  rw [Machine.run_snoc]
  generalize (panelWatch sys map).run es = s at h ⊢
  show (∀ r ∈ _, ∀ lag, _ → _ → _ → (s.step .refresh).hmiCommFault = false) ∧
    (_ → _ → _ → (s.step .refresh).hmiCommFault = true)
  rw [hmiCommFault_refresh]
  constructor
  · intro r hr lag hlag hold hrecent
    obtain ⟨t, htr, hrt, hzero | hway | ⟨-, hheard⟩⟩ := h.answered r hr
    · exact commTimedOut_of_recent (by omega)
    · have hyoung := hlag t hway
      omega
    · exact commTimedOut_of_recent (by omega)
  · rintro ⟨r, hr, hlate⟩ hnone hsilent
    obtain ⟨t, htr, hrt, hzero | hway | ⟨hseen, hheard⟩⟩ := h.answered r hr
    · omega
    · rw [hnone] at hway
      exact absurd hway List.not_mem_nil
    · have hlast := hsilent _ (h.origin _ (Or.inr ⟨hseen, rfl⟩))
      rw [commTimedOut_of_seen hseen (by omega) h.past]
      exact decide_eq_true (by omega)

/-- One request, and nothing more for some time. -/
def silentFor (ms : Nat) : List WatchStep := [.wait 2000, .handled, .deliver, .wait ms]

/-- Within the timeout nothing is reported, behind it the silence is. -/
theorem panel_watched_silent :
    ((panelWatch none none).run (silentFor 5000 ++ [.refresh])).hmiCommFault = false ∧
      ((panelWatch none none).run (silentFor 10001 ++ [.refresh])).hmiCommFault = true := by
  have hrecent := (panel_watched none none (silentFor 5000)).1
  have hsilent := (panel_watched none none (silentFor 10001)).2
  refine ⟨hrecent 2000 (List.mem_singleton_self _) 0 ?_ (by decide) (by decide), ?_⟩
  · intro t ht
    exact absurd ht List.not_mem_nil
  · refine hsilent ⟨2000, List.mem_singleton_self _, by decide⟩ rfl ?_
    intro r hr
    rw [List.mem_singleton.mp hr]
    decide

end PanelWatch

end App
end EnergyStorage
