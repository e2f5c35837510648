import EnergyStorage.Driver.SerialThread

/-! # Requests that a serial port does not answer

The thread reports a timeout when the newest request is old and nothing has come since, and
a recovery when that is no longer so.  A request that follows a silent one is newer, and then
it is not so either. -/

namespace EnergyStorage
namespace Driver

open Lib

namespace SerialStep

/-- The clock of the step, where it reads the clock. -/
def time : SerialStep → Option Nat
  | .pop nowMs | .read nowMs _ | .timer nowMs => some nowMs
  | .send _ | .notify | .wake | .write _ => none

/-- Bytes are received. -/
def receives : SerialStep → Prop
  | .read _ bytes => bytes ≠ []
  | .send _ | .notify | .wake | .pop _ | .write _ | .timer _ => False

end SerialStep

namespace SerialThread

/-- A request goes out at `t`, later than the last bytes came. -/
def Requests (t : Nat) (s : SerialThread) (e : SerialStep) : Prop :=
  e = .pop t ∧ s.writer = .draining ∧ s.txQueue ≠ [] ∧ s.lastRxTsMs < t

/-- The step reports a timeout. -/
def Raises (cfg : LinkConfig) (s : SerialThread) (e : SerialStep) : Prop :=
  .timeout ∈ (s.step cfg e).2

/-- What the check looks at. -/
def Overdue (cfg : LinkConfig) (s : SerialThread) (nowMs : Nat) : Prop :=
  s.lastRxTsMs < s.lastTxTsMs ∧ cfg.rxTimeoutMs ≤ nowMs - s.lastTxTsMs

variable {cfg : LinkConfig} {s : SerialThread} {nowMs : Nat}

theorem checkRxTimeout_overdue (hpos : 0 < cfg.rxTimeoutMs) (h : s.Overdue cfg nowMs) :
    s.checkRxTimeout cfg nowMs = ({ s with rxTimeoutActive := true },
      if s.rxTimeoutActive then [] else [.timeout]) := by
  have hcond : s.lastTxTsMs > s.lastRxTsMs ∧ nowMs - s.lastTxTsMs ≥ cfg.rxTimeoutMs := h
  unfold checkRxTimeout
  dsimp only
  rw [if_neg (Nat.pos_iff_ne_zero.mp hpos), if_pos hcond]
  by_cases hactive : s.rxTimeoutActive = true
  · rw [if_neg (by simp [hactive]), if_pos hactive, ← hactive]
  · rw [if_pos (by simpa using hactive), if_neg hactive]

theorem checkRxTimeout_answered (hpos : 0 < cfg.rxTimeoutMs) (h : ¬ s.Overdue cfg nowMs) :
    s.checkRxTimeout cfg nowMs = ({ s with rxTimeoutActive := false },
      if s.rxTimeoutActive then [.recover] else []) := by
  have hcond : ¬ (s.lastTxTsMs > s.lastRxTsMs ∧ nowMs - s.lastTxTsMs ≥ cfg.rxTimeoutMs) := h
  unfold checkRxTimeout
  dsimp only
  rw [if_neg (Nat.pos_iff_ne_zero.mp hpos), if_neg hcond]
  by_cases hactive : s.rxTimeoutActive = true
  · rw [if_pos hactive, if_pos hactive]
  · rw [if_neg hactive, if_neg hactive, ← Bool.eq_false_iff.mpr hactive]

/-- What a step does to the two stamps. -/
theorem step_stamps (cfg : LinkConfig) (s : SerialThread) (e : SerialStep) :
    (∃ t, e = .pop t ∧ s.writer = .draining ∧ s.txQueue ≠ [] ∧
      (s.step cfg e).1.lastTxTsMs = t ∧ (s.step cfg e).1.lastRxTsMs = s.lastRxTsMs) ∨
    (∃ t bytes, e = .read t bytes ∧ e.receives ∧
      (s.step cfg e).1.lastTxTsMs = s.lastTxTsMs ∧ (s.step cfg e).1.lastRxTsMs = t) ∨
    (¬ e.receives ∧ (∀ t, ¬ s.Requests t e) ∧
      (s.step cfg e).1.lastTxTsMs = s.lastTxTsMs ∧
      (s.step cfg e).1.lastRxTsMs = s.lastRxTsMs) := by
  have hother : ∀ t, (∀ u, e ≠ .pop u) → ¬ s.Requests t e := fun t h hr => h t hr.1
  cases e with
  | send data =>
    refine Or.inr (Or.inr ⟨id, fun t => hother t fun _ => SerialStep.noConfusion, ?_⟩)
    show (s.send data).lastTxTsMs = _ ∧ (s.send data).lastRxTsMs = _
    unfold SerialThread.send
    split <;> exact ⟨rfl, rfl⟩
  | notify =>
    refine Or.inr (Or.inr ⟨id, fun t => hother t fun _ => SerialStep.noConfusion, ?_⟩)
    show s.notify.lastTxTsMs = _ ∧ s.notify.lastRxTsMs = _
    unfold SerialThread.notify
    split <;> exact ⟨rfl, rfl⟩
  | wake =>
    refine Or.inr (Or.inr ⟨id, fun t => hother t fun _ => SerialStep.noConfusion, ?_⟩)
    show s.wake.lastTxTsMs = _ ∧ s.wake.lastRxTsMs = _
    unfold SerialThread.wake
    split <;> exact ⟨rfl, rfl⟩
  | pop t =>
    by_cases hgo : s.writer = .draining ∧ s.txQueue ≠ []
    · refine Or.inl ⟨t, rfl, hgo.1, hgo.2, ?_⟩
      obtain ⟨data, rest, htx⟩ := List.exists_cons_of_ne_nil hgo.2
      show (s.pop t).lastTxTsMs = _ ∧ (s.pop t).lastRxTsMs = _
      unfold SerialThread.pop
      rw [hgo.1, htx]
      exact ⟨rfl, rfl⟩
    · refine Or.inr (Or.inr ⟨id, fun u hr => hgo ⟨hr.2.1, hr.2.2.1⟩, ?_⟩)
      show (s.pop t).lastTxTsMs = _ ∧ (s.pop t).lastRxTsMs = _
      unfold SerialThread.pop
      split
      · exact ⟨rfl, rfl⟩
      · rename_i hw htx
        exact absurd ⟨hw, by rw [htx]; exact List.cons_ne_nil _ _⟩ hgo
      · exact ⟨rfl, rfl⟩
      · exact ⟨rfl, rfl⟩
  | write outcome =>
    refine Or.inr (Or.inr ⟨id, fun t => hother t fun _ => SerialStep.noConfusion, ?_⟩)
    show (s.write outcome).lastTxTsMs = _ ∧ (s.write outcome).lastRxTsMs = _
    unfold SerialThread.write
    cases s.writer <;> cases outcome <;> exact ⟨rfl, rfl⟩
  | read t bytes =>
    by_cases hnil : bytes = []
    · refine Or.inr (Or.inr
        ⟨fun h => h hnil, fun u => hother u fun _ => SerialStep.noConfusion, ?_⟩)
      show (s.handleRead t bytes).lastTxTsMs = _ ∧ (s.handleRead t bytes).lastRxTsMs = _
      rw [handleRead, if_pos hnil]
      exact ⟨rfl, rfl⟩
    · refine Or.inr (Or.inl ⟨t, bytes, rfl, hnil, ?_⟩)
      show (s.handleRead t bytes).lastTxTsMs = _ ∧ (s.handleRead t bytes).lastRxTsMs = _
      rw [handleRead, if_neg hnil]
      exact ⟨rfl, rfl⟩
  | timer nowMs =>
    refine Or.inr (Or.inr ⟨id, fun t => hother t fun _ => SerialStep.noConfusion, ?_⟩)
    show (s.checkRxTimeout cfg nowMs).1.lastTxTsMs = _ ∧
      (s.checkRxTimeout cfg nowMs).1.lastRxTsMs = _
    unfold checkRxTimeout
    dsimp only
    split_ifs <;> exact ⟨rfl, rfl⟩

/-- Only the timer reports, and only it moves the flag. -/
theorem step_of_not_timer (cfg : LinkConfig) (s : SerialThread) {e : SerialStep}
    (h : ∀ t, e ≠ .timer t) :
    (s.step cfg e).2 = [] ∧ (s.step cfg e).1.rxTimeoutActive = s.rxTimeoutActive := by
  cases e with
  | send data =>
    refine ⟨rfl, ?_⟩
    show (s.send data).rxTimeoutActive = _
    unfold SerialThread.send
    split <;> rfl
  | notify =>
    refine ⟨rfl, ?_⟩
    show s.notify.rxTimeoutActive = _
    unfold SerialThread.notify
    split <;> rfl
  | wake =>
    refine ⟨rfl, ?_⟩
    show s.wake.rxTimeoutActive = _
    unfold SerialThread.wake
    split <;> rfl
  | pop t =>
    refine ⟨rfl, ?_⟩
    show (s.pop t).rxTimeoutActive = _
    unfold SerialThread.pop
    split <;> rfl
  | write outcome =>
    refine ⟨rfl, ?_⟩
    show (s.write outcome).rxTimeoutActive = _
    unfold SerialThread.write
    cases s.writer <;> cases outcome <;> rfl
  | read t bytes =>
    refine ⟨rfl, ?_⟩
    show (s.handleRead t bytes).rxTimeoutActive = _
    unfold handleRead
    split <;> rfl
  | timer t => exact absurd rfl (h t)

end SerialThread

/-! ### Runs -/

section Runs

variable (cfg : LinkConfig) (running : Bool) (eventFd serialFd : Int)

/-- The request sent at `t` has had no answer yet, nor any request before it. -/
def Unanswered (es : List SerialStep) (t : Nat) : Prop :=
  (serialThread cfg running eventFd serialFd).Since (SerialThread.Requests t)
    (fun _ e => e.receives) es

/-- A timeout has been reported, and no bytes have come since. -/
def SilentSinceTimeout (es : List SerialStep) : Prop :=
  (serialThread cfg running eventFd serialFd).Since (SerialThread.Raises cfg)
    (fun _ e => e.receives) es

/-- The clock does not go back. -/
def ClockOrdered (es : List SerialStep) : Prop :=
  (cfg.startRxMs :: es.filterMap SerialStep.time).Pairwise (· ≤ ·)

/-- A time that no step of the run comes after. -/
def After (es : List SerialStep) (t : Nat) : Prop :=
  cfg.startRxMs ≤ t ∧ ∀ u ∈ es.filterMap SerialStep.time, u ≤ t

/-- How the stamps and the flag stand to the requests and answers of the run. -/
structure LinkTracked (es : List SerialStep) (s : SerialThread) : Prop where
  before : ∀ t, After cfg es t → s.lastTxTsMs ≤ t ∧ s.lastRxTsMs ≤ t
  newest : s.lastRxTsMs < s.lastTxTsMs →
    Unanswered cfg running eventFd serialFd es s.lastTxTsMs
  between : ∀ t, Unanswered cfg running eventFd serialFd es t →
    s.lastRxTsMs < t ∧ t ≤ s.lastTxTsMs
  overdue : SilentSinceTimeout cfg running eventFd serialFd es →
    ∃ t, Unanswered cfg running eventFd serialFd es t ∧
      ∀ now, After cfg es now → t + cfg.rxTimeoutMs ≤ now

variable {cfg running eventFd serialFd} {es : List SerialStep} {e : SerialStep} {t : Nat}

theorem After.of_snoc (h : After cfg (es ++ [e]) t) : After cfg es t := by
  refine ⟨h.1, fun u hu => h.2 u ?_⟩
  rw [List.filterMap_append]
  exact List.mem_append_left _ hu

theorem After.last_le {u : Nat} (h : After cfg (es ++ [e]) t) (he : e.time = some u) : u ≤ t := by
  refine h.2 u ?_
  rw [List.filterMap_append]
  refine List.mem_append_right _ ?_
  rw [List.mem_filterMap]
  exact ⟨e, List.mem_singleton_self e, he⟩

theorem ClockOrdered.of_snoc (h : ClockOrdered cfg (es ++ [e])) : ClockOrdered cfg es := by
  rw [ClockOrdered, List.filterMap_append, ← List.cons_append, List.pairwise_append] at h
  exact h.1

theorem ClockOrdered.after {u : Nat} (h : ClockOrdered cfg (es ++ [e])) (he : e.time = some u) :
    After cfg es u := by
  rw [ClockOrdered, List.filterMap_append, ← List.cons_append, List.pairwise_append] at h
  have hmem : u ∈ List.filterMap SerialStep.time [e] :=
    List.mem_filterMap.mpr ⟨e, List.mem_singleton_self e, he⟩
  exact ⟨h.2.2 _ List.mem_cons_self u hmem,
    fun v hv => h.2.2 v (List.mem_cons_of_mem _ hv) u hmem⟩

theorem unanswered_snoc :
    Unanswered cfg running eventFd serialFd (es ++ [e]) t ↔
      SerialThread.Requests t ((serialThread cfg running eventFd serialFd).run es) e ∨
        Unanswered cfg running eventFd serialFd es t ∧ ¬ e.receives :=
  Machine.since_snoc _ _ _ _ _

theorem silentSinceTimeout_snoc :
    SilentSinceTimeout cfg running eventFd serialFd (es ++ [e]) ↔
      SerialThread.Raises cfg ((serialThread cfg running eventFd serialFd).run es) e ∨
        SilentSinceTimeout cfg running eventFd serialFd es ∧ ¬ e.receives :=
  Machine.since_snoc _ _ _ _ _

theorem raises_timer {s : SerialThread} (h : SerialThread.Raises cfg s e) :
    ∃ now, e = .timer now := by
  by_contra hnot
  have hout := (SerialThread.step_of_not_timer cfg s fun t he => hnot ⟨t, he⟩).1
  rw [SerialThread.Raises, hout] at h
  exact absurd h List.not_mem_nil

/-- A timeout is raised only for a request that is overdue. -/
theorem raises_overdue {s : SerialThread} {now : Nat} (hpos : 0 < cfg.rxTimeoutMs)
    (h : SerialThread.Raises cfg s (.timer now)) : s.Overdue cfg now := by
  by_contra hnot
  have hout : (s.step cfg (.timer now)).2 = if s.rxTimeoutActive then [.recover] else [] :=
    congrArg Prod.snd (SerialThread.checkRxTimeout_answered hpos hnot)
  rw [SerialThread.Raises, hout] at h
  split at h <;> simp at h

theorem LinkTracked.snoc (hpos : 0 < cfg.rxTimeoutMs) (hclock : ClockOrdered cfg (es ++ [e]))
    (h : LinkTracked cfg running eventFd serialFd es
      ((serialThread cfg running eventFd serialFd).run es)) :
    LinkTracked cfg running eventFd serialFd (es ++ [e])
      ((serialThread cfg running eventFd serialFd).run (es ++ [e])) := by
  rw [Machine.run_snoc]
  show LinkTracked cfg running eventFd serialFd (es ++ [e]) (SerialThread.step cfg _ e).1
  have hstamps :=
    SerialThread.step_stamps cfg ((serialThread cfg running eventFd serialFd).run es) e
  generalize hs : (serialThread cfg running eventFd serialFd).run es = s at *
  have hun : ∀ t, Unanswered cfg running eventFd serialFd (es ++ [e]) t ↔
      s.Requests t e ∨ Unanswered cfg running eventFd serialFd es t ∧ ¬ e.receives :=
    fun t => hs ▸ unanswered_snoc
  have hsilent : SilentSinceTimeout cfg running eventFd serialFd (es ++ [e]) ↔
      SerialThread.Raises cfg s e ∨
        SilentSinceTimeout cfg running eventFd serialFd es ∧ ¬ e.receives :=
    hs ▸ silentSinceTimeout_snoc
  rcases hstamps with ⟨u, rfl, hw, hq, htx, hrx⟩ | ⟨u, bytes, rfl, hrec, htx, hrx⟩ |
    ⟨hrec, hreq, htx, hrx⟩
  · -- a request goes out
    have hlate := h.before u (hclock.after rfl)
    refine ⟨fun t ht => ?_, fun hlt => ?_, fun t ht => ?_, fun hsil => ?_⟩
    · rw [htx, hrx]
      exact ⟨ht.last_le rfl, (h.before t ht.of_snoc).2⟩
    · rw [htx, hrx] at hlt
      rw [htx]
      exact (hun u).mpr (Or.inl ⟨rfl, hw, hq, hlt⟩)
    · rw [htx, hrx]
      rcases (hun t).mp ht with hnew | ⟨hold, -⟩
      · obtain rfl := SerialStep.pop.inj hnew.1
        exact ⟨hnew.2.2.2, Nat.le_refl _⟩
      · obtain ⟨hlt, hle⟩ := h.between t hold
        exact ⟨hlt, Nat.le_trans hle hlate.1⟩
    · rcases hsilent.mp hsil with hnew | ⟨hold, -⟩
      · obtain ⟨now, heq⟩ := raises_timer hnew
        cases heq
      · obtain ⟨t, ht, hdue⟩ := h.overdue hold
        exact ⟨t, (hun t).mpr (Or.inr ⟨ht, id⟩), fun now hnow => hdue now hnow.of_snoc⟩
  · -- an answer comes
    have hlate := h.before u (hclock.after rfl)
    refine ⟨fun t ht => ?_, fun hlt => ?_, fun t ht => ?_, fun hsil => ?_⟩
    · rw [htx, hrx]
      exact ⟨(h.before t ht.of_snoc).1, ht.last_le rfl⟩
    · rw [htx, hrx] at hlt
      exact absurd hlate.1 (Nat.not_le.mpr hlt)
    · rcases (hun t).mp ht with hnew | ⟨-, hnone⟩
      · cases hnew.1
      · exact absurd hrec hnone
    · rcases hsilent.mp hsil with hnew | ⟨-, hnone⟩
      · obtain ⟨now, heq⟩ := raises_timer hnew
        cases heq
      · exact absurd hrec hnone
  · refine ⟨fun t ht => ?_, fun hlt => ?_, fun t ht => ?_, fun hsil => ?_⟩
    · rw [htx, hrx]
      exact h.before t ht.of_snoc
    · rw [htx, hrx] at hlt
      rw [htx]
      exact (hun _).mpr (Or.inr ⟨h.newest hlt, hrec⟩)
    · rw [htx, hrx]
      rcases (hun t).mp ht with hnew | ⟨hold, -⟩
      · exact absurd hnew (hreq t)
      · exact h.between t hold
    · rcases hsilent.mp hsil with hnew | ⟨hold, -⟩
      · obtain ⟨now, rfl⟩ := raises_timer hnew
        obtain ⟨hlt, hdue⟩ := raises_overdue hpos hnew
        refine ⟨_, (hun _).mpr (Or.inr ⟨h.newest hlt, hrec⟩), fun later hlater => ?_⟩
        have hle := hlater.last_le rfl
        omega
      · obtain ⟨t, ht, hdue⟩ := h.overdue hold
        exact ⟨t, (hun t).mpr (Or.inr ⟨ht, hrec⟩), fun now hnow => hdue now hnow.of_snoc⟩

theorem linkTracked (hpos : 0 < cfg.rxTimeoutMs) (es : List SerialStep)
    (hclock : ClockOrdered cfg es) :
    LinkTracked cfg running eventFd serialFd es
      ((serialThread cfg running eventFd serialFd).run es) := by
  induction es using List.reverseRecOn with
  | nil =>
    refine ⟨fun t ht => ⟨Nat.le_trans cfg.start_le ht.1, ht.1⟩, fun hlt => ?_, fun t ht => ?_,
      fun hsil => ?_⟩
    · exact absurd cfg.start_le (Nat.not_le.mpr hlt)
    · exact absurd ht (Machine.not_since_nil _ _ _)
    · exact absurd hsil (Machine.not_since_nil _ _ _)
  | append_singleton es e ih => exact (ih hclock.of_snoc).snoc hpos hclock

variable (cfg running eventFd serialFd) in
/-- A check reports what the port does: it reports a recovery only if bytes have come since
the timeout, and with a request old enough and not answered it leaves the timeout raised. -/
structure ReportsTruly (es : List SerialStep) (now : Nat) : Prop where
  recover : .recover ∈ (serialThread cfg running eventFd serialFd).emitted es (.timer now) →
    ¬ SilentSinceTimeout cfg running eventFd serialFd es
  timeout : ∀ t, Unanswered cfg running eventFd serialFd es t → t + cfg.rxTimeoutMs ≤ now →
    ((serialThread cfg running eventFd serialFd).run
      (es ++ [.timer now])).rxTimeoutActive = true

variable (cfg running eventFd serialFd) in
/-- If a request is old enough and not answered, the newest request is that old too. -/
def NoNewerRequest (es : List SerialStep) (now : Nat) : Prop :=
  ∀ t, Unanswered cfg running eventFd serialFd es t → t + cfg.rxTimeoutMs ≤ now →
    ((serialThread cfg running eventFd serialFd).run es).lastTxTsMs + cfg.rxTimeoutMs ≤ now

variable {now : Nat}

theorem run_timer_active (hpos : 0 < cfg.rxTimeoutMs) :
    ((serialThread cfg running eventFd serialFd).run (es ++ [.timer now])).rxTimeoutActive =
        true ↔
      ((serialThread cfg running eventFd serialFd).run es).Overdue cfg now := by
  rw [Machine.run_snoc]
  show (SerialThread.checkRxTimeout cfg _ now).1.rxTimeoutActive = true ↔ _
  by_cases hdue : ((serialThread cfg running eventFd serialFd).run es).Overdue cfg now
  · rw [SerialThread.checkRxTimeout_overdue hpos hdue]
    exact ⟨fun _ => hdue, fun _ => rfl⟩
  · rw [SerialThread.checkRxTimeout_answered hpos hdue]
    exact ⟨fun h => absurd h Bool.false_ne_true, fun h => absurd h hdue⟩

theorem reportsTruly_iff (hpos : 0 < cfg.rxTimeoutMs)
    (hclock : ClockOrdered cfg (es ++ [.timer now])) :
    ReportsTruly cfg running eventFd serialFd es now ↔
      NoNewerRequest cfg running eventFd serialFd es now := by
  have h : LinkTracked cfg running eventFd serialFd es _ := linkTracked hpos es hclock.of_snoc
  constructor
  · intro hreports t ht hdue
    obtain ⟨-, hlate⟩ := (run_timer_active hpos).mp (hreports.timeout t ht hdue)
    omega
  · intro hnewest
    have hoverdue : ∀ t, Unanswered cfg running eventFd serialFd es t →
        t + cfg.rxTimeoutMs ≤ now →
        ((serialThread cfg running eventFd serialFd).run es).Overdue cfg now := by
      intro t ht hdue
      obtain ⟨hlt, hle⟩ := h.between t ht
      have hlast := hnewest t ht hdue
      exact ⟨by omega, by omega⟩
    refine ⟨fun hrecover hsilent => ?_, fun t ht hdue => ?_⟩
    · obtain ⟨t, ht, hdue⟩ := h.overdue hsilent
      have hstill := hoverdue t ht (hdue now (hclock.after rfl))
      have hout : (serialThread cfg running eventFd serialFd).emitted es (.timer now) =
          if ((serialThread cfg running eventFd serialFd).run es).rxTimeoutActive then []
          else [.timeout] :=
        congrArg Prod.snd (SerialThread.checkRxTimeout_overdue hpos hstill)
      rw [hout] at hrecover
      split at hrecover <;> simp at hrecover
    · exact (run_timer_active hpos).mpr (hoverdue t ht hdue)

/-- The callbacks of a run come in pairs, the last of which may be open. -/
theorem callbacks_alternate (hpos : 0 < cfg.rxTimeoutMs) (es : List SerialStep) :
    ∃ k, (serialThread cfg running eventFd serialFd).trace (fun s e => (s.step cfg e).2) es =
      (List.replicate k [.timeout, .recover]).flatten ++
        if ((serialThread cfg running eventFd serialFd).run es).rxTimeoutActive then [.timeout]
        else [] := by
  induction es using List.reverseRecOn with
  | nil => exact ⟨0, rfl⟩
  | append_singleton es e ih =>
    obtain ⟨k, hk⟩ := ih
    rw [Machine.trace_snoc, Machine.run_snoc, hk]
    show ∃ k', _ ++ (SerialThread.step cfg _ e).2 =
      _ ++ if (SerialThread.step cfg _ e).1.rxTimeoutActive then [.timeout] else []
    generalize (serialThread cfg running eventFd serialFd).run es = s
    by_cases htimer : ∃ now, e = .timer now
    · obtain ⟨now, rfl⟩ := htimer
      show ∃ k', _ ++ (s.checkRxTimeout cfg now).2 =
        _ ++ if (s.checkRxTimeout cfg now).1.rxTimeoutActive then [.timeout] else []
      by_cases hdue : s.Overdue cfg now
      · rw [SerialThread.checkRxTimeout_overdue hpos hdue]
        refine ⟨k, ?_⟩
        cases s.rxTimeoutActive <;> simp
      · rw [SerialThread.checkRxTimeout_answered hpos hdue]
        cases s.rxTimeoutActive with
        | false => exact ⟨k, by simp⟩
        | true =>
          refine ⟨k + 1, ?_⟩
          simp [List.replicate_succ']
    · obtain ⟨hout, hsame⟩ := SerialThread.step_of_not_timer cfg s fun t he => htimer ⟨t, he⟩
      refine ⟨k, ?_⟩
      rw [hout, hsame, List.append_nil]

/-- Where no newer request hides an old one, the first check that finds it old raises the
timeout, and it stays raised. -/
theorem active_of_checked (hpos : 0 < cfg.rxTimeoutMs) (hclock : ClockOrdered cfg es)
    (h : ∀ pre now, pre ++ [.timer now] <+: es →
      NoNewerRequest cfg running eventFd serialFd pre now)
    {t c : Nat} (ht : Unanswered cfg running eventFd serialFd es t) (hc : .timer c ∈ es)
    (hdue : t + cfg.rxTimeoutMs ≤ c) :
    ((serialThread cfg running eventFd serialFd).run es).rxTimeoutActive = true := by
  induction es using List.reverseRecOn with
  | nil => exact absurd hc List.not_mem_nil
  | append_singleton es e ih =>
    have hbefore : ∀ pre now, pre ++ [.timer now] <+: es →
        NoNewerRequest cfg running eventFd serialFd pre now :=
      fun pre now hpre => h pre now (hpre.trans (List.prefix_append es [e]))
    rcases unanswered_snoc.mp ht with hnew | ⟨hold, -⟩
    · -- the request is newer than the check
      obtain ⟨rfl, -⟩ := hnew
      have hmem : .timer c ∈ es := by
        rcases List.mem_append.mp hc with hmem | hmem
        · exact hmem
        · cases List.mem_singleton.mp hmem
      have hle : c ≤ t := (hclock.after rfl).2 c
        (List.mem_filterMap.mpr ⟨.timer c, hmem, rfl⟩)
      omega
    · by_cases htimer : ∃ now, e = .timer now
      · obtain ⟨now, rfl⟩ := htimer
        have hcnow : c ≤ now := by
          rcases List.mem_append.mp hc with hmem | hmem
          · exact (hclock.after rfl).2 c (List.mem_filterMap.mpr ⟨.timer c, hmem, rfl⟩)
          · cases List.mem_singleton.mp hmem
            exact Nat.le_refl c
        have htruly := (reportsTruly_iff hpos hclock).mpr (h es now (List.prefix_refl _))
        exact htruly.timeout t hold (Nat.le_trans hdue hcnow)
      · have hmem : .timer c ∈ es := by
          rcases List.mem_append.mp hc with hmem | hmem
          · exact hmem
          · exact absurd ⟨c, (List.mem_singleton.mp hmem).symm⟩ htimer
        rw [Machine.run_snoc]
        exact (SerialThread.step_of_not_timer cfg _ fun u he => htimer ⟨u, he⟩).2.trans
          (ih hclock.of_snoc hbefore hold hmem)

end Runs

def pollConfig : LinkConfig where
  rxTimeoutMs := 1500
  timeoutCheckPeriodMs := 200
  startTxMs := 0
  startRxMs := 0
  start_le := Nat.le_refl .zero

/-- A request that goes out at `t`. -/
def poll (t : Nat) : List SerialStep :=
  [.send [0x01, 0x03], .notify, .wake, .pop t, .write (.wrote 2), .pop t]

end Driver
end EnergyStorage
