import EnergyStorage.Driver.CanThread

/-! # Losing and mending the connection of a CAN interface

The wait after a failed attempt doubles up to five seconds, and a connection that is back
starts over with the shortest wait. -/

namespace EnergyStorage
namespace Driver

open Lib

/-- The wait after an attempt that follows `n` failed ones. -/
def waitAfter (n : Nat) : Nat := min (kReconnectMin * 2 ^ n) kReconnectMax

theorem waitAfter_succ (n : Nat) : min (waitAfter n * 2) kReconnectMax = waitAfter (n + 1) := by
  unfold waitAfter kReconnectMin kReconnectMax
  rw [Nat.pow_succ]
  omega

/-- Failed attempts, latest first: each comes no sooner than the wait after the one before. -/
def Spaced : List Nat → Prop
  | [] => True
  | [_] => True
  | t :: t' :: rest => t' + waitAfter rest.length ≤ t ∧ Spaced (t' :: rest)

/-- The time before which no attempt may follow those that have failed. -/
def notBefore : List Nat → Nat
  | [] => 0
  | t :: rest => t + waitAfter rest.length

theorem Spaced.cons {failed : List Nat} (h : Spaced failed) {t : Nat} (ht : notBefore failed ≤ t) :
    Spaced (t :: failed) := by
  cases failed with
  | nil => trivial
  | cons t' rest => exact ⟨ht, h⟩

namespace CanThread

/-- The driver opens its socket again. -/
def Attempts (s : CanThread) (nowMs : Nat) : Prop :=
  s.needReconnect = true ∧ s.nextReconnectTp ≤ nowMs

structure Backoff (s : CanThread) : Prop where
  /-- Each loss of the connection but the present one has been answered by one `CanUp`. -/
  balance : s.losses = s.ups + s.needReconnect.toNat
  clear : s.needReconnect = false → s.failedAt = []
  delay : s.needReconnect = true → s.reconnectDelay = waitAfter s.failedAt.length
  due : s.needReconnect = true → s.failedAt ≠ [] → s.nextReconnectTp = notBefore s.failedAt
  spaced : Spaced s.failedAt

variable {s t : CanThread}

/-- The fields that tell how the connection is. -/
def link (s : CanThread) : Bool × Nat × Nat × Nat × Nat × List Nat :=
  (s.needReconnect, s.losses, s.ups, s.reconnectDelay, s.nextReconnectTp, s.failedAt)

theorem Backoff.of_link (h : s.Backoff) (hlink : t.link = s.link) : t.Backoff := by
  simp only [link, Prod.mk.injEq] at hlink
  obtain ⟨hneed, hlosses, hups, hdelay, hnext, hfailed⟩ := hlink
  refine ⟨?_, ?_, ?_, ?_, ?_⟩
  · rw [hlosses, hups, hneed]
    exact h.balance
  · rw [hneed, hfailed]
    exact h.clear
  · rw [hneed, hdelay, hfailed]
    exact h.delay
  · rw [hneed, hnext, hfailed]
    exact h.due
  · rw [hfailed]
    exact h.spaced

theorem Backoff.markNeedReconnect (h : s.Backoff) (nowMs : Nat) :
    (s.markNeedReconnect nowMs).Backoff := by
  unfold CanThread.markNeedReconnect
  split_ifs with hneed
  · exact h
  · have hoff : s.needReconnect = false := Bool.eq_false_iff.mpr hneed
    have hclear : s.failedAt = [] := h.clear hoff
    have hbalance := h.balance
    rw [hoff] at hbalance
    refine ⟨?_, nofun, fun _ => ?_, fun _ => ?_, h.spaced⟩
    · show s.losses + 1 = s.ups + 1
      exact congrArg (· + 1) hbalance
    · show kReconnectMin = waitAfter s.failedAt.length
      rw [hclear]
      rfl
    · exact fun hne => absurd hclear hne

/-- The times of the attempts that have failed, with one more. -/
theorem Backoff.backOff (h : s.Backoff) (hneed : s.needReconnect = true) {nowMs : Nat}
    (hdue : notBefore s.failedAt ≤ nowMs) : (s.backOff nowMs).Backoff := by
  have hdelay := h.delay hneed
  refine ⟨h.balance, fun hoff => ?_, fun _ => ?_, fun _ _ => ?_, h.spaced.cons hdue⟩
  · exact absurd (hneed.symm.trans hoff) Bool.noConfusion
  · show min (s.reconnectDelay * 2) kReconnectMax = waitAfter (s.failedAt.length + 1)
    rw [hdelay, waitAfter_succ]
  · show nowMs + s.reconnectDelay = nowMs + waitAfter s.failedAt.length
    rw [hdelay]

theorem Backoff.notBefore_le (h : s.Backoff) (hneed : s.needReconnect = true) :
    notBefore s.failedAt ≤ s.nextReconnectTp := by
  by_cases hnil : s.failedAt = []
  · rw [hnil]
    exact Nat.zero_le _
  · exact (h.due hneed hnil).ge

theorem Backoff.recovered (h : s.Backoff) (hneed : s.needReconnect = true) (fd : Nat) :
    (s.recovered fd).Backoff := by
  have hbalance := h.balance
  rw [hneed] at hbalance
  exact ⟨hbalance, fun _ => rfl, nofun, nofun, trivial⟩

theorem Backoff.tryReconnect (h : s.Backoff) (nowMs : Nat) (result : Reopened) :
    (s.tryReconnect nowMs result).Backoff := by
  unfold CanThread.tryReconnect
  split_ifs with hoff hearly
  · exact h
  · exact h
  · have hneed : s.needReconnect = true := Bool.eq_true_of_not_eq_false hoff
    have hdue : notBefore s.failedAt ≤ nowMs := (h.notBefore_le hneed).trans (Nat.not_lt.mp hearly)
    cases result with
    | failed => exact (h.backOff hneed hdue).of_link rfl
    | unregistered fd =>
      have hlost := (h.recovered hneed fd).markNeedReconnect nowMs
      exact hlost.backOff (markNeedReconnect_needReconnect _ nowMs) (Nat.zero_le _)
    | «open» fd =>
      have hback := h.recovered hneed fd
      have hopen : ({ s.recovered fd with reconnectDelay := kReconnectMin } : CanThread).Backoff :=
        ⟨hback.balance, fun _ => rfl, nofun, nofun, trivial⟩
      dsimp only
      split_ifs
      · exact hopen
      · exact hopen.of_link rfl

theorem handleWrite_link (s : CanThread) : s.handleWrite.link = s.link := by
  rcases s.handleWrite_cases with ⟨_, heq⟩ | ⟨_, heq⟩ <;> rw [heq]
  rfl

theorem Backoff.step (h : s.Backoff) (e : CanStep) : (s.step e).Backoff := by
  cases e with
  | send frame => exact h.of_link rfl
  | wakeup =>
    show s.wakeup.Backoff
    unfold CanThread.wakeup
    split_ifs
    · exact h
    · exact h.of_link rfl
  | stop => exact h.of_link rfl
  | event nowMs result =>
    show (s.event nowMs result).Backoff
    unfold CanThread.event
    dsimp only
    split_ifs
    · exact h.of_link rfl
    · have hcleared : ({ s with eventCount := 0 } : CanThread).Backoff := h.of_link rfl
      exact (hcleared.tryReconnect nowMs result).of_link rfl
    · exact h
  | look =>
    show s.look.Backoff
    unfold CanThread.look
    dsimp only
    split_ifs
    · exact h.of_link (handleWrite_link _)
    · exact h.of_link rfl
    · exact h
  | ready fd error output nowMs =>
    show (s.ready fd error output nowMs).Backoff
    unfold CanThread.ready
    split_ifs
    · exact h.markNeedReconnect nowMs
    · exact h.of_link (handleWrite_link s)
    · exact h
    · exact h
  | reconnect nowMs result =>
    show (s.reconnect nowMs result).Backoff
    unfold CanThread.reconnect
    split_ifs
    · exact h.tryReconnect nowMs result
    · exact h
  | front =>
    show s.front.Backoff
    unfold CanThread.front
    split_ifs
    · exact h.of_link rfl
    · exact h.of_link rfl
    · exact h
  | write outcome nowMs =>
    show (s.write outcome nowMs).Backoff
    unfold CanThread.write
    cases s.writer with
    | waiting => exact h
    | looking => exact h
    | draining => exact h
    | popping f => exact h
    | writing frame =>
      cases s.driverSend outcome with
      | taken => exact h.of_link rfl
      | refused errno =>
        have hback : ({ s with refused := true, writer := .waiting } : CanThread).Backoff :=
          h.of_link rfl
        dsimp only
        split_ifs
        · exact hback.markNeedReconnect nowMs
        · exact hback
  | pop =>
    show s.pop.Backoff
    unfold CanThread.pop
    cases s.writer with
    | popping f => exact h.of_link rfl
    | waiting => exact h
    | looking => exact h
    | draining => exact h
    | writing f => exact h

/-- `tryReconnect` does something exactly when an attempt is due. -/
theorem attempts_iff {nowMs : Nat} {result : Reopened} :
    s.tryReconnect nowMs result ≠ s ↔ s.Attempts nowMs := by
  unfold CanThread.tryReconnect Attempts
  split_ifs with hoff hearly
  · simp [hoff]
  · simp [Nat.not_le.mpr hearly]
  · have hneed : s.needReconnect = true := Bool.eq_true_of_not_eq_false hoff
    refine ⟨fun _ => ⟨hneed, Nat.not_lt.mp hearly⟩, fun _ heq => ?_⟩
    cases result with
    | failed =>
      have hcount : s.eventCount + 1 = s.eventCount := congrArg CanThread.eventCount heq
      omega
    | unregistered fd =>
      have hups : s.ups + 1 = s.ups := by
        have := congrArg CanThread.ups heq
        exact this
      omega
    | «open» fd =>
      have hups : s.ups + 1 = s.ups := by
        have := congrArg CanThread.ups heq
        dsimp only at this
        split_ifs at this <;> exact this
      omega

end CanThread

theorem canThread_backoff (socketFd : Int) (startMs : Nat) :
    (canThread socketFd startMs).Invariant CanThread.Backoff where
  start := ⟨rfl, fun _ => rfl, nofun, nofun, trivial⟩
  step _ e h := h.step e

/-- In every run the attempts of one outage keep their distance: an attempt comes at least
`min (200 * 2 ^ n) 5000` milliseconds after one that had failed as the `n + 1`st, and from then
on it is made.  The socket is opened again only while the connection is lost, and each loss but
the present one has been followed by exactly one `CanUp`. -/
theorem attempts_back_off (socketFd : Int) (startMs : Nat) (es : List CanStep) :
    let s := (canThread socketFd startMs).run es
    Spaced s.failedAt ∧ s.losses = s.ups + s.needReconnect.toNat ∧
      (s.needReconnect = false →
        s.failedAt = [] ∧ ∀ nowMs result, s.tryReconnect nowMs result = s) ∧
      ∀ nowMs result t rest, s.failedAt = t :: rest →
        (s.tryReconnect nowMs result ≠ s ↔ t + waitAfter rest.length ≤ nowMs) := by
  intro s
  have hs : s.Backoff := (canThread_backoff socketFd startMs).run es
  refine ⟨hs.spaced, hs.balance, fun hoff => ⟨hs.clear hoff, fun _ _ => if_pos hoff⟩,
    fun nowMs result t rest hfailed => ?_⟩
  have hne : s.failedAt ≠ [] := by
    rw [hfailed]
    exact List.cons_ne_nil t rest
  have hneed : s.needReconnect = true := by
    by_contra hoff
    exact hne (hs.clear (Bool.eq_false_iff.mpr hoff))
  have hnext : s.nextReconnectTp = t + waitAfter rest.length := by
    rw [hs.due hneed hne, hfailed]
    rfl
  rw [CanThread.attempts_iff, CanThread.Attempts, hnext]
  exact and_iff_right hneed

end Driver
end EnergyStorage
