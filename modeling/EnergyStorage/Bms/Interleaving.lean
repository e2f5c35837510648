import EnergyStorage.Bms.Closing

/-! # Two threads and one queue

The worker and the tick thread each read the clock, put the time into their event and push
the event into the queue of the control loop.  Between the reading and the push the other
thread may push an event with a later time, so the loop can meet a tick that is older than
a message before it. -/

namespace EnergyStorage
namespace Bms

open Lib
open BmsCommandManager LogicAdapter

/-- The clock, what each thread has stamped and not yet pushed, and all that was pushed. -/
structure Threads where
  nowMs : Nat
  worker : Option (DeviceData × Nat) := none
  ticker : Option Nat := none
  queue : List BmsEvent := []

inductive ThreadStep
  | wait (ms : Nat)
  | stampMessage (d : DeviceData)
  | pushMessage
  | stampTick
  | pushTick (hv : Nat → Option Nat)

/-- A thread stamps its next event only after it has pushed the one before. -/
def Threads.step (s : Threads) : ThreadStep → Threads
  | .wait ms => { s with nowMs := s.nowMs + ms }
  | .stampMessage d =>
    match s.worker with
    | none => { s with worker := some (d, s.nowMs) }
    | some _ => s
  | .pushMessage =>
    match s.worker with
    | none => s
    | some (d, tsMs) => { s with worker := none, queue := s.queue ++ [.message d tsMs] }
  | .stampTick =>
    match s.ticker with
    | none => { s with ticker := some s.nowMs }
    | some _ => s
  | .pushTick hv =>
    match s.ticker with
    | none => s
    | some tsMs => { s with ticker := none, queue := s.queue ++ [.tick tsMs hv] }

/-- The loop takes the events in the order of the queue, so a run of the threads gives a
run of the loop. -/
def threads (startMs : Nat) : Machine Threads ThreadStep Empty :=
  ⟨{ nowMs := startMs }, fun s a => (s.step a, [])⟩

section Battery

variable (cfg : BmsTxConfig) (idx : Nat)

/-- The latest stamp of group `g` of the battery, pushed or not. -/
def Threads.lastStamped (g : BmsGroup) (s : Threads) : Option Nat :=
  (s.worker.bind fun w => receivedGroup idx g (.message w.1 w.2)).or
    (lastReceived cfg idx g s.queue)

/-- At every point of the run, each critical group that has come at all has come less than
a second ago. -/
def Steady (startMs : Nat) (acts : List ThreadStep) : Prop :=
  ∀ pre ∈ acts.inits, ∀ g ∈ criticalGroups, ∀ m ∈ ((threads startMs).run pre).lastStamped cfg idx g,
    ((threads startMs).run pre).nowMs < m + 1000

/-- Every critical group of the battery has been pushed. -/
def Started (es : List BmsEvent) : Prop :=
  ∀ g ∈ criticalGroups, (lastReceived cfg idx g es).isSome = true

/-- A message of the battery with a later stamp comes before the tick of time `t`. -/
def Overtaken (es : List BmsEvent) (t : Nat) : Prop :=
  ∃ d m, .message d m ∈ es ∧ Addressed (makeName idx) d ∧ t < m

/-- The reasons to power off that come from the age of the messages. -/
def ageingReasons : List BmsCmdReason :=
  [.noData, .offline, .runtimeStale, .st2Stale, .fault1Stale, .fault2Stale, .currentLimitStale]

/-- The tick of time `t` after `es` leaves the battery online and not stale, counts no
disconnection and has no reason of age to power it off. -/
def TickHealthy (es : List BmsEvent) (t : Nat) (hv : Nat → Option Nat) : Prop :=
  ∃ x y, ((bmsLoop cfg).run es).cache.items.get (makeName idx) = some x ∧
    ((bmsLoop cfg).run (es ++ [.tick t hv])).cache.items.get (makeName idx) = some y ∧
    y.online = true ∧ y.runtimeFaultStale = false ∧ y.disconnectCount = x.disconnectCount ∧
    safetyBlockReason y ∉ ageingReasons

/-- `P` holds of every tick that is pushed after the battery has started. -/
def EveryTick (startMs : Nat) (acts : List ThreadStep)
    (P : List BmsEvent → Nat → (Nat → Option Nat) → Prop) : Prop :=
  ∀ pre hv post, acts = pre ++ .pushTick hv :: post →
    ∀ t ∈ ((threads startMs).run pre).ticker,
      Started cfg idx ((threads startMs).run pre).queue →
        P ((threads startMs).run pre).queue t hv

/-! ### What the clock gives -/

theorem lastReceived_snoc (g : BmsGroup) (es : List BmsEvent) (e : BmsEvent) :
    lastReceived cfg idx g (es ++ [e]) = (receivedGroup idx g e).or (lastReceived cfg idx g es) :=
  (bmsLoop cfg).latest_snoc _ es e

theorem lastMessage_snoc (es : List BmsEvent) (e : BmsEvent) :
    lastMessage cfg idx (es ++ [e]) = (receivedAny idx e).or (lastMessage cfg idx es) :=
  (bmsLoop cfg).latest_snoc _ es e

theorem receivedGroup_stamp {idx : Nat} {g : BmsGroup} {d : DeviceData} {tsMs m : Nat}
    (h : receivedGroup idx g (.message d tsMs) = some m) : m = tsMs := by
  rw [receivedGroup] at h
  split at h
  · exact (Option.some_inj.mp h).symm
  · cases h

/-- What holds of the threads at every point of a steady run. -/
structure ThreadsOk (s : Threads) : Prop where
  now_pos : 0 < s.nowMs
  ticker_le : ∀ t ∈ s.ticker, t ≤ s.nowMs
  worker_le : ∀ w ∈ s.worker, 0 < w.2 ∧ w.2 ≤ s.nowMs
  queue_le : ∀ d m, .message d m ∈ s.queue → 0 < m ∧ m ≤ s.nowMs
  ordered : ∀ w ∈ s.worker, ∀ d m, .message d m ∈ s.queue → m ≤ w.2
  /-- The latest message of the battery has the latest stamp. -/
  latest : ∀ d m, .message d m ∈ s.queue → Addressed (makeName idx) d →
    ∃ l ∈ lastMessage cfg idx s.queue, m ≤ l
  gap : ∀ g ∈ criticalGroups, ∀ l ∈ lastReceived cfg idx g s.queue,
    ∀ m ∈ s.lastStamped cfg idx g, m < l + 1000
  fresh : ∀ t ∈ s.ticker, ∀ g ∈ criticalGroups, ∀ m ∈ s.lastStamped cfg idx g, t < m + 1000

end Battery

variable {cfg : BmsTxConfig} {idx : Nat} {s : Threads}

theorem threadsOk_wait (h : ThreadsOk cfg idx s) (ms : Nat) :
    ThreadsOk cfg idx (s.step (.wait ms)) where
  now_pos := Nat.lt_of_lt_of_le h.now_pos (Nat.le_add_right _ _)
  ticker_le t ht := Nat.le_trans (h.ticker_le t ht) (Nat.le_add_right _ _)
  worker_le w hw := ⟨(h.worker_le w hw).1, Nat.le_trans (h.worker_le w hw).2 (Nat.le_add_right _ _)⟩
  queue_le d m hm :=
    ⟨(h.queue_le d m hm).1, Nat.le_trans (h.queue_le d m hm).2 (Nat.le_add_right _ _)⟩
  ordered := h.ordered
  latest := h.latest
  gap := h.gap
  fresh := h.fresh

/-- A message is stamped less than a second after the one before of its group, and not
before the tick that waits. -/
theorem threadsOk_stampMessage (h : ThreadsOk cfg idx s)
    (hsteady : ∀ g ∈ criticalGroups, ∀ m ∈ s.lastStamped cfg idx g, s.nowMs < m + 1000)
    (d : DeviceData) : ThreadsOk cfg idx (s.step (.stampMessage d)) := by
  rw [Threads.step]
  cases hw : s.worker with
  | some w => exact h
  | none =>
    have hold : ∀ g, s.lastStamped cfg idx g = lastReceived cfg idx g s.queue := by
      intro g
      rw [Threads.lastStamped, hw]
      rfl
    -- the stamp is the time now, or the one that was latest before
    have hnew : ∀ g, ∀ m ∈ Threads.lastStamped cfg idx g { s with worker := some (d, s.nowMs) },
        m = s.nowMs ∨ m ∈ lastReceived cfg idx g s.queue := by
      intro g m hm
      cases hr : receivedGroup idx g (.message d s.nowMs) with
      | none =>
        rw [Threads.lastStamped, Option.bind_some, hr] at hm
        exact Or.inr hm
      | some r =>
        rw [Threads.lastStamped, Option.bind_some, hr] at hm
        left
        rw [← receivedGroup_stamp hr]
        exact (Option.some_inj.mp hm).symm
    refine ⟨h.now_pos, h.ticker_le, ?_, h.queue_le, ?_, h.latest, ?_, ?_⟩
    · intro w hw'
      obtain rfl := Option.some_inj.mp hw'
      exact ⟨h.now_pos, Nat.le_refl _⟩
    · intro w hw' d' m hm
      obtain rfl := Option.some_inj.mp hw'
      exact (h.queue_le d' m hm).2
    · intro g hg l hl m hm
      have hlt := hsteady g hg l (by rw [hold]; exact hl)
      obtain rfl | hm := hnew g m hm
      · exact hlt
      · have hsame : m = l := Option.some_inj.mp (hm.symm.trans hl)
        omega
    · intro t ht g hg m hm
      have hle := h.ticker_le t ht
      obtain rfl | hm := hnew g m hm
      · omega
      · exact h.fresh t ht g hg m (by rw [hold]; exact hm)

theorem threadsOk_pushMessage (h : ThreadsOk cfg idx s) :
    ThreadsOk cfg idx (s.step .pushMessage) := by
  rw [Threads.step]
  cases hw : s.worker with
  | none => exact h
  | some w =>
    obtain ⟨d, tsMs⟩ := w
    have hstamp := h.worker_le (d, tsMs) hw
    have hsame : ∀ g, lastReceived cfg idx g (s.queue ++ [.message d tsMs]) =
        s.lastStamped cfg idx g := by
      intro g
      rw [lastReceived_snoc, Threads.lastStamped, hw]
      rfl
    have hmem : ∀ d' m, BmsEvent.message d' m ∈ s.queue ++ [.message d tsMs] →
        .message d' m ∈ s.queue ∨ d' = d ∧ m = tsMs := by
      intro d' m hm
      obtain hm | hm := List.mem_append.mp hm
      · exact Or.inl hm
      · cases List.mem_singleton.mp hm
        exact Or.inr ⟨rfl, rfl⟩
    refine ⟨h.now_pos, h.ticker_le, ?_, ?_, ?_, ?_, ?_, ?_⟩
    · intro w hw'
      cases hw'
    · intro d' m hm
      obtain hm | ⟨-, rfl⟩ := hmem d' m hm
      · exact h.queue_le d' m hm
      · exact hstamp
    · intro w hw'
      cases hw'
    · intro d' m hm haddr
      show ∃ l ∈ lastMessage cfg idx (s.queue ++ [.message d tsMs]), m ≤ l
      rw [lastMessage_snoc, receivedAny]
      by_cases hd : Addressed (makeName idx) d
      · rw [if_pos hd]
        refine ⟨tsMs, rfl, ?_⟩
        obtain hm | ⟨-, rfl⟩ := hmem d' m hm
        · exact h.ordered (d, tsMs) hw d' m hm
        · exact Nat.le_refl _
      · rw [if_neg hd]
        obtain hm | ⟨rfl, -⟩ := hmem d' m hm
        · exact h.latest d' m hm haddr
        · exact absurd haddr hd
    · intro g hg l hl m hm
      have hml : m = l := Option.some_inj.mp (hm.symm.trans hl)
      omega
    · intro t ht g hg m hm
      exact h.fresh t ht g hg m (by rw [← hsame]; exact hm)

theorem threadsOk_stampTick (h : ThreadsOk cfg idx s)
    (hsteady : ∀ g ∈ criticalGroups, ∀ m ∈ s.lastStamped cfg idx g, s.nowMs < m + 1000) :
    ThreadsOk cfg idx (s.step .stampTick) := by
  rw [Threads.step]
  cases ht : s.ticker with
  | some t => exact h
  | none =>
    refine ⟨h.now_pos, ?_, h.worker_le, h.queue_le, h.ordered, h.latest, h.gap, ?_⟩
    · intro t ht'
      obtain rfl := Option.some_inj.mp ht'
      exact Nat.le_refl _
    · intro t ht' g hg m hm
      obtain rfl := Option.some_inj.mp ht'
      exact hsteady g hg m hm

theorem threadsOk_pushTick (h : ThreadsOk cfg idx s) (hv : Nat → Option Nat) :
    ThreadsOk cfg idx (s.step (.pushTick hv)) := by
  rw [Threads.step]
  cases ht : s.ticker with
  | none => exact h
  | some t =>
    have hmem : ∀ d m, BmsEvent.message d m ∈ s.queue ++ [.tick t hv] →
        .message d m ∈ s.queue := by
      intro d m hm
      obtain hm | hm := List.mem_append.mp hm
      · exact hm
      · cases List.mem_singleton.mp hm
    -- a tick is no message of the battery
    have hgroup : ∀ g, lastReceived cfg idx g (s.queue ++ [.tick t hv]) =
        lastReceived cfg idx g s.queue := by
      intro g
      rw [lastReceived_snoc]
      rfl
    have hany : lastMessage cfg idx (s.queue ++ [.tick t hv]) = lastMessage cfg idx s.queue := by
      rw [lastMessage_snoc]
      rfl
    refine ⟨h.now_pos, ?_, h.worker_le, fun d m hm => h.queue_le d m (hmem d m hm),
      fun w hw d m hm => h.ordered w hw d m (hmem d m hm), ?_, ?_, ?_⟩
    · intro t' ht'
      cases ht'
    · intro d m hm haddr
      show ∃ l ∈ lastMessage cfg idx (s.queue ++ [.tick t hv]), m ≤ l
      rw [hany]
      exact h.latest d m (hmem d m hm) haddr
    · intro g hg l hl m hm
      refine h.gap g hg l ?_ m ?_
      · rw [← hgroup]
        exact hl
      · have hm' : m ∈ (s.worker.bind fun w => receivedGroup idx g (.message w.1 w.2)).or
            (lastReceived cfg idx g (s.queue ++ [.tick t hv])) := hm
        rw [hgroup] at hm'
        exact hm'
    · intro t' ht'
      cases ht'

theorem steady_of_snoc {startMs : Nat} {acts : List ThreadStep} {a : ThreadStep}
    (h : Steady cfg idx startMs (acts ++ [a])) : Steady cfg idx startMs acts := by
  intro pre hpre
  apply h pre
  rw [List.mem_inits] at hpre ⊢
  exact hpre.trans (List.prefix_append acts [a])

/-- At every point of a steady run. -/
theorem threadsOk_run {startMs : Nat} (hstart : 0 < startMs) (acts : List ThreadStep)
    (h : Steady cfg idx startMs acts) : ThreadsOk cfg idx ((threads startMs).run acts) := by
  refine (threads startMs).run_induction
    (R := fun acts s => Steady cfg idx startMs acts → ThreadsOk cfg idx s) ?_ ?_ acts h
  · intro _
    refine ⟨hstart, ?_, ?_, ?_, ?_, ?_, ?_, ?_⟩
    · exact fun t ht => by cases ht
    · exact fun w hw => by cases hw
    · exact fun d m hm => by cases hm
    · exact fun w hw => by cases hw
    · exact fun d m hm => by cases hm
    · exact fun g hg l hl => by cases hl
    · exact fun t ht => by cases ht
  · intro pre a ih hsteady
    have hok := ih (steady_of_snoc hsteady)
    have hnow := hsteady pre (by rw [List.mem_inits]; exact List.prefix_append pre [a])
    cases a with
    | wait ms => exact threadsOk_wait hok ms
    | stampMessage d => exact threadsOk_stampMessage hok hnow d
    | pushMessage => exact threadsOk_pushMessage hok
    | stampTick => exact threadsOk_stampTick hok hnow
    | pushTick hv => exact threadsOk_pushTick hok hv

/-! ### What a tick finds -/

theorem receivedAny_of_group {g : BmsGroup} {e : BmsEvent} {m : Nat}
    (h : m ∈ receivedGroup idx g e) : m ∈ receivedAny idx e := by
  cases e with
  | message d tsMs =>
    rw [receivedGroup] at h
    split at h
    · rename_i hd
      rw [receivedAny, if_pos hd.1]
      exact h
    · cases h
  | age tsMs => cases h
  | tick tsMs hv => cases h

theorem message_of_receivedAny {e : BmsEvent} {m : Nat} (h : m ∈ receivedAny idx e) :
    ∃ d, e = .message d m ∧ Addressed (makeName idx) d := by
  cases e with
  | message d tsMs =>
    rw [receivedAny] at h
    split at h
    · rename_i haddr
      exact ⟨d, by rw [Option.some_inj.mp h], haddr⟩
    · cases h
  | age tsMs => cases h
  | tick tsMs hv => cases h

theorem message_of_lastMessage {es : List BmsEvent} {m : Nat} (h : m ∈ lastMessage cfg idx es) :
    ∃ d, .message d m ∈ es ∧ Addressed (makeName idx) d := by
  obtain ⟨e, he, -, hstamp⟩ := (bmsLoop cfg).exists_of_mem_latest h
  obtain ⟨d, hd, haddr⟩ := message_of_receivedAny hstamp
  rw [hd] at he
  exact ⟨d, he, haddr⟩

theorem message_of_lastReceived {g : BmsGroup} {es : List BmsEvent} {m : Nat}
    (h : m ∈ lastReceived cfg idx g es) :
    ∃ d, .message d m ∈ es ∧ Addressed (makeName idx) d := by
  obtain ⟨e, he, -, hstamp⟩ := (bmsLoop cfg).exists_of_mem_latest h
  obtain ⟨d, hd, haddr⟩ := message_of_receivedAny (receivedAny_of_group hstamp)
  rw [hd] at he
  exact ⟨d, he, haddr⟩

theorem lastMessage_ne_none {es : List BmsEvent} {d : DeviceData} {m : Nat}
    (h : .message d m ∈ es) (haddr : Addressed (makeName idx) d) :
    lastMessage cfg idx es ≠ none := by
  apply (bmsLoop cfg).latest_ne_none h
  intro _
  rw [receivedAny, if_pos haddr]
  exact Option.some_ne_none m

/-- The stamps of the battery's entry after the events `es`. -/
theorem entry_of_started {es : List BmsEvent} (h : Started cfg idx es)
    (hpos : ∀ d m, .message d m ∈ es → 0 < m) :
    ∃ x, ((bmsLoop cfg).run es).cache.items.get (makeName idx) = some x ∧ x.seenOnce = true ∧
      (∀ g ∈ criticalGroups, x.lastMs g ∈ lastReceived cfg idx g es) ∧
      x.lastRxMs ∈ lastMessage cfg idx es := by
  obtain ⟨m, hm⟩ := Option.isSome_iff_exists.mp (h .st2 (by decide))
  obtain ⟨d, hd, haddr⟩ := message_of_lastReceived hm
  have hm0 := hpos d m hd
  have hstamp := lastMs_run cfg idx .st2 es
  rw [hm, Option.getD_some, stampIn] at hstamp
  cases hx : ((bmsLoop cfg).run es).cache.items.get (makeName idx) with
  | none =>
    rw [hx] at hstamp
    have h0 : 0 = m := hstamp
    omega
  | some x =>
    have hgroup : ∀ g ∈ criticalGroups, x.lastMs g ∈ lastReceived cfg idx g es := by
      intro g hg
      obtain ⟨k, hk⟩ := Option.isSome_iff_exists.mp (h g hg)
      have hrun := lastMs_run cfg idx g es
      rw [hk, Option.getD_some, stampIn, hx] at hrun
      have hxk : x.lastMs g = k := hrun
      rw [hxk]
      exact hk
    refine ⟨x, rfl, ((bmsLoop_cacheOk cfg).run es _ x hx).seen, hgroup, ?_⟩
    have hrx := lastRxMs_run cfg idx es
    rw [stampIn, hx] at hrx
    have hxr : x.lastRxMs = (lastMessage cfg idx es).getD 0 := hrx
    cases hl : lastMessage cfg idx es with
    | some l =>
      rw [hl] at hxr
      rw [hxr]
      rfl
    | none =>
      -- the message of the group is a message
      exact absurd hl (lastMessage_ne_none hd haddr)

/-- A fresh entry has no reason of age to power off. -/
theorem safetyBlockReason_not_ageing {y : BmsPerInstanceCache} (hseen : y.seenOnce = true)
    (honline : y.online = true) (hstale : y.runtimeFaultStale = false)
    (hgroups : ∀ g ∈ criticalGroups, y.lastMs g ≠ 0 ∧ y.groupOnline g = true) :
    safetyBlockReason y ∉ ageingReasons := by
  have hst2 := hgroups .st2 (by decide)
  have hfault1 := hgroups .fault1 (by decide)
  have hfault2 := hgroups .fault2 (by decide)
  have hlimit := hgroups .currentLimit (by decide)
  rw [safetyBlockReason, if_neg (by rw [hseen]; decide), if_neg (by rw [honline]; decide),
    if_neg (by rw [hstale]; decide), if_neg (by rw [hst2.2]; simpa using hst2.1),
    if_neg (by rw [hfault1.2]; simpa using hfault1.1),
    if_neg (by rw [hfault2.2]; simpa using hfault2.1),
    if_neg (by rw [hlimit.2]; simpa using hlimit.1)]
  split_ifs <;> decide

/-- Only a battery that goes offline is counted. -/
theorem disconnectCount_of_online {t : Nat} {x : BmsPerInstanceCache}
    (h : (ageInstance t x).online = true) :
    (ageInstance t x).disconnectCount = x.disconnectCount := by
  have hcode : decide (offlineCode t x = 0) = true := h
  show (if decide (offlineCode t x = 0) ≠ x.online ∧ ¬ decide (offlineCode t x = 0) = true then _
    else _) = _
  rw [if_neg (fun hc => hc.2 hcode)]

theorem get_run_tick (cfg : BmsTxConfig) (idx : Nat) (es : List BmsEvent) (t : Nat)
    (hv : Nat → Option Nat) :
    ((bmsLoop cfg).run (es ++ [.tick t hv])).cache.items.get (makeName idx) =
      (((bmsLoop cfg).run es).cache.items.get (makeName idx)).map (ageInstance t) := by
  rw [Machine.run_snoc]
  show (updateBmsRuntimeHealth ((bmsLoop cfg).run es).cache t).items.get _ = _
  rw [get_updateBmsRuntimeHealth]

/-- Ageing an entry that was heard of lately, but not later than the tick. -/
theorem ageInstance_healthy {t : Nat} {x : BmsPerInstanceCache} (hseen : x.seenOnce = true)
    (hrx : x.lastRxMs ≤ t) (hage : ∀ g ∈ criticalGroups,
      0 < x.lastMs g ∧ x.lastMs g ≤ x.lastRxMs ∧ t < x.lastMs g + 2000) :
    (ageInstance t x).online = true ∧ (ageInstance t x).runtimeFaultStale = false ∧
      (ageInstance t x).disconnectCount = x.disconnectCount ∧
        safetyBlockReason (ageInstance t x) ∉ ageingReasons := by
  have honline : (ageInstance t x).online = true := by
    have hst2 := hage .st2 (by decide)
    apply ageInstance_online.mpr
    refine ⟨hseen, by omega, hrx, ?_⟩
    rw [instanceTimeoutMs]
    omega
  have hgroups : ∀ g ∈ criticalGroups, (ageInstance t x).lastMs g ≠ 0 ∧
      (ageInstance t x).groupOnline g = true := by
    intro g hg
    obtain ⟨hpos, hle, hlt⟩ := hage g hg
    have htimeout : 3000 ≤ groupTimeoutMs g := by
      cases g <;> decide
    refine ⟨?_, ageInstance_groupOnline.mpr ⟨?_, ?_, ?_⟩⟩
    · show x.lastMs g ≠ 0
      omega
    · omega
    · omega
    · omega
  have hstale : (ageInstance t x).runtimeFaultStale = false := by
    rw [← Bool.not_eq_true, ageInstance_runtimeFaultStale]
    intro hst
    obtain ⟨g, hg, -, hoff⟩ := hst
    rw [(hgroups g hg).2] at hoff
    cases hoff
  exact ⟨honline, hstale, disconnectCount_of_online honline,
    safetyBlockReason_not_ageing hseen honline hstale hgroups⟩

/-- No message of the battery in the queue is stamped later than its latest one. -/
theorem ThreadsOk.le_lastMessage (h : ThreadsOk cfg idx s) {d : DeviceData} {m l : Nat}
    (hm : .message d m ∈ s.queue) (haddr : Addressed (makeName idx) d)
    (hl : l ∈ lastMessage cfg idx s.queue) : m ≤ l := by
  obtain ⟨l', hl', hle⟩ := h.latest d m hm haddr
  have hsame : l' = l := Option.some_inj.mp (hl'.symm.trans hl)
  omega

/-- The latest pushed stamp of a critical group is less than two seconds older than a tick
that waits: one to the latest stamp of the group, one from there. -/
theorem ThreadsOk.tick_lt (h : ThreadsOk cfg idx s) {t : Nat} (ht : t ∈ s.ticker) {g : BmsGroup}
    (hg : g ∈ criticalGroups) {l : Nat} (hl : l ∈ lastReceived cfg idx g s.queue) :
    t < l + 2000 := by
  obtain ⟨m, hm⟩ : ∃ m, m ∈ s.lastStamped cfg idx g := by
    rw [Threads.lastStamped]
    cases hw : s.worker.bind fun w => receivedGroup idx g (.message w.1 w.2) with
    | none => exact ⟨l, hl⟩
    | some r => exact ⟨r, rfl⟩
  have hgap := h.gap g hg l hl m hm
  have hfresh := h.fresh t ht g hg m hm
  omega

/-- A tick does no harm exactly when no message of the battery overtook it. -/
theorem tickHealthy_iff (h : ThreadsOk cfg idx s) {t : Nat} (ht : t ∈ s.ticker)
    (hstarted : Started cfg idx s.queue) (hv : Nat → Option Nat) :
    TickHealthy cfg idx s.queue t hv ↔ ¬ Overtaken idx s.queue t := by
  obtain ⟨x, hx, hseen, hgroup, hrx⟩ :=
    entry_of_started hstarted (fun d m hm => (h.queue_le d m hm).1)
  have hy := get_run_tick cfg idx s.queue t hv
  rw [hx, Option.map_some] at hy
  constructor
  · intro hhealthy hover
    obtain ⟨x', y, -, hy', honline, -⟩ := hhealthy
    rw [hy] at hy'
    obtain rfl := Option.some_inj.mp hy'
    obtain ⟨-, -, hle, -⟩ := ageInstance_online.mp honline
    obtain ⟨d, m, hm, haddr, hlt⟩ := hover
    have hml := h.le_lastMessage hm haddr hrx
    omega
  · intro hnot
    have hrxle : x.lastRxMs ≤ t := by
      obtain ⟨d, hd, haddr⟩ := message_of_lastMessage hrx
      by_contra hlt
      exact hnot ⟨d, x.lastRxMs, hd, haddr, by omega⟩
    have hage : ∀ g ∈ criticalGroups,
        0 < x.lastMs g ∧ x.lastMs g ≤ x.lastRxMs ∧ t < x.lastMs g + 2000 := by
      intro g hg
      obtain ⟨d, hd, haddr⟩ := message_of_lastReceived (hgroup g hg)
      exact ⟨(h.queue_le d _ hd).1, h.le_lastMessage hd haddr hrx, h.tick_lt ht hg (hgroup g hg)⟩
    exact ⟨x, _, hx, hy, ageInstance_healthy hseen hrxle hage⟩

/-- In a steady run of the two threads every tick leaves the battery online, not stale and
with no reason of age to power it off, exactly when no tick is overtaken by a message of
the battery. -/
theorem ticks_healthy_iff (cfg : BmsTxConfig) (idx : Nat) {startMs : Nat} (hstart : 0 < startMs)
    {acts : List ThreadStep} (h : Steady cfg idx startMs acts) :
    EveryTick cfg idx startMs acts (TickHealthy cfg idx) ↔
      EveryTick cfg idx startMs acts fun es t _ => ¬ Overtaken idx es t := by
  have htick : ∀ pre hv post, acts = pre ++ .pushTick hv :: post →
      ∀ t ∈ ((threads startMs).run pre).ticker,
        Started cfg idx ((threads startMs).run pre).queue →
          (TickHealthy cfg idx ((threads startMs).run pre).queue t hv ↔
            ¬ Overtaken idx ((threads startMs).run pre).queue t) := by
    intro pre hv post hacts t ht hstarted
    have hsteady : Steady cfg idx startMs pre := by
      intro pre' hpre'
      apply h pre'
      rw [List.mem_inits] at hpre' ⊢
      rw [hacts]
      exact hpre'.trans (List.prefix_append pre _)
    exact tickHealthy_iff (threadsOk_run hstart pre hsteady) ht hstarted hv
  constructor
  · intro hall pre hv post hacts t ht hstarted
    exact (htick pre hv post hacts t ht hstarted).mp (hall pre hv post hacts t ht hstarted)
  · intro hall pre hv post hacts t ht hstarted
    exact (htick pre hv post hacts t ht hstarted).mpr (hall pre hv post hacts t ht hstarted)

/-! ### A tick in time and a tick overtaken -/

instance (cfg : BmsTxConfig) (idx startMs : Nat) (acts : List ThreadStep) :
    Decidable (Steady cfg idx startMs acts) :=
  inferInstanceAs (Decidable (∀ pre ∈ acts.inits, ∀ g ∈ criticalGroups,
    ∀ m ∈ ((threads startMs).run pre).lastStamped cfg idx g, _))

instance (cfg : BmsTxConfig) (idx : Nat) (es : List BmsEvent) : Decidable (Started cfg idx es) :=
  inferInstanceAs (Decidable (∀ g ∈ criticalGroups, _))

/-- The four critical messages of the first battery, all signals zero. -/
def quietMessages : List DeviceData :=
  [0x1884E105#32, 0x1881E102#32, 0x1882E103#32, 0x18C4E10C#32].filterMap fun id =>
    BmsProto.parse (extendedFrame id 0)

/-- The messages one after the other, then a tick. -/
def quietActs : List ThreadStep :=
  quietMessages.flatMap (fun d => [.stampMessage d, .pushMessage, .wait 10]) ++
    [.stampTick, .pushTick fun _ => some 1]

/-- Then a second tick, and before its push a message that is stamped a millisecond later. -/
def overtakenActs : List ThreadStep :=
  quietActs ++ [.wait 100, .stampTick, .wait 1] ++
    (quietMessages.take 1).map .stampMessage ++ [.pushMessage]

theorem ticks_healthy_quiet :
    EveryTick defaultTx 1 100 quietActs (TickHealthy defaultTx 1) ↔
      EveryTick defaultTx 1 100 quietActs fun es t _ => ¬ Overtaken 1 es t :=
  ticks_healthy_iff defaultTx 1 (by decide) (by decide +kernel)

/-- The battery was online; the overtaken tick drops it and counts a disconnection. -/
theorem tick_overtaken :
    let acts := overtakenActs ++ [.pushTick fun _ => some 1]
    Steady defaultTx 1 100 acts ∧
      ¬ EveryTick defaultTx 1 100 acts (TickHealthy defaultTx 1) ∧
      (((bmsLoop defaultTx).run ((threads 100).run acts).queue).cache.items.get "BMS_1").map
          (fun x => (x.online, x.disconnectCount, safetyBlockReason x)) =
        some (false, 1, .offline) := by
  intro acts
  have hsteady : Steady defaultTx 1 100 acts := by decide +kernel
  have hstate : (((bmsLoop defaultTx).run ((threads 100).run acts).queue).cache.items.get
      "BMS_1").map (fun x => (x.online, x.disconnectCount, safetyBlockReason x)) =
        some (false, 1, .offline) := by decide +kernel
  refine ⟨hsteady, ?_, hstate⟩
  intro hall
  have hticker : ((threads 100).run overtakenActs).ticker = some 240 := by decide
  have hstarted : Started defaultTx 1 ((threads 100).run overtakenActs).queue := by
    decide +kernel
  obtain ⟨x, y, -, hy, honline, -⟩ :=
    hall overtakenActs (fun _ => some 1) [] rfl 240 hticker hstarted
  have hqueue : ((threads 100).run acts).queue =
      ((threads 100).run overtakenActs).queue ++ [.tick 240 fun _ => some 1] := by
    show ((threads 100).run (overtakenActs ++ [.pushTick fun _ => some 1])).queue = _
    rw [Machine.run_snoc]
    show (Threads.step _ (.pushTick _)).queue = _
    rw [Threads.step, hticker]
  rw [hqueue] at hstate
  have hname : makeName 1 = "BMS_1" := rfl
  rw [hname] at hy
  rw [hy, Option.map_some] at hstate
  have hoff : y.online = false := congrArg (fun r => r.1) (Option.some_inj.mp hstate)
  rw [hoff] at honline
  cases honline

end Bms
end EnergyStorage
