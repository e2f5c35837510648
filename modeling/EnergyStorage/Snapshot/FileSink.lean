import EnergyStorage.Lib.Machine
import EnergyStorage.Snapshot.SystemSnapshot

/-! # The file of the latest snapshot

A snapshot is looked at only if an item differs from the texts kept of it, and written only
if the last writing is long enough ago.  The text of the health is compared only where that
of the data has not changed. -/

namespace EnergyStorage
namespace Snapshot

open Lib (Dict Json Machine)

namespace FileSink

/-- The fields of an air conditioner that count as a change. -/
def airconKeyJson (d : DataFields) : Json :=
  .object [
    ("run.overall", .float ((d.num.lookup "run.overall").getD 0)),
    ("temp.indoor_c", .float ((d.num.lookup "temp.indoor_c").getD 0)),
    ("alarm.any", .unsigned ((d.status.lookup "alarm.any").getD 0)),
    ("remote.power", .float ((d.num.lookup "remote.power").getD 0))]

def pcuGroupJson (g : PcuGroupData) : Json :=
  .object [
    ("ts_ms", .unsigned g.tsMs),
    ("num", numJson g.num),
    ("value", valueJson g.value),
    ("status", statusJson g.status),
    ("str", strJson g.str)]

def pcuJson (p : PcuSnapshot) : Json :=
  let hasCtrl := p.ctrl.tsMs ≠ 0 ∨ p.ctrl.num ≠ [] ∨ p.ctrl.value ≠ [] ∨ p.ctrl.status ≠ [] ∨
    p.ctrl.str ≠ []
  .object (("state", pcuGroupJson p.state) ::
    if hasCtrl then [("ctrl", pcuGroupJson p.ctrl)] else [])

/-- What is compared of an item. -/
def deviceJson (name : String) (item : SnapshotItem) : Json :=
  if name = "AirConditioner" then airconKeyJson item.data
  else if name = "UPS" then
    if item.upsGroups = [] then .null else upsJson item.upsGroups
  else
    match isPcuName name, item.pcu with
    | true, some p => pcuJson p
    | _, _ => .object [("num", numJson item.data.num), ("status", statusJson item.data.status)]

end FileSink

/-- The times are those of the steady clock, in nanoseconds. -/
structure FileSink where
  minIntervalMs : Nat
  lastLatestFlush : Int
  hasPending : Bool := false
  pendingSnap : SystemSnapshot := {}
  lastDeviceJsonCache : Dict String String := Dict.empty
  lastDeviceHealthCache : Dict String String := Dict.empty
  /-- The snapshot in `latest.json`. -/
  latest : Option SystemSnapshot := none
  /-- The lines of the files of the hours. -/
  history : List SystemSnapshot := []
  /-- The snapshot of the call before. -/
  previous : Option SystemSnapshot := none

/-- A call of `onSnapshot`, with the clock at the call, at its test of the interval and after
the writing. -/
structure SnapshotCall where
  snap : SystemSnapshot
  callNs : Int
  testNs : Int
  writtenNs : Int
  call_le : callNs ≤ testNs
  test_le : testNs ≤ writtenNs

namespace FileSink

-- how a JSON value is written out
variable (dump : Json → String)

def deviceChanged (s : FileSink) (name : String) (item : SnapshotItem) : FileSink × Bool :=
  let cur := dump (deviceJson name item)
  if s.lastDeviceJsonCache.get name ≠ some cur then
    ({ s with lastDeviceJsonCache := s.lastDeviceJsonCache.insert name cur }, true)
  else (s, false)

def healthChanged (s : FileSink) (name : String) (item : SnapshotItem) : FileSink × Bool :=
  let cur := dump (healthKeyJson item)
  if s.lastDeviceHealthCache.get name ≠ some cur then
    ({ s with lastDeviceHealthCache := s.lastDeviceHealthCache.insert name cur }, true)
  else (s, false)

/-- The second comparison is not made where the first finds a change. -/
def itemChanged (s : FileSink) (name : String) (item : SnapshotItem) : FileSink × Bool :=
  let device := s.deviceChanged dump name item
  if device.2 then (device.1, true) else device.1.healthChanged dump name item

/-- The loop over the items. -/
def hasChanged (s : FileSink) : List (String × SnapshotItem) → FileSink × Bool
  | [] => (s, false)
  | (name, item) :: items =>
    let first := s.itemChanged dump name item
    let rest := hasChanged first.1 items
    (rest.1, first.2 || rest.2)

def timeToFlushLatest (s : FileSink) (nowNs : Int) : Bool :=
  decide ((nowNs - s.lastLatestFlush).tdiv 1000000 ≥ s.minIntervalMs)

def airconStable (d : DataFields) : Bool :=
  (d.num.lookup "temp.indoor_c").isSome && (d.num.lookup "run.overall").isSome &&
    (d.status.lookup "alarm.any").isSome

/-- A snapshot with half a report of the air conditioner is kept out of the history. -/
def allowHistory (snap : SystemSnapshot) : Bool :=
  match snap.items.lookup "AirConditioner" with
  | none => true
  | some item => airconStable item.data

def appendHistory (s : FileSink) (snap : SystemSnapshot) : FileSink :=
  { s with history := s.history ++ [snap] }

/-- All operations on the files succeed. -/
def writeLatestAtomic (s : FileSink) (content : SystemSnapshot) (nowNs : Int) : FileSink :=
  { s with latest := some content, lastLatestFlush := nowNs }

/-- What a change does before the test of the interval. -/
def keepPending (s : FileSink) (snap : SystemSnapshot) : FileSink :=
  let s := if allowHistory snap then s.appendHistory snap else s
  { s with pendingSnap := snap, hasPending := true }

def flushPending (s : FileSink) (testNs writtenNs : Int) : FileSink :=
  if !s.timeToFlushLatest testNs then s
  else if s.hasPending then
    { s.writeLatestAtomic s.pendingSnap writtenNs with hasPending := false }
  else s

def onSnapshot (s : FileSink) (c : SnapshotCall) : FileSink :=
  let checked := s.hasChanged dump c.snap.items
  let s := { checked.1 with previous := some c.snap }
  if !checked.2 then s else (s.keepPending c.snap).flushPending c.testNs c.writtenNs

/-! ### What the sink compares -/

/-- An item differs from what is kept of it. -/
def DiffersFromKept (s : FileSink) (entry : String × SnapshotItem) : Prop :=
  s.lastDeviceJsonCache.get entry.1 ≠ some (dump (deviceJson entry.1 entry.2)) ∨
    s.lastDeviceHealthCache.get entry.1 ≠ some (dump (healthKeyJson entry.2))

variable {dump}

theorem itemChanged_iff (s : FileSink) (name : String) (item : SnapshotItem) :
    (s.itemChanged dump name item).2 = true ↔ s.DiffersFromKept dump (name, item) := by
  unfold itemChanged deviceChanged DiffersFromKept
  by_cases hdevice : s.lastDeviceJsonCache.get name ≠ some (dump (deviceJson name item))
  · simp only [if_pos hdevice, if_true]
    exact ⟨fun _ => Or.inl hdevice, fun _ => trivial⟩
  · simp only [if_neg hdevice, Bool.false_eq_true, if_false]
    unfold healthChanged
    by_cases hhealth : s.lastDeviceHealthCache.get name ≠ some (dump (healthKeyJson item))
    · simp only [if_pos hhealth]
      exact ⟨fun _ => Or.inr hhealth, fun _ => trivial⟩
    · simp only [if_neg hhealth, Bool.false_eq_true]
      exact ⟨False.elim, fun h => h.elim hdevice hhealth⟩

variable (dump) in
/-- The comparison of an item touches the texts of its own name, and nothing else. -/
theorem itemChanged_frame (s : FileSink) (name : String) (item : SnapshotItem) :
    let t := (s.itemChanged dump name item).1
    (∀ other, other ≠ name →
      t.lastDeviceJsonCache.get other = s.lastDeviceJsonCache.get other ∧
        t.lastDeviceHealthCache.get other = s.lastDeviceHealthCache.get other) ∧
    t.minIntervalMs = s.minIntervalMs ∧ t.lastLatestFlush = s.lastLatestFlush ∧
      t.latest = s.latest := by
  have hdevice : ∀ (s : FileSink) other, other ≠ name →
      (s.deviceChanged dump name item).1.lastDeviceJsonCache.get other =
          s.lastDeviceJsonCache.get other ∧
        (s.deviceChanged dump name item).1.lastDeviceHealthCache = s.lastDeviceHealthCache := by
    intro s other hne
    unfold deviceChanged
    dsimp only
    split
    · exact ⟨Dict.get_insert_of_ne _ hne _, rfl⟩
    · exact ⟨rfl, rfl⟩
  have hhealth : ∀ (s : FileSink) other, other ≠ name →
      (s.healthChanged dump name item).1.lastDeviceHealthCache.get other =
          s.lastDeviceHealthCache.get other ∧
        (s.healthChanged dump name item).1.lastDeviceJsonCache = s.lastDeviceJsonCache := by
    intro s other hne
    unfold healthChanged
    dsimp only
    split
    · exact ⟨Dict.get_insert_of_ne _ hne _, rfl⟩
    · exact ⟨rfl, rfl⟩
  have hkeep : ∀ s : FileSink,
      ((s.deviceChanged dump name item).1.minIntervalMs = s.minIntervalMs ∧
        (s.deviceChanged dump name item).1.lastLatestFlush = s.lastLatestFlush ∧
        (s.deviceChanged dump name item).1.latest = s.latest) ∧
      (s.healthChanged dump name item).1.minIntervalMs = s.minIntervalMs ∧
        (s.healthChanged dump name item).1.lastLatestFlush = s.lastLatestFlush ∧
        (s.healthChanged dump name item).1.latest = s.latest := by
    intro s
    unfold deviceChanged healthChanged
    dsimp only
    constructor <;> split <;> exact ⟨rfl, rfl, rfl⟩
  intro t
  by_cases hc : (s.deviceChanged dump name item).2 = true
  · have hitem : s.itemChanged dump name item = ((s.deviceChanged dump name item).1, true) :=
      if_pos hc
    have ht : t = (s.deviceChanged dump name item).1 := by
      show (s.itemChanged dump name item).1 = _
      rw [hitem]
    rw [ht]
    refine ⟨fun other hne => ?_, (hkeep s).1⟩
    rw [(hdevice s other hne).1, (hdevice s other hne).2]
    exact ⟨rfl, rfl⟩
  · have hitem : s.itemChanged dump name item =
        (s.deviceChanged dump name item).1.healthChanged dump name item := if_neg hc
    have ht : t = ((s.deviceChanged dump name item).1.healthChanged dump name item).1 :=
      congrArg Prod.fst hitem
    rw [ht]
    refine ⟨fun other hne => ?_, ?_⟩
    · rw [(hhealth _ other hne).1, (hhealth _ other hne).2, (hdevice s other hne).1,
        (hdevice s other hne).2]
      exact ⟨rfl, rfl⟩
    · obtain ⟨h1, h2, h3⟩ := (hkeep (s.deviceChanged dump name item).1).2
      obtain ⟨h4, h5, h6⟩ := (hkeep s).1
      exact ⟨h1.trans h4, h2.trans h5, h3.trans h6⟩

variable (dump) in
/-- The loop reports exactly when an item differs from what was kept before the loop. -/
theorem hasChanged_iff (items : List (String × SnapshotItem)) (s : FileSink)
    (hnodup : (items.map Prod.fst).Nodup) :
    (s.hasChanged dump items).2 = true ↔ ∃ entry ∈ items, s.DiffersFromKept dump entry := by
  induction items generalizing s with
  | nil =>
    exact ⟨fun h => absurd h Bool.false_ne_true, fun ⟨_, h, _⟩ => absurd h List.not_mem_nil⟩
  | cons entry items ih =>
    obtain ⟨name, item⟩ := entry
    obtain ⟨hnew, hrest⟩ := List.nodup_cons.mp hnodup
    have hframe := (itemChanged_frame dump s name item).1
    have hsame : ∀ entry ∈ items,
        ((s.itemChanged dump name item).1.DiffersFromKept dump entry ↔
          s.DiffersFromKept dump entry) := by
      intro entry hmem
      have hne : entry.1 ≠ name := by
        intro heq
        exact hnew (List.mem_map.mpr ⟨entry, hmem, heq⟩)
      rw [DiffersFromKept, DiffersFromKept, (hframe _ hne).1, (hframe _ hne).2]
    rw [hasChanged, Bool.or_eq_true, itemChanged_iff, ih _ hrest, List.exists_mem_cons_iff]
    exact or_congr_right (exists_congr fun entry => and_congr_right (hsame entry))

variable (dump) in
theorem hasChanged_frame (items : List (String × SnapshotItem)) (s : FileSink) :
    (s.hasChanged dump items).1.minIntervalMs = s.minIntervalMs ∧
      (s.hasChanged dump items).1.lastLatestFlush = s.lastLatestFlush ∧
      (s.hasChanged dump items).1.latest = s.latest := by
  induction items generalizing s with
  | nil => exact ⟨rfl, rfl, rfl⟩
  | cons entry items ih =>
    obtain ⟨h1, h2, h3⟩ := (itemChanged_frame dump s entry.1 entry.2).2
    obtain ⟨h4, h5, h6⟩ := ih (s.itemChanged dump entry.1 entry.2).1
    exact ⟨h4.trans h1, h5.trans h2, h6.trans h3⟩

end FileSink

/-! ### Runs -/

section Runs

variable (dump : Json → String)

/-- The sink from its construction on, with the interval already over. -/
def fileSink (minIntervalMs : Nat) (startNs : Int) : Machine FileSink SnapshotCall Unit where
  start :=
    { minIntervalMs := minIntervalMs, lastLatestFlush := startNs - minIntervalMs * 1000000 }
  step s c := (s.onSnapshot dump c, [])

/-- The texts of a snapshot, by item: of its data and of its health. -/
def content (snap : SystemSnapshot) : Dict String (String × String) := fun name =>
  (snap.items.lookup name).map fun item =>
    (dump (FileSink.deviceJson name item), dump (healthKeyJson item))

/-- The content of a call's snapshot is not that of the call before. -/
def ContentChanged (s : FileSink) (c : SnapshotCall) : Prop :=
  content dump c.snap ≠ (s.previous.map (content dump)).getD Dict.empty

/-- The call comes when the interval since the last writing is over. -/
def Due (s : FileSink) (c : SnapshotCall) : Prop := s.timeToFlushLatest c.callNs = true

def Reported (s : FileSink) (c : SnapshotCall) : Prop :=
  ∃ entry ∈ c.snap.items, s.DiffersFromKept dump entry

/-- The call writes the file. -/
def Flushes (s : FileSink) (c : SnapshotCall) : Prop :=
  Reported dump s c ∧ s.timeToFlushLatest c.testNs = true

variable {dump} {s : FileSink} {c : SnapshotCall}

theorem Due.flushes (hdue : Due s c) (hreported : Reported dump s c) : Flushes dump s c := by
  refine ⟨hreported, ?_⟩
  have hle := c.call_le
  unfold Due FileSink.timeToFlushLatest at *
  rw [decide_eq_true_eq] at hdue ⊢
  exact Int.le_trans hdue (Int.tdiv_le_tdiv (by decide) (by omega))

theorem keepPending_frame (s : FileSink) (snap : SystemSnapshot) :
    (s.keepPending snap).minIntervalMs = s.minIntervalMs ∧
      (s.keepPending snap).lastLatestFlush = s.lastLatestFlush ∧
      (s.keepPending snap).latest = s.latest := by
  unfold FileSink.keepPending FileSink.appendHistory
  dsimp only
  split <;> exact ⟨rfl, rfl, rfl⟩

theorem flushPending_of_due {testNs writtenNs : Int} (h : s.timeToFlushLatest testNs = true)
    (hpending : s.hasPending = true) :
    s.flushPending testNs writtenNs =
      { s.writeLatestAtomic s.pendingSnap writtenNs with hasPending := false } := by
  unfold FileSink.flushPending
  rw [h, Bool.not_true, if_neg Bool.false_ne_true, if_pos hpending]

theorem flushPending_of_early {testNs writtenNs : Int} (h : s.timeToFlushLatest testNs = false) :
    s.flushPending testNs writtenNs = s := by
  unfold FileSink.flushPending
  rw [h, Bool.not_false, if_pos rfl]

variable (dump) in
/-- What a call does to the file. -/
theorem onSnapshot_latest (s : FileSink) (c : SnapshotCall) :
    (Flushes dump s c → (s.onSnapshot dump c).latest = some c.snap) ∧
      (¬ Flushes dump s c → (s.onSnapshot dump c).latest = s.latest) := by
  have hiff := FileSink.hasChanged_iff dump c.snap.items s c.snap.nodup
  obtain ⟨hinterval, hflush, hlatest⟩ := FileSink.hasChanged_frame dump c.snap.items s
  unfold FileSink.onSnapshot
  dsimp only
  generalize s.hasChanged dump c.snap.items = checked at *
  by_cases hreported : checked.2 = true
  · rw [hreported, Bool.not_true, if_neg Bool.false_ne_true]
    generalize ht : ({ checked.1 with previous := some c.snap } : FileSink) = t
    have htime : (t.keepPending c.snap).timeToFlushLatest c.testNs =
        s.timeToFlushLatest c.testNs := by
      obtain ⟨h1, h2, -⟩ := keepPending_frame t c.snap
      unfold FileSink.timeToFlushLatest
      rw [h1, h2, ← ht, ← hinterval, ← hflush]
    constructor
    · intro hgo
      rw [flushPending_of_due (htime.trans hgo.2) rfl]
      rfl
    · intro hno
      have hlate : (t.keepPending c.snap).timeToFlushLatest c.testNs = false := by
        rw [htime, Bool.eq_false_iff]
        exact fun hgo => hno ⟨hiff.mp hreported, hgo⟩
      rw [flushPending_of_early hlate, (keepPending_frame t c.snap).2.2, ← ht, ← hlatest]
  · have hno : ¬ Flushes dump s c := fun h => hreported (hiff.mpr h.1)
    rw [Bool.eq_false_iff.mpr hreported]
    exact ⟨fun h => absurd h hno, fun _ => hlatest⟩

variable (dump) in
/-- The last call of the run that changed the content. -/
def LastChange (M : Machine FileSink SnapshotCall Unit) (es : List SnapshotCall)
    (c : SnapshotCall) : Prop :=
  ∃ pre post, es = pre ++ c :: post ∧ ContentChanged dump (M.run pre) c ∧
    ∀ mid x rest, post = mid ++ x :: rest → ¬ ContentChanged dump (M.run (pre ++ c :: mid)) x

variable (dump) in
/-- The file holds the content that the last change brought. -/
def HoldsLatest (minIntervalMs : Nat) (startNs : Int) (es : List SnapshotCall) : Prop :=
  ∃ c, LastChange dump (fileSink dump minIntervalMs startNs) es c ∧
    ((fileSink dump minIntervalMs startNs).run es).latest.map (content dump) =
      some (content dump c.snap)

variable (dump) in
/-- The content that the call brings is not that of the file. -/
def OutOfDate (s : FileSink) (c : SnapshotCall) : Prop :=
  s.latest.map (content dump) ≠ some (content dump c.snap)

variable {minIntervalMs : Nat} {startNs : Int} {es : List SnapshotCall}

theorem run_previous (es : List SnapshotCall) (x : SnapshotCall) :
    ((fileSink dump minIntervalMs startNs).run (es ++ [x])).previous = some x.snap := by
  have hkeep : ∀ t : FileSink, (t.keepPending x.snap).previous = t.previous := by
    intro t
    unfold FileSink.keepPending FileSink.appendHistory
    dsimp only
    split <;> rfl
  rw [Machine.run_snoc]
  show (FileSink.onSnapshot dump _ x).previous = _
  unfold FileSink.onSnapshot FileSink.flushPending
  dsimp only
  split
  · rfl
  · split
    · rw [hkeep]
    · split
      · exact hkeep _
      · exact hkeep _

/-- Without a change the content stays that of the call before. -/
theorem content_of_unchanged {y x : SnapshotCall}
    (h : ¬ ContentChanged dump ((fileSink dump minIntervalMs startNs).run (es ++ [y])) x) :
    content dump x.snap = content dump y.snap := by
  unfold ContentChanged at h
  rw [run_previous] at h
  exact not_not.mp h

theorem lastChange_snoc {M : Machine FileSink SnapshotCall Unit} {x c : SnapshotCall} :
    LastChange dump M (es ++ [x]) c ↔
      (c = x ∧ ContentChanged dump (M.run es) x) ∨
        (LastChange dump M es c ∧ ¬ ContentChanged dump (M.run es) x) := by
  constructor
  · rintro ⟨pre, post, hes, hchanged, hquiet⟩
    rcases List.eq_nil_or_concat post with rfl | ⟨post', z, rfl⟩
    · obtain ⟨rfl, hx⟩ := List.append_inj' hes rfl
      obtain rfl := List.singleton_inj.mp hx
      exact Or.inl ⟨rfl, hchanged⟩
    · rw [List.concat_eq_append, ← List.cons_append, ← List.append_assoc] at hes
      obtain ⟨rfl, hx⟩ := List.append_inj' hes rfl
      obtain rfl := List.singleton_inj.mp hx
      refine Or.inr ⟨⟨pre, post', rfl, hchanged, fun mid y rest hsplit => ?_⟩, ?_⟩
      · exact hquiet mid y (rest ++ [x]) (by rw [List.concat_eq_append, hsplit]; simp)
      · exact hquiet post' x [] List.concat_eq_append
  · rintro (⟨rfl, hchanged⟩ | ⟨⟨pre, post, rfl, hchanged, hquiet⟩, hsame⟩)
    · exact ⟨es, [], rfl, hchanged, fun mid y rest hnil => by cases mid <;> cases hnil⟩
    · refine ⟨pre, post ++ [x], by simp, hchanged, fun mid y rest hsplit => ?_⟩
      rcases List.eq_nil_or_concat rest with rfl | ⟨rest', z, rfl⟩
      · obtain ⟨rfl, hy⟩ := List.append_inj' hsplit rfl
        obtain rfl := List.singleton_inj.mp hy
        exact hsame
      · rw [List.concat_eq_append, ← List.cons_append, ← List.append_assoc] at hsplit
        exact hquiet mid y rest' (List.append_inj' hsplit rfl).1

/-- The content is still the one that the last change brought. -/
theorem LastChange.content_eq {x c : SnapshotCall}
    (h : LastChange dump (fileSink dump minIntervalMs startNs) (es ++ [x]) c) :
    content dump x.snap = content dump c.snap := by
  induction es using List.reverseRecOn generalizing x with
  | nil =>
    rcases lastChange_snoc.mp h with ⟨rfl, -⟩ | ⟨⟨pre, post, hnil, -⟩, -⟩
    · rfl
    · cases pre <;> cases hnil
  | append_singleton es y ih =>
    rcases lastChange_snoc.mp h with ⟨rfl, -⟩ | ⟨hbefore, hsame⟩
    · rfl
    · exact (content_of_unchanged hsame).trans (ih hbefore)

theorem exists_lastChange {M : Machine FileSink SnapshotCall Unit}
    (h : M.Occurred (ContentChanged dump) es) : ∃ c, LastChange dump M es c := by
  induction es using List.reverseRecOn with
  | nil => exact absurd h (M.not_occurred_nil _)
  | append_singleton es x ih =>
    by_cases hchanged : ContentChanged dump (M.run es) x
    · exact ⟨x, lastChange_snoc.mpr (Or.inl ⟨rfl, hchanged⟩)⟩
    · obtain ⟨c, hc⟩ := ih (((M.occurred_snoc _ es x).mp h).resolve_right hchanged)
      exact ⟨c, lastChange_snoc.mpr (Or.inr ⟨hc, hchanged⟩)⟩

/-- The file is up to date after a call exactly when it holds the content of that call. -/
theorem holdsLatest_snoc {x : SnapshotCall}
    (h : (fileSink dump minIntervalMs startNs).Occurred (ContentChanged dump) (es ++ [x])) :
    HoldsLatest dump minIntervalMs startNs (es ++ [x]) ↔
      ((fileSink dump minIntervalMs startNs).run (es ++ [x])).latest.map (content dump) =
        some (content dump x.snap) := by
  constructor
  · rintro ⟨c, hc, hholds⟩
    rw [hc.content_eq, hholds]
  · intro hholds
    obtain ⟨c, hc⟩ := exists_lastChange h
    exact ⟨c, hc, by rw [← hc.content_eq, hholds]⟩

end Runs

/-- Every call that comes when the interval is over leaves the file with the content that the
last change brought, if there was a change at all, in exactly the runs in which each such call
with another content than the file's differs from the texts that the sink has kept. -/
theorem latest_current_iff (dump : Json → String) (minIntervalMs : Nat) (startNs : Int)
    (es : List SnapshotCall) :
    (∀ pre c, pre ++ [c] <+: es → Due ((fileSink dump minIntervalMs startNs).run pre) c →
      (fileSink dump minIntervalMs startNs).Occurred (ContentChanged dump) (pre ++ [c]) →
      HoldsLatest dump minIntervalMs startNs (pre ++ [c])) ↔
    ∀ pre c, pre ++ [c] <+: es → Due ((fileSink dump minIntervalMs startNs).run pre) c →
      (fileSink dump minIntervalMs startNs).Occurred (ContentChanged dump) (pre ++ [c]) →
      OutOfDate dump ((fileSink dump minIntervalMs startNs).run pre) c →
      Reported dump ((fileSink dump minIntervalMs startNs).run pre) c := by
  refine forall_congr' fun pre => forall_congr' fun c => imp_congr_right fun _ =>
    imp_congr_right fun hdue => imp_congr_right fun hoccurred => ?_
  obtain ⟨hwrite, hkeep⟩ := onSnapshot_latest dump
    ((fileSink dump minIntervalMs startNs).run pre) c
  have hstep : ((fileSink dump minIntervalMs startNs).run (pre ++ [c])).latest =
      (((fileSink dump minIntervalMs startNs).run pre).onSnapshot dump c).latest := by
    rw [Machine.run_snoc]
    rfl
  rw [holdsLatest_snoc hoccurred, hstep]
  by_cases hreported : Reported dump ((fileSink dump minIntervalMs startNs).run pre) c
  · rw [hwrite (hdue.flushes hreported)]
    exact ⟨fun _ _ => hreported, fun _ => rfl⟩
  · rw [hkeep fun hflush => hreported hflush.1]
    refine ⟨fun hholds hout => absurd hholds hout, fun h => not_not.mp fun hout => ?_⟩
    exact hreported (h hout)

/-- A running air conditioner, with its alarm. -/
def airconSnapshot (alarm : Nat) : SystemSnapshot where
  items := [("AirConditioner",
    { health := .online, online := true
      data := {
        num := [("run.overall", 1), ("temp.indoor_c", 25)]
        status := [("alarm.any", alarm)] } })]
  nodup := List.pairwise_singleton _ _

/-- The texts of that air conditioner. -/
def airconText : Json → String
  | .object [_, _, ("alarm.any", .unsigned 0), _] =>
    "\x7b\"alarm.any\":0,\"remote.power\":0.0,\"run.overall\":1.0,\"temp.indoor_c\":25.0\x7d"
  | .object [_, _, ("alarm.any", .unsigned _), _] =>
    "\x7b\"alarm.any\":1,\"remote.power\":0.0,\"run.overall\":1.0,\"temp.indoor_c\":25.0\x7d"
  | _ => "\x7b\"disconnect_count\":0,\"disconnect_window_ms\":0,\"last_offline_ms\":0," ++
    "\"last_ok_ms\":0,\"online\":true,\"state\":0\x7d"

def callAt (alarm : Nat) (ms : Nat) : SnapshotCall where
  snap := airconSnapshot alarm
  callNs := ms * 1000000
  testNs := ms * 1000000
  writtenNs := ms * 1000000
  call_le := Int.le_refl _
  test_le := Int.le_refl _

/-- An alarm that comes 60 ms after a writing: the same snapshot at 400 ms is no change any more,
and the file stays without the alarm. -/
theorem throttled_alarm_withheld :
    let run := [callAt 0 0, callAt 0 50, callAt 1 60]
    Due ((fileSink airconText 100 0).run run) (callAt 1 400) ∧
      (fileSink airconText 100 0).Occurred (ContentChanged airconText) (run ++ [callAt 1 400]) ∧
      ¬ HoldsLatest airconText 100 0 (run ++ [callAt 1 400]) := by
  have hoccurred : (fileSink airconText 100 0).Occurred (ContentChanged airconText)
      ([callAt 0 0, callAt 0 50, callAt 1 60] ++ [callAt 1 400]) := by
    refine ⟨[], callAt 0 0, [callAt 0 50, callAt 1 60, callAt 1 400], rfl, fun h => ?_⟩
    exact absurd (congrFun h "AirConditioner") (by decide)
  refine ⟨by unfold Due; decide, hoccurred, ?_⟩
  rw [holdsLatest_snoc hoccurred]
  have hlatest : ((fileSink airconText 100 0).run
      ([callAt 0 0, callAt 0 50, callAt 1 60] ++ [callAt 1 400])).latest =
        some (airconSnapshot 0) := by
    rfl
  rw [hlatest, Option.map_some]
  intro h
  exact absurd (congrFun (Option.some_inj.mp h) "AirConditioner") (by decide)

end Snapshot
end EnergyStorage
