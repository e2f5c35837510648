import EnergyStorage.Bms.Loop

/-! # When high voltage is asked for

The clamp is stateless: what a battery's entry says after ageing decides alone.  So
a power-on command can be traced back to the messages of the run, through the stamps
they left and the fields they decoded to. -/

namespace EnergyStorage
namespace Bms

open Lib
open BmsCommandManager LogicAdapter

/-! ### Entries in reach -/

/-- What every entry made by messages and ageing satisfies. -/
structure EntryOk (x : BmsPerInstanceCache) : Prop where
  seen : x.seenOnce = true
  /-- No handler writes the level the command layer reads. -/
  fireFaultLevel : x.fireFaultLevel = 0
  allow : x.hvAllowClose = !x.hvShouldOpen

theorem ensure_fireFaultLevel {cache : BmsLogicCache}
    (h : ∀ name x, cache.items.get name = some x → EntryOk x) (name : String) (index : Nat) :
    (cache.ensure name index).fireFaultLevel = 0 := by
  show ((cache.items.get name).getD {}).fireFaultLevel = 0
  cases hx : cache.items.get name with
  | none => rfl
  | some x => exact (h name x hx).fireFaultLevel

theorem ageInstance_entryOk {x : BmsPerInstanceCache} (h : EntryOk x) (nowMs : Nat) :
    EntryOk (ageInstance nowMs x) :=
  ⟨h.seen, h.fireFaultLevel, h.allow⟩

def CacheOk (cache : BmsLogicCache) : Prop :=
  ∀ name x, cache.items.get name = some x → EntryOk x

theorem onDeviceData_cacheOk {cache : BmsLogicCache} (h : CacheOk cache) (d : DeviceData)
    (tsMs : Nat) : CacheOk (onDeviceData d tsMs cache) := by
  intro name x hx
  rw [get_onDeviceData] at hx
  split at hx
  · obtain rfl := Option.some_inj.mp hx
    refine ⟨receive_seenOnce _ _ _, ?_, (receive_hv _ _ _).2⟩
    rw [receive_fireFaultLevel]
    exact ensure_fireFaultLevel h _ _
  · exact h name x hx

theorem updateBmsRuntimeHealth_cacheOk {cache : BmsLogicCache} (h : CacheOk cache)
    (nowMs : Nat) : CacheOk (updateBmsRuntimeHealth cache nowMs) := by
  intro name x hx
  rw [get_updateBmsRuntimeHealth, Option.map_eq_some_iff] at hx
  obtain ⟨y, hy, rfl⟩ := hx
  exact ageInstance_entryOk (h name y hy) nowMs

theorem bmsLoop_cacheOk (cfg : BmsTxConfig) :
    (bmsLoop cfg).Invariant fun s => CacheOk s.cache where
  start name x hx := by cases hx
  step s e h := by
    cases e with
    | message d tsMs => exact onDeviceData_cacheOk h d tsMs
    | age tsMs => exact updateBmsRuntimeHealth_cacheOk h tsMs
    | tick tsMs hv => exact updateBmsRuntimeHealth_cacheOk h tsMs

/-! ### The verdict on an entry in reach -/

/-- What an entry must say, at time `t`, for its battery to be closed. -/
structure Closable (t : Nat) (x : BmsPerInstanceCache) : Prop where
  critical : ∀ g ∈ criticalGroups,
    x.lastMs g ≠ 0 ∧ x.lastMs g ≤ t ∧ t - x.lastMs g ≤ groupTimeoutMs g
  recent : x.lastRxMs ≠ 0 ∧ x.lastRxMs ≤ t ∧ t - x.lastRxMs ≤ instanceTimeoutMs
  noRequest : x.st2.rqHvPowerOff = false
  faultLevel : x.st2.faultLevel < 2
  tmsLevel : x.tm2b.faultLevel < 2
  keep : x.hvShouldOpen = false

theorem safetyBlockReason_ageInstance_iff {x : BmsPerInstanceCache} (hx : EntryOk x)
    (t : Nat) :
    safetyBlockReason (ageInstance t x) = .allowClose ↔ Closable t x := by
  have hstale : (ageInstance t x).runtimeFaultStale = false ↔
      ¬ ∃ g ∈ criticalGroups, 0 < x.lastMs g ∧ (ageInstance t x).groupOnline g = false := by
    rw [← Bool.not_eq_true, ageInstance_runtimeFaultStale]
  rw [safetyBlockReason_eq_allowClose_iff, ageInstance_online, hstale]
  obtain ⟨hms, hrx, hseen, -, hst2, htm2b, -, hfire, hallow, hopen⟩ := ageInstance_decoded t x
  rw [hms, hseen, hst2, htm2b, hfire, hallow, hx.fireFaultLevel, hx.allow, hx.seen]
  constructor
  · rintro ⟨-, ⟨-, hrecent⟩, -, hcrit, hrq, -, hfault, htms, hkeep⟩
    refine ⟨fun g hg => ?_, hrecent, hrq, hfault, htms, by simpa using hkeep⟩
    exact ageInstance_groupOnline.mp (hcrit g hg).2
  · intro h
    have hcrit : ∀ g ∈ criticalGroups, x.lastMs g ≠ 0 ∧ (ageInstance t x).groupOnline g = true :=
      fun g hg => ⟨(h.critical g hg).1, ageInstance_groupOnline.mpr (h.critical g hg)⟩
    refine ⟨rfl, ⟨rfl, h.recent⟩, ?_, hcrit, h.noRequest, by decide, h.faultLevel, h.tmsLevel,
      by simp [h.keep]⟩
    rintro ⟨g, hg, -, hoff⟩
    rw [(hcrit g hg).2] at hoff
    cases hoff

/-- The battery of this index may be closed, as the cache stands at time `t`. -/
def MayClose (cache : BmsLogicCache) (t idx : Nat) : Prop :=
  ∃ x, cache.items.get (makeName idx) = some x ∧ Closable t x

theorem allowed_iff_mayClose {cache : BmsLogicCache} (h : CacheOk cache) (t idx : Nat) :
    Allowed (updateBmsRuntimeHealth cache t) idx ↔ MayClose cache t idx := by
  constructor
  · rintro ⟨y, hy, hr⟩
    rw [get_updateBmsRuntimeHealth, Option.map_eq_some_iff] at hy
    obtain ⟨x, hx, rfl⟩ := hy
    exact ⟨x, hx, (safetyBlockReason_ageInstance_iff (h _ x hx) t).mp hr⟩
  · rintro ⟨x, hx, hc⟩
    refine ⟨ageInstance t x, ?_, (safetyBlockReason_ageInstance_iff (h _ x hx) t).mpr hc⟩
    rw [get_updateBmsRuntimeHealth, hx, Option.map_some]

/-! ### Power-on commands -/

/-- Some command asks battery `idx` to power on.  The commands that carry a mirror
are not for the batteries. -/
def PowersOn (cs : List Command) (idx : Nat) : Prop :=
  ∃ c ∈ cs, c.hasTxMirror = false ∧ BmsTx.instanceOf c.frame = idx ∧ BmsTx.hvOf c.frame = 1

instance (cs : List Command) (idx : Nat) : Decidable (PowersOn cs idx) :=
  inferInstanceAs (Decidable (∃ c ∈ cs, _ ∧ _ ∧ _))

/-- The period has passed since the battery's last command. -/
def Due (cfg : BmsTxConfig) (s : BmsState) (t idx : Nat) : Prop :=
  isDue t cfg.periodMs (s.mgr.states idx) = true

section Tick

variable (cfg : BmsTxConfig) (pre : List BmsEvent) (t : Nat) (hv : Nat → Option Nat)

theorem finalHv_eq_one_iff {cache : BmsLogicCache} (h : CacheOk cache) (idx : Nat) :
    finalHv (updateBmsRuntimeHealth cache t) hv idx % 4 = 1 ↔
      MayClose cache t idx ∧ (hv idx).getD 1 % 4 = 1 := by
  rw [finalHv, ← allowed_iff_mayClose h]
  by_cases ha : Allowed (updateBmsRuntimeHealth cache t) idx
  · rw [if_pos ha, and_iff_right ha]
  · rw [if_neg ha, and_iff_not_or_not]
    simp [ha]

/-- What a command of a tick says about the state it was sent from. -/
theorem mem_emitted_tick {c : Command} (hc : c ∈ (bmsLoop cfg).emitted pre (.tick t hv)) :
    cfg.active = true ∧ c.hasTxMirror = false ∧ BmsTx.instanceOf c.frame ∈ instances ∧
      Due cfg ((bmsLoop cfg).run pre) t (BmsTx.instanceOf c.frame) ∧
      (BmsTx.hvOf c.frame = 1 ↔
        MayClose ((bmsLoop cfg).run pre).cache t (BmsTx.instanceOf c.frame) ∧
          (hv (BmsTx.instanceOf c.frame)).getD 1 % 4 = 1) := by
  have hbound := (bmsLoop_bound cfg).run pre
  have hok := (bmsLoop_cacheOk cfg).run pre
  rw [Machine.emitted] at hc
  generalize (bmsLoop cfg).run pre = s at hbound hok hc ⊢
  have hactive : cfg.active = true := by
    by_contra hoff
    change c ∈ (commandTick cfg.active _ _ _ _ _).2 at hc
    rw [Bool.eq_false_of_not_eq_true hoff] at hc
    cases hc
  change c ∈ (commandTick cfg.active cfg.periodMs (updateBmsRuntimeHealth s.cache t) t hv
    s.mgr).2 at hc
  rw [hactive] at hc
  obtain ⟨hmirror, hinst, hdue, hval⟩ := mem_commandTick hbound c hc
  refine ⟨hactive, hmirror, hinst, hdue, ?_⟩
  rw [hval]
  exact finalHv_eq_one_iff t hv hok _

theorem exists_emitted_tick {idx : Nat} (hactive : cfg.active = true) (hidx : idx ∈ instances)
    (hdue : Due cfg ((bmsLoop cfg).run pre) t idx) :
    ∃ c ∈ (bmsLoop cfg).emitted pre (.tick t hv), BmsTx.instanceOf c.frame = idx := by
  have hbound := (bmsLoop_bound cfg).run pre
  rw [Machine.emitted]
  generalize (bmsLoop cfg).run pre = s at hbound hdue ⊢
  obtain ⟨c, hc, -, hinst, -⟩ :=
    exists_commandTick (updateBmsRuntimeHealth s.cache t) hv hbound hidx hdue
  refine ⟨c, ?_, hinst⟩
  show c ∈ (commandTick cfg.active _ _ _ _ _).2
  rw [hactive]
  exact hc

/-- A tick asks a battery to power on exactly when the manager runs, the period has
passed, the entry allows it, and the business layer has not written another value. -/
theorem powersOn_tick_iff (idx : Nat) :
    PowersOn ((bmsLoop cfg).emitted pre (.tick t hv)) idx ↔
      cfg.active = true ∧ idx ∈ instances ∧ Due cfg ((bmsLoop cfg).run pre) t idx ∧
        MayClose ((bmsLoop cfg).run pre).cache t idx ∧ (hv idx).getD 1 % 4 = 1 := by
  constructor
  · rintro ⟨c, hc, -, rfl, hon⟩
    obtain ⟨hactive, -, hinst, hdue, hval⟩ := mem_emitted_tick cfg pre t hv hc
    exact ⟨hactive, hinst, hdue, hval.mp hon⟩
  · rintro ⟨hactive, hidx, hdue, hon⟩
    obtain ⟨c, hc, rfl⟩ := exists_emitted_tick cfg pre t hv hactive hidx hdue
    obtain ⟨-, hmirror, -, -, hval⟩ := mem_emitted_tick cfg pre t hv hc
    exact ⟨c, hc, hmirror, rfl, hval.mpr hon⟩

end Tick

/-! ### What the run has received -/

section Received

variable (cfg : BmsTxConfig)

/-- The stamp of a message about battery `idx`. -/
def receivedAny (idx : Nat) : BmsEvent → Option Nat
  | .message d tsMs => if Addressed (makeName idx) d then some tsMs else none
  | _ => none

/-- The stamp of a message of group `g` about battery `idx`. -/
def receivedGroup (idx : Nat) (g : BmsGroup) : BmsEvent → Option Nat
  | .message d tsMs => if Addressed (makeName idx) d ∧ groupOf d = some g then some tsMs else none
  | _ => none

/-- When the latest message about battery `idx` came. -/
def lastMessage (idx : Nat) (es : List BmsEvent) : Option Nat :=
  (bmsLoop cfg).latest (fun _ e => receivedAny idx e) es

/-- When the latest message of group `g` about battery `idx` came. -/
def lastReceived (idx : Nat) (g : BmsGroup) (es : List BmsEvent) : Option Nat :=
  (bmsLoop cfg).latest (fun _ e => receivedGroup idx g e) es

/-- A stamp as it stands in the cache, `0` while there is no entry. -/
def stampIn (cache : BmsLogicCache) (idx : Nat) (f : BmsPerInstanceCache → Nat) : Nat :=
  ((cache.items.get (makeName idx)).map f).getD 0

theorem stampIn_updateBmsRuntimeHealth (cache : BmsLogicCache) (nowMs idx : Nat)
    {f : BmsPerInstanceCache → Nat} (hf : ∀ x, f (ageInstance nowMs x) = f x) :
    stampIn (updateBmsRuntimeHealth cache nowMs) idx f = stampIn cache idx f := by
  rw [stampIn, stampIn, get_updateBmsRuntimeHealth, Option.map_map]
  congr 2
  funext x
  exact hf x

/-- A stamp that every message about the battery either sets to its time or keeps is
the time of the latest message that set it. -/
theorem stampIn_run {idx : Nat} {f : BmsPerInstanceCache → Nat} {p : DeviceData → Prop}
    [DecidablePred p]
    (hmsg : ∀ (cache : BmsLogicCache) d tsMs, Addressed (makeName idx) d →
      f (receive d tsMs (cache.ensure (makeName idx) (parseInstanceIndex d))) =
        if p d then tsMs else stampIn cache idx f)
    (hage : ∀ nowMs x, f (ageInstance nowMs x) = f x)
    {sel : BmsEvent → Option Nat}
    (hsel : ∀ d tsMs, sel (.message d tsMs) =
      if Addressed (makeName idx) d ∧ p d then some tsMs else none)
    (hselAge : ∀ tsMs, sel (.age tsMs) = none)
    (hselTick : ∀ tsMs hv, sel (.tick tsMs hv) = none) (es : List BmsEvent) :
    stampIn ((bmsLoop cfg).run es).cache idx f =
      ((bmsLoop cfg).latest (fun _ e => sel e) es).getD 0 := by
  refine (bmsLoop cfg).register_eq_latest (fun s => stampIn s.cache idx f) ?_ es
  intro pre e
  cases e with
  | message d tsMs =>
    rw [hsel]
    show stampIn (onDeviceData d tsMs ((bmsLoop cfg).run pre).cache) idx f = _
    rw [stampIn, get_onDeviceData]
    by_cases haddr : Addressed (makeName idx) d
    · rw [if_pos haddr, Option.map_some, Option.getD_some, hmsg _ _ _ haddr]
      by_cases hp : p d
      · rw [if_pos hp, if_pos ⟨haddr, hp⟩]
        rfl
      · rw [if_neg hp, if_neg fun h => hp h.2]
        rfl
    · rw [if_neg haddr, if_neg fun h => haddr h.1]
      rfl
  | age tsMs =>
    rw [hselAge]
    exact stampIn_updateBmsRuntimeHealth _ _ _ (hage tsMs)
  | tick tsMs hv =>
    rw [hselTick]
    exact stampIn_updateBmsRuntimeHealth _ _ _ (hage tsMs)

theorem lastMs_run (idx : Nat) (g : BmsGroup) (es : List BmsEvent) :
    stampIn ((bmsLoop cfg).run es).cache idx (fun x => x.lastMs g) =
      (lastReceived cfg idx g es).getD 0 := by
  refine stampIn_run cfg (p := fun d => groupOf d = some g) ?_ (fun _ _ => rfl)
    (fun _ _ => rfl) (fun _ => rfl) (fun _ _ => rfl) es
  intro cache d tsMs _
  rw [receive_lastMs, ensure_lastMs]
  rfl

theorem lastRxMs_run (idx : Nat) (es : List BmsEvent) :
    stampIn ((bmsLoop cfg).run es).cache idx (fun x => x.lastRxMs) =
      (lastMessage cfg idx es).getD 0 := by
  refine stampIn_run cfg (p := fun _ => True) ?_ (fun _ _ => rfl) ?_ (fun _ => rfl)
    (fun _ _ => rfl) es
  · intro cache d tsMs _
    rw [receive_lastRxMs, if_pos trivial]
  · intro d tsMs
    simp only [receivedAny, and_true]

/-- The time `r`, if any, lies at most `limit` before `t`. -/
def Within (t limit : Nat) (r : Option Nat) : Prop := ∃ m ∈ r, m ≤ t ∧ t - m ≤ limit

theorem within_of_stamp {t limit : Nat} {r : Option Nat} {stamp : Nat}
    (hr : stamp = r.getD 0) (h : stamp ≠ 0 ∧ stamp ≤ t ∧ t - stamp ≤ limit) :
    Within t limit r := by
  obtain ⟨hne, hle, hlim⟩ := h
  cases r with
  | none => exact absurd hr hne
  | some m =>
    have hm : stamp = m := hr
    rw [hm] at hle hlim
    exact ⟨m, rfl, hle, hlim⟩

end Received

/-- Whatever the business layer writes, a power-on command goes out only on fresh
messages and a state without a reason to stay open. -/
theorem powerOn_fresh (cfg : BmsTxConfig) (pre : List BmsEvent) (t : Nat)
    (hv : Nat → Option Nat) (c : Command)
    (hc : c ∈ (bmsLoop cfg).emitted pre (.tick t hv)) (hon : BmsTx.hvOf c.frame = 1) :
    Within t 3000 (lastReceived cfg (BmsTx.instanceOf c.frame) .st2 pre) ∧
      Within t 5000 (lastReceived cfg (BmsTx.instanceOf c.frame) .fault1 pre) ∧
      Within t 5000 (lastReceived cfg (BmsTx.instanceOf c.frame) .fault2 pre) ∧
      Within t 3000 (lastReceived cfg (BmsTx.instanceOf c.frame) .currentLimit pre) ∧
      Within t 5000 (lastMessage cfg (BmsTx.instanceOf c.frame) pre) ∧
      ∃ x, ((bmsLoop cfg).run pre).cache.items.get (makeName (BmsTx.instanceOf c.frame)) =
          some x ∧
        x.st2.rqHvPowerOff = false ∧ x.st2.faultLevel < 2 ∧ x.tm2b.faultLevel < 2 ∧
        x.hvShouldOpen = false := by
  obtain ⟨-, -, -, -, hval⟩ := mem_emitted_tick cfg pre t hv hc
  obtain ⟨⟨x, hx, hclose⟩, -⟩ := hval.mp hon
  generalize BmsTx.instanceOf c.frame = idx at hx ⊢
  have hgroup : ∀ g ∈ criticalGroups,
      Within t (groupTimeoutMs g) (lastReceived cfg idx g pre) := by
    intro g hg
    have hstamp := lastMs_run cfg idx g pre
    rw [stampIn, hx, Option.map_some, Option.getD_some] at hstamp
    exact within_of_stamp hstamp (hclose.critical g hg)
  have hany : Within t 5000 (lastMessage cfg idx pre) := by
    have hstamp := lastRxMs_run cfg idx pre
    rw [stampIn, hx, Option.map_some, Option.getD_some] at hstamp
    exact within_of_stamp hstamp hclose.recent
  exact ⟨hgroup .st2 (by decide), hgroup .fault1 (by decide), hgroup .fault2 (by decide),
    hgroup .currentLimit (by decide), hany, x, hx, hclose.noRequest, hclose.faultLevel,
    hclose.tmsLevel, hclose.keep⟩

def defaultTx : BmsTxConfig := ⟨2, 0x1802F3EF#32, true, 100⟩

/-- A power-on command and what it rests on. -/
theorem powerOn_fresh_quietStart :
    ∃ c ∈ (bmsLoop defaultTx).emitted (quietStart.flatMap onBus) (.tick 200 fun _ => some 1),
      Within 200 3000 (lastReceived defaultTx (BmsTx.instanceOf c.frame) .st2
        (quietStart.flatMap onBus)) := by
  have hon : ((bmsLoop defaultTx).emitted (quietStart.flatMap onBus)
      (.tick 200 fun _ => some 1)).any (fun c => BmsTx.hvOf c.frame == 1) = true := by
    decide +kernel
  obtain ⟨c, hc, hval⟩ := List.any_eq_true.mp hon
  exact ⟨c, hc, (powerOn_fresh defaultTx _ 200 _ c hc (by simpa using hval)).1⟩

end Bms
end EnergyStorage
