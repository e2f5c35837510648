import EnergyStorage.Bms.Loop
import EnergyStorage.Bms.TxFrame
import EnergyStorage.Lib.Beacon

/-! # The life signals of the battery commands

Every tick proposes the commands anew, lets the business layer write whatever it wants into
them, and clamps them.  What counts the frames and times them is kept apart from that. -/

namespace EnergyStorage
namespace Bms

open Lib

namespace BmsCommandManager

/-! ### Any change of a command -/

/-- The handle on a command, before anything is written through it. -/
def mutableDesired (defaultCanIndex : Int) (idx : Nat) (source : String) (st : BmsCommandState) :
    BmsCommandState :=
  let st := ensureState defaultCanIndex idx st
  { st with desired := { st.desired with
      instanceIndex := idx, canIndex := defaultCanIndex, valid := true,
      source := if source ≠ "" then source else st.desired.source } }

/-- What the business layer writes through its handles, per instance. -/
def editDesired (m : BmsCommandManager) (edit : Nat → Option (V2bCmdFields → V2bCmdFields)) :
    BmsCommandManager :=
  { m with states := forInstances (fun idx st =>
      match edit idx with
      | some f =>
        let st := mutableDesired m.defaultCanIndex idx "business" st
        { st with desired := f st.desired }
      | none => st) m.states }

theorem writeBusiness_eq (m : BmsCommandManager) (hv : Nat → Option Nat) :
    m.writeBusiness hv =
      m.editDesired fun idx => (hv idx).map fun v d => { d with hvOnoff := v } := by
  unfold writeBusiness editDesired
  congr 2
  funext idx st
  beta_reduce
  cases hv idx with
  | none => rfl
  | some v => rfl

end BmsCommandManager

open BmsCommandManager

/-- A tick, with the cache it finds and what the business layer writes. -/
structure DesiredTick where
  tsMs : Nat
  cache : BmsLogicCache
  edit : Nat → Option (V2bCmdFields → V2bCmdFields)

/-- The commands before transmission. -/
def prepare (x : DesiredTick) (mgr : BmsCommandManager) : BmsCommandManager :=
  ((mgr.rebuildDesiredFromCache x.cache x.tsMs).editDesired x.edit).enforceSafetyFromCache
    x.cache x.tsMs

def desiredTick (active : Bool) (periodMs : Nat) (mgr : BmsCommandManager) (x : DesiredTick) :
    BmsCommandManager × List Command :=
  if active then (prepare x mgr).emitPeriodicCommands x.tsMs periodMs
  else (mgr.editDesired x.edit, [])

theorem commandTick_eq (active : Bool) (periodMs : Nat) (cache : BmsLogicCache) (tsMs : Nat)
    (hv : Nat → Option Nat) (mgr : BmsCommandManager) :
    commandTick active periodMs cache tsMs hv mgr = desiredTick active periodMs mgr
      ⟨tsMs, cache, fun idx => (hv idx).map fun v d => { d with hvOnoff := v }⟩ := by
  cases active with
  | false =>
    show (mgr.writeBusiness hv, []) = _
    rw [writeBusiness_eq]
    rfl
  | true =>
    show (((mgr.rebuildDesiredFromCache cache tsMs).writeBusiness hv).enforceSafetyFromCache
      cache tsMs).emitPeriodicCommands tsMs periodMs = _
    rw [writeBusiness_eq]
    rfl

def commandLoop (cfg : BmsTxConfig) : Machine BmsCommandManager DesiredTick Command where
  start := (BmsCommandManager.init {} cfg.canIndex cfg.v2bCmdId29).1
  step := desiredTick cfg.active cfg.periodMs

/-- What an event of the battery side is to the commands. -/
def desiredTicks (s : BmsState) : BmsEvent → List DesiredTick
  | .message _ _ => []
  | .age _ => []
  | .tick tsMs hv => [⟨tsMs, updateBmsRuntimeHealth s.cache tsMs,
      fun idx => (hv idx).map fun v d => { d with hvOnoff := v }⟩]

/-- The manager of the battery side is run by its ticks. -/
theorem bmsLoop_mgr (cfg : BmsTxConfig) (es : List BmsEvent) :
    ((bmsLoop cfg).run es).mgr = (commandLoop cfg).run ((bmsLoop cfg).trace desiredTicks es) := by
  refine (bmsLoop cfg).refines _ rfl ?_ es
  intro pre e
  cases e with
  | message d tsMs => rfl
  | age tsMs => rfl
  | tick tsMs hv => exact congrArg Prod.fst (commandTick_eq _ _ _ _ _ _)

/-! ### One instance in one tick -/

theorem ensureState_lastLife (can : Int) (idx : Nat) (st : BmsCommandState) :
    (ensureState can idx st).lastLife = st.lastLife := by
  rw [ensureState]
  split <;> rfl

theorem rebuildInstance_lastLife (can : Int) (cache : BmsLogicCache) (tsMs idx : Nat)
    (st : BmsCommandState) : (rebuildInstance can cache tsMs idx st).lastLife = st.lastLife := by
  rw [← ensureState_lastLife can idx st, rebuildInstance]
  split <;> rfl

theorem enforceInstance_lastLife (can : Int) (cache : BmsLogicCache) (tsMs idx : Nat)
    (st : BmsCommandState) : (enforceInstance can cache tsMs idx st).lastLife = st.lastLife := by
  rw [← ensureState_lastLife can idx st, enforceInstance]
  split
  · rfl
  · dsimp only
    split <;> rfl

/-- The counter and the time of the last frame stay. -/
structure Kept (old st : BmsCommandState) : Prop where
  life : st.lastLife = old.lastLife
  sendTs : st.lastSendTsMs = old.lastSendTsMs

theorem editDesired_kept (mgr : BmsCommandManager)
    (edit : Nat → Option (V2bCmdFields → V2bCmdFields)) (idx : Nat) :
    Kept (mgr.states idx) ((mgr.editDesired edit).states idx) := by
  unfold editDesired forInstances
  by_cases hidx : idx ∈ instances
  · simp only [if_pos hidx]
    cases edit idx with
    | none => exact ⟨rfl, rfl⟩
    | some f => exact ⟨ensureState_lastLife _ _ _, ensureState_lastSendTsMs _ _ _⟩
  · simp only [if_neg hidx]
    exact ⟨rfl, rfl⟩

/-- An instance ready for transmission. -/
structure Prepared (idx : Nat) (old st : BmsCommandState) : Prop extends Kept old st where
  instanceIndex : st.desired.instanceIndex = idx
  valid : st.desired.valid = true

theorem prepare_prepared (x : DesiredTick) (mgr : BmsCommandManager) {idx : Nat}
    (hidx : idx ∈ instances) : Prepared idx (mgr.states idx) ((prepare x mgr).states idx) := by
  have hproposed : (mgr.rebuildDesiredFromCache x.cache x.tsMs).states idx =
      rebuildInstance mgr.defaultCanIndex x.cache x.tsMs idx (mgr.states idx) := if_pos hidx
  have hedited := editDesired_kept (mgr.rebuildDesiredFromCache x.cache x.tsMs) x.edit idx
  have hclamped : (prepare x mgr).states idx = enforceInstance mgr.defaultCanIndex x.cache x.tsMs
      idx (((mgr.rebuildDesiredFromCache x.cache x.tsMs).editDesired x.edit).states idx) :=
    if_pos hidx
  rw [hproposed] at hedited
  rw [hclamped]
  refine ⟨⟨?_, ?_⟩, (enforceInstance_desired _ _ _ _ _).1, (enforceInstance_desired _ _ _ _ _).2⟩
  · rw [enforceInstance_lastLife, hedited.life, rebuildInstance_lastLife]
  · rw [enforceInstance_lastSendTsMs, hedited.sendTs, rebuildInstance_lastSendTsMs]

theorem prepare_of_not_mem (x : DesiredTick) (mgr : BmsCommandManager) {idx : Nat}
    (hidx : idx ∉ instances) : (prepare x mgr).states idx = mgr.states idx := by
  simp only [prepare, enforceSafetyFromCache, editDesired, rebuildDesiredFromCache, forInstances,
    if_neg hidx]

/-! ### What an instance sends -/

/-- The life signal in a frame. -/
def lifeOf (fr : CanFrame) : Nat := BitField.read fr.data 0 8

theorem lifeSignal_mem : ∃ sig ∈ BmsTx.v2bMessage.signals,
    sig.name = "V2B_CMD_LifeSignal" ∧ sig.startbitLsb = 0 ∧ sig.length = 8 := by
  decide

theorem lifeOf_build {tx : BmsTx} (htx : BmsTx.Bound tx) {cmd : V2bCmdFields}
    {fr : CanFrame} (h : tx.buildFrameForInstance cmd = some fr) (hvalid : cmd.valid = true) :
    lifeOf fr = cmd.lifeSignal % 256 := by
  obtain ⟨sig, hsig, hname, hstart, hlength⟩ := lifeSignal_mem
  have hread := BmsTx.read_packed hsig 0#64 cmd.signals
  have hnodup : (cmd.signals.map Prod.fst).Nodup := by
    rw [BmsTx.signals_names]
    exact BmsTx.v2b_names_nodup
  have hlast : BmsTx.lastValue cmd.signals sig.name = some cmd.lifeSignal := by
    rw [hname]
    exact BmsTx.lastValue_of_mem hnodup List.mem_cons_self
  rw [hlast, hstart, hlength] at hread
  rw [BmsTx.build_command htx.msg hvalid, htx.overrides, List.append_nil] at h
  obtain rfl := Option.some_inj.mp h
  exact hread

/-- A prepared instance that is due sends its counter and counts on; one that is not keeps
still. -/
theorem emitInstance_prepared {tx : BmsTx} (htx : BmsTx.Bound tx) {idx : Nat}
    (hidx : idx ∈ instances) {old st : BmsCommandState} (hst : Prepared idx old st)
    (can : Int) (tsMs periodMs : Nat) :
    (isDue tsMs periodMs old = false ∧ emitInstance can tx tsMs periodMs idx st = (st, none)) ∨
    (isDue tsMs periodMs old = true ∧ ∃ st' c,
      emitInstance can tx tsMs periodMs idx st = (st', some c) ∧
      BmsTx.instanceOf c.frame = idx ∧ lifeOf c.frame = old.lastLife % 256 ∧
      st'.lastLife = (old.lastLife + 1) % 256 ∧ st'.lastSendTsMs = tsMs) := by
  have hdue : isDue tsMs periodMs st = isDue tsMs periodMs old := by
    rw [isDue, isDue, hst.sendTs]
  have hkeep : ensureState can idx st = st := by
    refine if_neg ?_
    rw [hst.instanceIndex]
    exact instances_pos hidx
  rw [emitInstance, hkeep]
  simp only [hdue]
  cases isDue tsMs periodMs old with
  | false => exact Or.inl ⟨rfl, rfl⟩
  | true =>
    obtain ⟨fr, hfr, hinst, -⟩ := htx.build
      { st.desired with lifeSignal := st.lastLife, requestTsMs := tsMs } hst.valid
      (by rw [hst.instanceIndex]; exact valid_of_mem_instances hidx)
    have hlife := lifeOf_build htx hfr hst.valid
    have hinst' : BmsTx.instanceOf fr = idx := hinst.trans hst.instanceIndex
    have hlife' : lifeOf fr = old.lastLife % 256 := hlife.trans (congrArg (· % 256) hst.life)
    have hcount : (st.lastLife + 1) % 2 ^ 8 = (old.lastLife + 1) % 256 :=
      congrArg (fun n => (n + 1) % 256) hst.life
    refine Or.inr ⟨rfl, ?_⟩
    simp only [hfr, not_true_eq_false, if_false]
    exact ⟨_, _, rfl, hinst', hlife', hcount, rfl⟩

/-! ### What a tick sends for one instance -/

/-- The frames among the commands that are for the instance. -/
def framesOf (idx : Nat) (cs : List Command) : List CanFrame :=
  (cs.map Command.frame).filter fun fr => BmsTx.instanceOf fr = idx

theorem framesOf_filterMap {send : Nat → Option Command} {is : List Nat} (hnodup : is.Nodup)
    (hsend : ∀ i ∈ is, ∀ c ∈ send i, BmsTx.instanceOf c.frame = i) (idx : Nat) :
    framesOf idx (is.filterMap send) =
      if idx ∈ is then ((send idx).map Command.frame).toList else [] := by
  induction is with
  | nil => rfl
  | cons i is ih =>
    obtain ⟨hfresh, hnodup⟩ := List.nodup_cons.mp hnodup
    have hrest := ih hnodup fun i' hi' => hsend i' (List.mem_cons_of_mem i hi')
    cases hi : send i with
    | none =>
      rw [List.filterMap_cons_none hi, hrest]
      by_cases hidx : idx = i
      · subst hidx
        rw [if_neg hfresh, if_pos List.mem_cons_self, hi]
        rfl
      · simp only [List.mem_cons, hidx, false_or]
    | some c =>
      have hfor := hsend i List.mem_cons_self c hi
      rw [List.filterMap_cons_some hi]
      show (c.frame :: (is.filterMap send).map Command.frame).filter _ = _
      rw [List.filter_cons, hfor]
      change (if _ then c.frame :: framesOf idx (is.filterMap send) else
        framesOf idx (is.filterMap send)) = _
      rw [hrest]
      by_cases hidx : idx = i
      · subst hidx
        rw [if_neg hfresh, if_pos List.mem_cons_self, hi, if_pos (decide_eq_true rfl)]
        rfl
      · rw [if_neg (by simpa using Ne.symm hidx)]
        simp only [List.mem_cons, hidx, false_or]

/-- When the instance is due, going by the subtraction on a clock that never goes back. -/
def dueMs (periodMs : Nat) (st : BmsCommandState) : Nat :=
  if st.lastSendTsMs = 0 then 0 else st.lastSendTsMs + periodMs

theorem isDue_iff {tsMs : Nat} (periodMs : Nat) {st : BmsCommandState}
    (hlast : st.lastSendTsMs ≤ tsMs) (hfits : tsMs < 2 ^ 64) :
    isDue tsMs periodMs st = true ↔ dueMs periodMs st ≤ tsMs := by
  have hsub : subU64 tsMs st.lastSendTsMs = tsMs - st.lastSendTsMs := by
    unfold subU64
    omega
  simp only [isDue, dueMs, hsub, Bool.not_eq_true', Bool.and_eq_false_iff, decide_eq_false_iff_not]
  by_cases hnever : st.lastSendTsMs = 0
  · simp [hnever]
  · rw [if_neg hnever]
    omega

/-- The beats of an instance in a tick. -/
def lifeBeats (cfg : BmsTxConfig) (idx : Nat) (mgr : BmsCommandManager) (x : DesiredTick) :
    List (Nat × Nat) :=
  (framesOf idx (desiredTick cfg.active cfg.periodMs mgr x).2).map fun fr => (x.tsMs, lifeOf fr)

/-- What a tick does for an instance. -/
theorem desiredTick_instance (cfg : BmsTxConfig) {mgr : BmsCommandManager}
    (htx : BmsTx.Bound mgr.tx) (x : DesiredTick) (idx : Nat) :
    let mgr' := (desiredTick cfg.active cfg.periodMs mgr x).1
    (lifeBeats cfg idx mgr x = [] ∧ (mgr'.states idx).lastLife = (mgr.states idx).lastLife ∧
      (mgr'.states idx).lastSendTsMs = (mgr.states idx).lastSendTsMs) ∨
    (isDue x.tsMs cfg.periodMs (mgr.states idx) = true ∧
      lifeBeats cfg idx mgr x = [(x.tsMs, (mgr.states idx).lastLife % 256)] ∧
      (mgr'.states idx).lastLife = ((mgr.states idx).lastLife + 1) % 256 ∧
      (mgr'.states idx).lastSendTsMs = x.tsMs) := by
  intro mgr'
  unfold lifeBeats
  cases hactive : cfg.active with
  | false =>
    have hkept := editDesired_kept mgr x.edit idx
    have hmgr' : mgr' = mgr.editDesired x.edit := by simp [mgr', desiredTick, hactive]
    rw [hmgr']
    exact Or.inl ⟨rfl, hkept.life, hkept.sendTs⟩
  | true =>
    have hmgr' : mgr' = ((prepare x mgr).emitPeriodicCommands x.tsMs cfg.periodMs).1 := by
      simp [mgr', desiredTick, hactive]
    have hemit := fun {i : Nat} (hi : i ∈ instances) => emitInstance_prepared htx hi
      (prepare_prepared x mgr hi) mgr.defaultCanIndex x.tsMs cfg.periodMs
    have hframes : framesOf idx (desiredTick true cfg.periodMs mgr x).2 =
        if idx ∈ instances then ((emitInstance mgr.defaultCanIndex mgr.tx x.tsMs cfg.periodMs idx
          ((prepare x mgr).states idx)).2.map Command.frame).toList else [] := by
      refine framesOf_filterMap (by decide) ?_ idx
      intro i hi c hc
      change c ∈ (emitInstance mgr.defaultCanIndex mgr.tx x.tsMs cfg.periodMs i
        ((prepare x mgr).states i)).2 at hc
      obtain ⟨-, hnone⟩ | ⟨-, st', c', hsent, hinst, -⟩ := hemit hi
      · rw [hnone] at hc
        cases hc
      · rw [hsent] at hc
        cases hc
        exact hinst
    rw [hframes, hmgr']
    by_cases hidx : idx ∈ instances
    · have hstate : ((prepare x mgr).emitPeriodicCommands x.tsMs cfg.periodMs).1.states idx =
          (emitInstance mgr.defaultCanIndex mgr.tx x.tsMs cfg.periodMs idx
            ((prepare x mgr).states idx)).1 := if_pos hidx
      have hprepared := prepare_prepared x mgr hidx
      rw [if_pos hidx, hstate]
      obtain ⟨-, hnone⟩ | ⟨hdue, st', c, hsent, -, hlife, hcount, hts⟩ := hemit hidx
      · rw [hnone]
        exact Or.inl ⟨rfl, hprepared.life, hprepared.sendTs⟩
      · rw [hsent, ← hlife]
        exact Or.inr ⟨hdue, rfl, hcount, hts⟩
    · have hstate : ((prepare x mgr).emitPeriodicCommands x.tsMs cfg.periodMs).1.states idx =
          mgr.states idx := (if_neg hidx).trans (prepare_of_not_mem x mgr hidx)
      rw [if_neg hidx, hstate]
      exact Or.inl ⟨rfl, rfl, rfl⟩

/-! ### Runs -/

theorem commandLoop_bound (cfg : BmsTxConfig) :
    (commandLoop cfg).Invariant fun mgr => BmsTx.Bound mgr.tx where
  start := (BmsTx.init_bound rfl).1
  step mgr x h := by
    show BmsTx.Bound (desiredTick _ _ _ _).1.tx
    unfold desiredTick
    cases cfg.active <;> exact h

/-- The last frame of an instance went out in some tick of the run. -/
theorem commandLoop_lastSendTsMs (cfg : BmsTxConfig) (idx : Nat) (xs : List DesiredTick) :
    (((commandLoop cfg).run xs).states idx).lastSendTsMs = 0 ∨
      (((commandLoop cfg).run xs).states idx).lastSendTsMs ∈ xs.map DesiredTick.tsMs := by
  induction xs using List.reverseRecOn with
  | nil => exact Or.inl rfl
  | append_singleton xs x ih =>
    rw [Machine.run_snoc, List.map_append]
    obtain ⟨-, -, hkept⟩ | ⟨-, -, -, hsent⟩ :=
      desiredTick_instance cfg ((commandLoop_bound cfg).run xs) x idx
    · rw [show (((commandLoop cfg).step _ x).1.states idx).lastSendTsMs = _ from hkept]
      exact ih.imp_right (List.mem_append_left _)
    · rw [show (((commandLoop cfg).step _ x).1.states idx).lastSendTsMs = _ from hsent]
      exact Or.inr (List.mem_append_right _ (List.mem_singleton_self x.tsMs))

/-- The life signals of an instance. -/
theorem lifeBeats_follow (cfg : BmsTxConfig) {xs : List DesiredTick}
    (hclock : Stamps (xs.map DesiredTick.tsMs)) (idx : Nat) :
    ((commandLoop cfg).trace (lifeBeats cfg idx) xs).IsChain
      (Follows 256 (· + cfg.periodMs)) := by
  refine Machine.isChain_trace _ DesiredTick.tsMs (fun mgr => (mgr.states idx).lastLife % 256)
    (fun mgr => dueMs cfg.periodMs (mgr.states idx)) ?_
  intro pre x hpre
  have hpre' : pre.map DesiredTick.tsMs ++ [x.tsMs] <+: xs.map DesiredTick.tsMs := by
    simpa using hpre.map DesiredTick.tsMs
  have hx : x.tsMs ∈ xs.map DesiredTick.tsMs := hpre'.subset (by simp)
  have hlast : (((commandLoop cfg).run pre).states idx).lastSendTsMs ≤ x.tsMs := by
    obtain hnever | hsent := commandLoop_lastSendTsMs cfg idx pre
    · exact hnever ▸ Nat.zero_le _
    · exact hclock.le_last hpre' _ hsent
  rw [Machine.run_snoc]
  obtain ⟨hnone, hlife, hts⟩ | ⟨hdue, hone, hlife, hts⟩ :=
    desiredTick_instance cfg ((commandLoop_bound cfg).run pre) x idx
  · refine .silent hnone (congrArg (· % 256) hlife) ?_
    exact congrArg (fun last => if last = 0 then 0 else last + cfg.periodMs) hts
  · have hpos := hclock.pos _ hx
    refine .beat hone ((isDue_iff cfg.periodMs hlast (hclock.fits _ hx)).mp hdue) ?_ ?_
    · show _ % 256 = _
      rw [show (((commandLoop cfg).step _ x).1.states idx).lastLife = _ from hlife]
      omega
    · show dueMs cfg.periodMs (((commandLoop cfg).step _ x).1.states idx) = _
      unfold dueMs
      rw [show (((commandLoop cfg).step _ x).1.states idx).lastSendTsMs = _ from hts,
        if_neg (by omega)]

/-- No tick has two frames for an instance. -/
theorem length_framesOf_le (cfg : BmsTxConfig) (pre : List DesiredTick) (x : DesiredTick)
    (idx : Nat) : (framesOf idx ((commandLoop cfg).emitted pre x)).length ≤ 1 := by
  have hbeats : (lifeBeats cfg idx ((commandLoop cfg).run pre) x).length ≤ 1 := by
    obtain ⟨hnone, -⟩ | ⟨-, hone, -⟩ :=
      desiredTick_instance cfg ((commandLoop_bound cfg).run pre) x idx
    · simp [hnone]
    · simp [hone]
  rwa [lifeBeats, List.length_map] at hbeats

end Bms
end EnergyStorage
