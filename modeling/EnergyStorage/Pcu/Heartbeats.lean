import EnergyStorage.Bms.LifeSignals
import EnergyStorage.Logic.Engine

/-! # The heartbeats to the PCUs

Each PCU has a slot with a counter and a due time of its own. -/

namespace EnergyStorage
namespace Pcu

open Lib
open Logic (LogicContext CanLinkCfg loadPcuTxRuntimeCfg bindPcuLink pcuInstanceOf)

structure PcuTick where
  nowMs : Nat
  ctx : LogicContext

def pcuLoop (tx : PcuTx) : Machine PcuTx PcuTick Command where
  start := tx
  step tx x := tx.emitPcuPeriodicCommands x.ctx x.nowMs

/-- The control frames of one PCU among the commands of a tick. -/
def ctrlFramesOf (n : Nat) (tx : PcuTx) (x : PcuTick) : List CanFrame :=
  ((tx.dueSlots x.nowMs).filter fun cfg => cfg.pcuInstance = n).filterMap fun cfg =>
    cfg.ctrlFrame (pcuTxContent x.ctx)

/-- The heartbeat in a control frame. -/
def heartbeatOf (fr : CanFrame) : Nat := fr.byte 0

def heartbeats (n : Nat) (tx : PcuTx) (x : PcuTick) : List (Nat × Nat) :=
  (ctrlFramesOf n tx x).map fun fr => (x.nowMs, heartbeatOf fr)

theorem heartbeatOf_buildEmuCtrl (id29 : BitVec 32) (hb plug estop b1 b2 enable : Nat) :
    heartbeatOf (buildEmuCtrl id29 hb plug estop b1 b2 enable) = hb % 256 := by
  show BitField.read (BitField.ofBytes [hb, plug, estop, b1, b2, 0, 0, enable]) (8 * 0) 8 = _
  rw [BitField.read_ofBytes (by simp) (by simp)]
  rfl

/-! ### One slot for each PCU -/

/-- A bound slot belongs to the PCU its place says. -/
def Slotted (tx : PcuTx) : Prop :=
  ∀ k cfg, tx.slots[k]? = some cfg → cfg.valid = true → cfg.pcuInstance = k + 1

theorem load_slotted (sys : Option (List CanLinkCfg)) : Slotted (loadPcuTxRuntimeCfg sys) := by
  have hdefault : ∀ k (cfg : PcuTxRuntimeCfg), [({} : PcuTxRuntimeCfg), {}][k]? = some cfg →
      cfg.valid = true → cfg.pcuInstance = k + 1 := by
    intro k cfg hk hvalid
    have hmem := List.mem_of_getElem? hk
    simp only [List.mem_cons, List.not_mem_nil, or_false, or_self] at hmem
    rw [hmem] at hvalid
    cases hvalid
  cases sys with
  | none => exact hdefault
  | some links =>
    suffices h : ∀ slots : List PcuTxRuntimeCfg,
        (∀ k cfg, slots[k]? = some cfg → cfg.valid = true → cfg.pcuInstance = k + 1) →
        ∀ k cfg, (links.foldl bindPcuLink slots)[k]? = some cfg → cfg.valid = true →
          cfg.pcuInstance = k + 1 from h _ hdefault
    intro slots h
    induction links generalizing slots with
    | nil => exact h
    | cons l links ih =>
      apply ih
      intro k cfg hk hvalid
      unfold bindPcuLink at hk
      split at hk
      · exact h k cfg hk hvalid
      · split at hk
        · exact h k cfg hk hvalid
        next hrange =>
          rw [List.getElem?_set] at hk
          by_cases hplace : pcuInstanceOf l - 1 = k
          · rw [if_pos hplace] at hk
            split at hk
            · obtain rfl := Option.some_inj.mp hk
              show pcuInstanceOf l = k + 1
              omega
            · cases hk
          · rw [if_neg hplace] at hk
            exact h k cfg hk hvalid

/-- What a round leaves alone. -/
structure SameSlot (a b : PcuTxRuntimeCfg) : Prop where
  valid : b.valid = a.valid
  pcuInstance : b.pcuInstance = a.pcuInstance
  sendCtrl : b.sendCtrl = a.sendCtrl
  periodMs : b.periodMs = a.periodMs

theorem sameSlot_round (cfg : PcuTxRuntimeCfg) (c : PcuTxContent) (nowMs : Nat) :
    SameSlot cfg (cfg.round c nowMs).1 := by
  unfold PcuTxRuntimeCfg.round
  split <;> exact ⟨rfl, rfl, rfl, rfl⟩

theorem filter_eq_toList {α : Type*} {p : α → Bool} {l : List α} {k : Nat}
    (h : ∀ j a, l[j]? = some a → p a = true → j = k) : l.filter p = (l[k]?.filter p).toList := by
  induction l generalizing k with
  | nil => rfl
  | cons a l ih =>
    cases k with
    | zero =>
      have hrest : l.filter p = [] := by
        rw [List.filter_eq_nil_iff]
        intro b hb hpb
        obtain ⟨j, hj⟩ := List.mem_iff_getElem?.mp hb
        exact absurd (h (j + 1) b hj hpb) (Nat.succ_ne_zero j)
      rw [List.filter_cons, hrest]
      cases hpa : p a <;> simp [Option.filter, hpa]
    | succ k =>
      have hpa : ¬ p a = true := fun hpa => absurd (h 0 a rfl hpa) (by omega)
      rw [List.filter_cons_of_neg hpa, List.getElem?_cons_succ]
      exact ih fun j b hj hpb => Nat.succ_inj.mp (h (j + 1) b hj hpb)

/-- The frames of a PCU are those of its slot. -/
theorem ctrlFramesOf_eq {tx : PcuTx} (htx : Slotted tx) (hloaded : tx.loaded = true) {k : Nat}
    {cfg : PcuTxRuntimeCfg} (hk : tx.slots[k]? = some cfg) (x : PcuTick) :
    ctrlFramesOf (k + 1) tx x =
      if cfg.isDue x.nowMs then (cfg.ctrlFrame (pcuTxContent x.ctx)).toList else [] := by
  have hdue : ∀ c : PcuTxRuntimeCfg, c.isDue x.nowMs = true → c.valid = true := by
    intro c hc
    simp only [PcuTxRuntimeCfg.isDue, Bool.and_eq_true] at hc
    exact hc.1.1.1
  unfold ctrlFramesOf PcuTx.dueSlots
  rw [if_pos hloaded, List.filter_filter, filter_eq_toList (k := k), hk]
  · by_cases hd : cfg.isDue x.nowMs = true
    · have hinst := htx k cfg hk (hdue cfg hd)
      cases hctrl : cfg.ctrlFrame (pcuTxContent x.ctx) <;> simp [Option.filter, hd, hinst, hctrl]
    · simp [Option.filter, hd]
  · intro j c hj hc
    simp only [Bool.and_eq_true, decide_eq_true_eq] at hc
    have hinst := htx j c hj (hdue c hc.2)
    omega

theorem emit_slot {tx : PcuTx} (hloaded : tx.loaded = true) {k : Nat} {cfg : PcuTxRuntimeCfg}
    (hk : tx.slots[k]? = some cfg) (x : PcuTick) :
    (tx.emitPcuPeriodicCommands x.ctx x.nowMs).1.slots[k]? =
      some (cfg.round (pcuTxContent x.ctx) x.nowMs).1 := by
  unfold PcuTx.emitPcuPeriodicCommands
  rw [if_neg (by simp [hloaded])]
  simp only [List.map_map, List.getElem?_map, hk, Option.map_some, Function.comp]

/-! ### Runs -/

/-- The slot `k`, bound as `cfg0` says. -/
structure SlotOf (k : Nat) (cfg0 : PcuTxRuntimeCfg) (tx : PcuTx) (cfg : PcuTxRuntimeCfg) :
    Prop where
  loaded : tx.loaded = true
  slotted : Slotted tx
  get : tx.slots[k]? = some cfg
  same : SameSlot cfg0 cfg

theorem SlotOf.step {k : Nat} {cfg0 cfg : PcuTxRuntimeCfg} {tx : PcuTx}
    (h : SlotOf k cfg0 tx cfg) (x : PcuTick) :
    SlotOf k cfg0 (tx.emitPcuPeriodicCommands x.ctx x.nowMs).1
      (cfg.round (pcuTxContent x.ctx) x.nowMs).1 where
  loaded := by
    unfold PcuTx.emitPcuPeriodicCommands
    rw [if_neg (by simp [h.loaded])]
    exact h.loaded
  slotted j c hj hvalid := by
    cases hold : tx.slots[j]? with
    | none =>
      unfold PcuTx.emitPcuPeriodicCommands at hj
      rw [if_neg (by simp [h.loaded])] at hj
      simp [hold] at hj
    | some old =>
      rw [emit_slot h.loaded hold] at hj
      have hsame := sameSlot_round old (pcuTxContent x.ctx) x.nowMs
      rw [Option.some_inj.mp hj] at hsame
      rw [hsame.pcuInstance]
      exact h.slotted j old hold (hsame.valid ▸ hvalid)
  get := emit_slot h.loaded h.get x
  same := by
    have hsame := sameSlot_round cfg (pcuTxContent x.ctx) x.nowMs
    exact ⟨hsame.valid.trans h.same.valid, hsame.pcuInstance.trans h.same.pcuInstance,
      hsame.sendCtrl.trans h.same.sendCtrl, hsame.periodMs.trans h.same.periodMs⟩

section Run

variable {sys : Option (List CanLinkCfg)} {k : Nat} {cfg0 : PcuTxRuntimeCfg}
  (hcfg : (loadPcuTxRuntimeCfg sys).slots[k]? = some cfg0) (hvalid : cfg0.valid = true)

include hcfg hvalid

theorem exists_slotOf (xs : List PcuTick) :
    ∃ cfg, SlotOf k cfg0 ((pcuLoop (loadPcuTxRuntimeCfg sys)).run xs) cfg := by
  induction xs using List.reverseRecOn with
  | nil =>
    refine ⟨cfg0, ?_, load_slotted sys, hcfg, ⟨rfl, rfl, rfl, rfl⟩⟩
    cases sys with
    | none =>
      have hmem := List.mem_of_getElem? hcfg
      simp only [loadPcuTxRuntimeCfg, List.mem_cons, List.not_mem_nil, or_false, or_self] at hmem
      rw [hmem] at hvalid
      cases hvalid
    | some links => rfl
  | append_singleton xs x ih =>
    obtain ⟨cfg, h⟩ := ih
    rw [Machine.run_snoc]
    exact ⟨_, h.step x⟩

/-- The heartbeats of a PCU, however its due times wrap. -/
theorem heartbeats_follow (xs : List PcuTick) :
    ((pcuLoop (loadPcuTxRuntimeCfg sys)).trace (heartbeats (k + 1)) xs).IsChain
      (Follows 256 fun t => (t + cfg0.periodMs) % 2 ^ 64) := by
  refine Machine.isChain_trace _ PcuTick.nowMs
    (fun tx => (tx.slots[k]?.elim 0 fun cfg => cfg.heartbeat) % 256)
    (fun tx => tx.slots[k]?.elim 0 fun cfg => if cfg.sendCtrl then cfg.nextDueMs else 0) ?_
  intro pre x _
  obtain ⟨cfg, h⟩ := exists_slotOf hcfg hvalid pre
  have hafter := (h.step x).get
  rw [Machine.run_snoc]
  change ((pcuLoop (loadPcuTxRuntimeCfg sys)).step _ x).1.slots[k]? = _ at hafter
  simp only [heartbeats, ctrlFramesOf_eq h.slotted h.loaded h.get, hafter, h.get, Option.elim_some]
  cases hdue : cfg.isDue x.nowMs with
  | false =>
    have hround : (cfg.round (pcuTxContent x.ctx) x.nowMs).1 = cfg := by
      rw [PcuTxRuntimeCfg.round, if_pos (by simp [hdue])]
    rw [hround]
    exact .silent rfl rfl rfl
  | true =>
    have hround : (cfg.round (pcuTxContent x.ctx) x.nowMs).1 =
        { cfg with
          heartbeat := if cfg.sendCtrl then (cfg.heartbeat + 1) % 2 ^ 8 else cfg.heartbeat
          nextDueMs := (x.nowMs + cfg.periodMs) % 2 ^ 64 } := by
      rw [PcuTxRuntimeCfg.round, if_neg (by simp [hdue])]
    rw [hround, if_pos rfl]
    cases hctrl : cfg.sendCtrl with
    | false =>
      have hnone : cfg.ctrlFrame (pcuTxContent x.ctx) = none := by
        rw [PcuTxRuntimeCfg.ctrlFrame, hctrl, if_neg Bool.false_ne_true]
      rw [hnone]
      exact .silent rfl rfl rfl
    | true =>
      have hsome : cfg.ctrlFrame (pcuTxContent x.ctx) = some _ :=
        PcuTxRuntimeCfg.ctrlFrame_eq_some_iff.mpr ⟨hctrl, rfl⟩
      have hready : cfg.nextDueMs ≤ x.nowMs := by
        simp only [PcuTxRuntimeCfg.isDue, Bool.and_eq_true, decide_eq_true_eq] at hdue
        omega
      rw [hsome]
      refine .beat ?_ hready ?_ ?_
      · simp only [Option.toList_some, List.map_cons, List.map_nil, heartbeatOf_buildEmuCtrl]
      · show (cfg.heartbeat + 1) % 2 ^ 8 % 256 = (cfg.heartbeat % 256 + 1) % 256
        omega
      · show (x.nowMs + cfg.periodMs) % 2 ^ 64 = _
        rw [h.same.periodMs]

/-- No tick has two control frames for a PCU. -/
theorem length_ctrlFramesOf_le (pre : List PcuTick) (x : PcuTick) :
    (ctrlFramesOf (k + 1) ((pcuLoop (loadPcuTxRuntimeCfg sys)).run pre) x).length ≤ 1 := by
  obtain ⟨cfg, h⟩ := exists_slotOf hcfg hvalid pre
  rw [ctrlFramesOf_eq h.slotted h.loaded h.get]
  split
  · cases cfg.ctrlFrame (pcuTxContent x.ctx) <;> simp
  · exact Nat.zero_le 1

end Run

/-! ### The ticks of the engine -/

def pcuView (s : Logic.LogicState) : PcuTx := s.engine.pcuTx

/-- What an event of the engine is to the PCUs. -/
def pcuTicks (s : Logic.LogicState) (e : Logic.Event) : List PcuTick :=
  match e.body with
  | .tick t => [⟨t, Logic.updateRuntimeHealth { s.ctx with lastEventTs := e.tsMs } t⟩]
  | _ => []

/-- The transmitter of the engine is run by its ticks. -/
theorem logicLoop_pcuTx (sys : Option (List CanLinkCfg)) (map : Option Logic.HmiMapModel)
    (es : List Logic.Event) :
    pcuView ((Logic.logicLoop sys map).run es) =
      (pcuLoop (loadPcuTxRuntimeCfg sys)).run ((Logic.logicLoop sys map).trace pcuTicks es) := by
  refine (Logic.logicLoop sys map).refines _ rfl ?_ es
  intro pre e
  obtain ⟨tsMs, body⟩ := e
  cases body <;> rfl

/-! ### Both kinds of frames -/

/-- The counters go up by one from frame to frame and no tick sends twice.  Battery frames
keep the period apart; those of a PCU do as long as the due time fits the clock. -/
theorem periodic_frames (cfg : Bms.BmsTxConfig) (sys : Option (List CanLinkCfg)) :
    (∀ xs : List Bms.DesiredTick, Stamps (xs.map Bms.DesiredTick.tsMs) → ∀ idx,
      ((Bms.commandLoop cfg).trace (Bms.lifeBeats cfg idx) xs).IsChain
          (fun a b => b.2 = (a.2 + 1) % 256 ∧ a.1 + cfg.periodMs ≤ b.1) ∧
        ∀ pre x, pre ++ [x] <+: xs →
          (Bms.framesOf idx ((Bms.commandLoop cfg).emitted pre x)).length ≤ 1) ∧
    (∀ xs : List PcuTick, Stamps (xs.map PcuTick.nowMs) → ∀ k slot,
      (loadPcuTxRuntimeCfg sys).slots[k]? = some slot → slot.valid = true →
      ((pcuLoop (loadPcuTxRuntimeCfg sys)).trace (heartbeats (k + 1)) xs).IsChain
          (fun a b => b.2 = (a.2 + 1) % 256 ∧
            (a.1 + slot.periodMs < 2 ^ 64 → a.1 + slot.periodMs ≤ b.1)) ∧
        ∀ pre x, pre ++ [x] <+: xs →
          (ctrlFramesOf (k + 1) ((pcuLoop (loadPcuTxRuntimeCfg sys)).run pre) x).length ≤ 1) := by
  refine ⟨?_, ?_⟩
  · intro xs hclock idx
    exact ⟨Bms.lifeBeats_follow cfg hclock idx,
      fun pre x _ => Bms.length_framesOf_le cfg pre x idx⟩
  · intro xs _ k slot hslot hvalid
    refine ⟨?_, fun pre x _ => length_ctrlFramesOf_le hslot hvalid pre x⟩
    refine (heartbeats_follow hslot hvalid xs).imp ?_
    intro a b hab
    refine ⟨hab.1, fun hfits => ?_⟩
    have hlate : (a.1 + slot.periodMs) % 2 ^ 64 ≤ b.1 := hab.2
    rwa [Nat.mod_eq_of_lt hfits] at hlate

def onePcu : Option (List CanLinkCfg) :=
  some [{ canIndex := 1, enable := true, protocolType := "emu_pcu_v1", txEnable := true }]

def onePcuSlot : PcuTxRuntimeCfg :=
  { valid := true, canIndex := 1, pcuInstance := 1, txEnable := true }

def pcuTicksAt (ts : List Nat) : List PcuTick := ts.map fun t => ⟨t, {}⟩

def desiredTicksAt (ts : List Nat) : List Bms.DesiredTick := ts.map fun t => ⟨t, {}, fun _ => none⟩

theorem onePcu_slot : (loadPcuTxRuntimeCfg onePcu).slots[0]? = some onePcuSlot := rfl

/-- Three ticks, the second too early. -/
theorem periodic_frames_three_ticks :
    (((Bms.commandLoop (Logic.bmsTxConfig onePcu)).trace
        (Bms.lifeBeats (Logic.bmsTxConfig onePcu) 1) (desiredTicksAt [100, 199, 300])).IsChain
      fun a b => b.2 = (a.2 + 1) % 256 ∧ a.1 + (Logic.bmsTxConfig onePcu).periodMs ≤ b.1) ∧
    (((pcuLoop (loadPcuTxRuntimeCfg onePcu)).trace (heartbeats 1)
        (pcuTicksAt [100, 199, 300])).IsChain
      fun a b => b.2 = (a.2 + 1) % 256 ∧ (a.1 + onePcuSlot.periodMs < 2 ^ 64 →
        a.1 + onePcuSlot.periodMs ≤ b.1)) :=
  have hclock : Stamps [100, 199, 300] := ⟨by decide, by decide, by decide⟩
  ⟨((periodic_frames (Logic.bmsTxConfig onePcu) onePcu).1 (desiredTicksAt [100, 199, 300])
      hclock 1).1,
    ((periodic_frames (Logic.bmsTxConfig onePcu) onePcu).2 (pcuTicksAt [100, 199, 300])
      hclock 0 onePcuSlot onePcu_slot rfl).1⟩

/-- At the last stamp of the clock the due time wraps, and a second tick sends at once. -/
theorem heartbeat_at_clock_end : ∃ xs : List PcuTick, Stamps (xs.map PcuTick.nowMs) ∧
    (loadPcuTxRuntimeCfg onePcu).slots[0]? = some onePcuSlot ∧ onePcuSlot.valid = true ∧
    ¬ ((pcuLoop (loadPcuTxRuntimeCfg onePcu)).trace (heartbeats 1) xs).IsChain
      (fun a b => b.2 = (a.2 + 1) % 256 ∧ a.1 + onePcuSlot.periodMs ≤ b.1) := by
  refine ⟨pcuTicksAt [2 ^ 64 - 1, 2 ^ 64 - 1], ⟨by decide, by decide, by decide⟩, rfl, rfl, ?_⟩
  have htrace : (pcuLoop (loadPcuTxRuntimeCfg onePcu)).trace (heartbeats 1)
      (pcuTicksAt [2 ^ 64 - 1, 2 ^ 64 - 1]) = [(2 ^ 64 - 1, 0), (2 ^ 64 - 1, 1)] := by
    decide +kernel
  rw [htrace]
  intro hchain
  have hlate : 2 ^ 64 - 1 + 200 ≤ 2 ^ 64 - 1 := (List.isChain_cons_cons.mp hchain).1.2
  omega

end Pcu
end EnergyStorage
