import EnergyStorage.Lib.Machine
import Mathlib.Algebra.Group.Nat.Defs
import Mathlib.Data.BitVec
import Mathlib.Data.List.Nodup

/-! # The digital and analogue inputs

A thread samples the eighteen digital inputs into the bits of a word, and the four voltages, each
after its own interval, and reports both whenever it has sampled one of them. -/

namespace EnergyStorage
namespace Driver

open Lib

structure DiDef where
  channelId : Nat
  gpioNum : Nat
  name : String
  activeLow : Bool
  deriving DecidableEq

def kDiDefs : List DiDef :=
  [⟨1, 291, "DI1", true⟩, ⟨2, 468, "DI2", true⟩, ⟨3, 471, "DI3", true⟩, ⟨4, 469, "DI4", true⟩,
    ⟨5, 470, "DI5", true⟩, ⟨6, 286, "DI6", true⟩, ⟨7, 298, "DI7", true⟩, ⟨8, 297, "DI8", true⟩,
    ⟨9, 380, "DI9", true⟩, ⟨10, 381, "DI10", true⟩, ⟨11, 382, "DI11", true⟩,
    ⟨12, 383, "DI12", true⟩, ⟨13, 384, "DI13", true⟩, ⟨14, 385, "DI14", true⟩,
    ⟨15, 386, "DI15", true⟩, ⟨16, 387, "DI16", true⟩, ⟨17, 388, "DI17", true⟩,
    ⟨18, 389, "DI18", true⟩]

structure DiSample where
  channelId : Nat
  gpioNum : Nat
  rawValue : Int
  logicalOn : Bool
  ok : Bool

/-- What the pins of the board give when they are read: 0, 1 or an error. -/
abbrev Pins := Nat → Option Bool

def readDi (pins : Pins) (d : DiDef) : DiSample :=
  match pins d.gpioNum with
  | none => ⟨d.channelId, d.gpioNum, -1, false, false⟩
  | some raw =>
    ⟨d.channelId, d.gpioNum, if raw = true then 1 else 0, if d.activeLow = true then !raw else raw,
      true⟩

def readAll (pins : Pins) : List DiSample := kDiDefs.map (readDi pins)

/-- One sample goes into its bit of the word. -/
def addBit (bits : BitVec 64) (s : DiSample) : BitVec 64 :=
  if s.ok = false then bits
  else if s.channelId < 1 ∨ 64 < s.channelId then bits
  else if s.logicalOn = true then bits ||| (1#64 <<< (s.channelId - 1)) else bits

def sampleBits (pins : Pins) : BitVec 64 := (readAll pins).foldl addBit 0#64

structure IoConfig where
  diIntervalMs : Nat := 20
  aiIntervalMs : Nat := 50

/-- A pass of the loop: the clock, the pins, and the raw voltages as far as they can be read. -/
structure IoPass where
  nowMs : Nat
  pins : Pins
  volts : Fin 4 → Option Int

/-- What the callback gets. -/
structure IoSample where
  tsMs : Nat
  diBits : BitVec 64
  aiVoltages : Fin 4 → Int

structure IoThread where
  lastDiMs : Nat := 0
  lastAiMs : Nat := 0
  diBits : BitVec 64 := 0#64
  aiVoltages : Fin 4 → Int := fun _ => 0

/-- The difference of two clock readings in 64 bits. -/
def elapsedMs (now last : Nat) : Nat := (now + 2 ^ 64 - last) % 2 ^ 64

def sampleDue (interval now last : Nat) : Bool := last = 0 ∨ interval ≤ elapsedMs now last

def readAllVoltages (volts : Fin 4 → Option Int) : Fin 4 → Int := fun ch => (volts ch).getD 0

namespace IoThread

def sampleDi (cfg : IoConfig) (s : IoThread) (p : IoPass) : IoThread :=
  if sampleDue cfg.diIntervalMs p.nowMs s.lastDiMs = true then
    { s with lastDiMs := p.nowMs, diBits := sampleBits p.pins }
  else s

def sampleAi (cfg : IoConfig) (s : IoThread) (p : IoPass) : IoThread :=
  if sampleDue cfg.aiIntervalMs p.nowMs s.lastAiMs = true then
    { s with lastAiMs := p.nowMs, aiVoltages := readAllVoltages p.volts }
  else s

/-- The body of the loop. -/
def pass (cfg : IoConfig) (s : IoThread) (p : IoPass) : IoThread × List IoSample :=
  let updated := sampleDue cfg.diIntervalMs p.nowMs s.lastDiMs ||
    sampleDue cfg.aiIntervalMs p.nowMs s.lastAiMs
  let s := (s.sampleDi cfg p).sampleAi cfg p
  (s, if updated = true then [⟨p.nowMs, s.diBits, s.aiVoltages⟩] else [])

end IoThread

def ioThread (cfg : IoConfig) : Machine IoThread IoPass IoSample where
  start := {}
  step s p := s.pass cfg p

/-! ### The bits of a sample -/

/-- Whether a channel is on; one that cannot be read is not. -/
def channelOn (pins : Pins) (d : DiDef) : Bool := (readDi pins d).logicalOn

theorem getLsbD_one_shiftLeft (n i : Nat) (h : n < 64) :
    (1#64 <<< n).getLsbD i = decide (i = n) := by
  show (BitVec.twoPow 64 n).getLsbD i = decide (i = n)
  rw [BitVec.getLsbD_twoPow, decide_eq_true h, Bool.true_and]
  exact decide_eq_decide.mpr eq_comm

theorem getLsbD_addBit (pins : Pins) {d : DiDef} (hd : d ∈ kDiDefs) (bits : BitVec 64) (i : Nat) :
    (addBit bits (readDi pins d)).getLsbD i =
      (bits.getLsbD i || (decide (d.channelId = i + 1) && channelOn pins d)) := by
  have hrange : 1 ≤ d.channelId ∧ d.channelId ≤ 18 := by
    have hall : ∀ d ∈ kDiDefs, 1 ≤ d.channelId ∧ d.channelId ≤ 18 := by decide
    exact hall d hd
  have hchannel : (readDi pins d).channelId = d.channelId := by
    unfold readDi
    split <;> rfl
  have hoff : (readDi pins d).ok = false → channelOn pins d = false := by
    unfold channelOn readDi
    split
    · exact fun _ => rfl
    · exact fun hok => absurd hok Bool.noConfusion
  unfold addBit
  rw [hchannel]
  by_cases hok : (readDi pins d).ok = false
  · rw [if_pos hok, hoff hok, Bool.and_false, Bool.or_false]
  · rw [if_neg hok, if_neg (by omega)]
    show ((if channelOn pins d = true then bits ||| 1#64 <<< (d.channelId - 1) else bits) :
      BitVec 64).getLsbD i = _
    by_cases hon : channelOn pins d = true
    · rw [if_pos hon, hon, Bool.and_true, BitVec.getLsbD_or, getLsbD_one_shiftLeft _ _ (by omega)]
      congr 1
      exact decide_eq_decide.mpr (by omega)
    · rw [if_neg hon, Bool.eq_false_iff.mpr hon, Bool.and_false, Bool.or_false]

theorem getLsbD_foldl_addBit (pins : Pins) {ds : List DiDef} (hds : ds ⊆ kDiDefs)
    (bits : BitVec 64) (i : Nat) :
    ((ds.map (readDi pins)).foldl addBit bits).getLsbD i =
      (bits.getLsbD i || ds.any fun d => decide (d.channelId = i + 1) && channelOn pins d) := by
  induction ds generalizing bits with
  | nil => simp
  | cons d ds ih =>
    have hd : d ∈ kDiDefs := hds List.mem_cons_self
    have hrest : ds ⊆ kDiDefs := fun x hx => hds (List.mem_cons_of_mem d hx)
    rw [List.map_cons, List.foldl_cons, ih hrest, getLsbD_addBit pins hd, List.any_cons,
      Bool.or_assoc]

/-- Each channel has its bit, and the other bits are zero. -/
theorem getLsbD_sampleBits (pins : Pins) (i : Nat) :
    (sampleBits pins).getLsbD i =
      kDiDefs.any fun d => decide (d.channelId = i + 1) && channelOn pins d := by
  unfold sampleBits readAll
  rw [getLsbD_foldl_addBit pins (List.Subset.refl _), BitVec.getLsbD_zero, Bool.false_or]

theorem getLsbD_channel (pins : Pins) {d : DiDef} (hd : d ∈ kDiDefs) :
    (sampleBits pins).getLsbD (d.channelId - 1) = channelOn pins d := by
  have hpos : 1 ≤ d.channelId := by
    have hall : ∀ d ∈ kDiDefs, 1 ≤ d.channelId := by decide
    exact hall d hd
  have hnodup : (kDiDefs.map DiDef.channelId).Nodup := by decide
  rw [getLsbD_sampleBits, Bool.eq_iff_iff, List.any_eq_true]
  constructor
  · rintro ⟨d', hd', h⟩
    rw [Bool.and_eq_true, decide_eq_true_eq] at h
    have hsame : d' = d := List.inj_on_of_nodup_map hnodup hd' hd (by omega)
    rw [← hsame]
    exact h.2
  · intro h
    refine ⟨d, hd, ?_⟩
    rw [h, Bool.and_true, decide_eq_true_eq]
    omega

/-! ### The reports -/

section Run

variable {cfg : IoConfig}

theorem elapsedMs_of_le {now last : Nat} (h : last ≤ now) (hnow : now < 2 ^ 64) :
    elapsedMs now last = now - last := by
  unfold elapsedMs
  omega

theorem pass_lastDiMs (s : IoThread) (p : IoPass) :
    (s.pass cfg p).1.lastDiMs =
      if sampleDue cfg.diIntervalMs p.nowMs s.lastDiMs = true then p.nowMs else s.lastDiMs := by
  show ((s.sampleDi cfg p).sampleAi cfg p).lastDiMs = _
  unfold IoThread.sampleAi IoThread.sampleDi
  split_ifs <;> rfl

/-- A pass on which the inputs are due reports what their pins give. -/
theorem pass_reports (s : IoThread) (p : IoPass)
    (h : sampleDue cfg.diIntervalMs p.nowMs s.lastDiMs = true) :
    ∃ o ∈ (s.pass cfg p).2, o.tsMs = p.nowMs ∧ o.diBits = sampleBits p.pins := by
  refine ⟨⟨p.nowMs, ((s.sampleDi cfg p).sampleAi cfg p).diBits,
    ((s.sampleDi cfg p).sampleAi cfg p).aiVoltages⟩, ?_, rfl, ?_⟩
  · show _ ∈ (if (sampleDue cfg.diIntervalMs p.nowMs s.lastDiMs ||
      sampleDue cfg.aiIntervalMs p.nowMs s.lastAiMs) = true then _ else _)
    rw [h, Bool.true_or, if_pos rfl]
    exact List.mem_singleton_self _
  · show ((s.sampleDi cfg p).sampleAi cfg p).diBits = _
    unfold IoThread.sampleAi IoThread.sampleDi
    rw [if_pos h]
    split_ifs <;> rfl

/-- Among passes that go on for the interval, the inputs are due on one. -/
theorem exists_due (cfg : IoConfig) {s : IoThread} {ps : List IoPass} {p : IoPass}
    (hlast : ∀ q ∈ ps ++ [p], s.lastDiMs ≤ q.nowMs ∧ q.nowMs < 2 ^ 64)
    (hlong : s.lastDiMs = 0 ∨ cfg.diIntervalMs ≤ p.nowMs - s.lastDiMs) :
    ∃ before q after, ps ++ [p] = before ++ q :: after ∧
      sampleDue cfg.diIntervalMs q.nowMs ((ioThread cfg).runFrom s before).lastDiMs = true := by
  induction ps generalizing s with
  | nil =>
    obtain ⟨hle, hlt⟩ := hlast p (List.mem_singleton_self p)
    refine ⟨[], p, [], rfl, ?_⟩
    show sampleDue cfg.diIntervalMs p.nowMs s.lastDiMs = true
    rw [sampleDue, elapsedMs_of_le hle hlt, decide_eq_true_eq]
    exact hlong
  | cons q ps ih =>
    by_cases hdue : sampleDue cfg.diIntervalMs q.nowMs s.lastDiMs = true
    · exact ⟨[], q, ps ++ [p], rfl, hdue⟩
    · have hsame : (s.pass cfg q).1.lastDiMs = s.lastDiMs := by
        rw [pass_lastDiMs, if_neg hdue]
      obtain ⟨before, r, after, hsplit, hr⟩ := ih (s := (s.pass cfg q).1)
        (fun r hr => by rw [hsame]; exact hlast r (List.mem_cons_of_mem q hr))
        (by rw [hsame]; exact hlong)
      refine ⟨q :: before, r, after, ?_, hr⟩
      rw [List.cons_append, hsplit, List.cons_append]

/-- When the inputs were last sampled is the time of a pass. -/
theorem lastDiMs_mem (cfg : IoConfig) (ps : List IoPass) :
    ((ioThread cfg).run ps).lastDiMs = 0 ∨
      ∃ p ∈ ps, p.nowMs = ((ioThread cfg).run ps).lastDiMs := by
  induction ps using List.reverseRecOn with
  | nil => exact Or.inl rfl
  | append_singleton ps p ih =>
    rw [Machine.run_snoc]
    show (((ioThread cfg).run ps).pass cfg p).1.lastDiMs = 0 ∨
      ∃ q ∈ ps ++ [p], q.nowMs = (((ioThread cfg).run ps).pass cfg p).1.lastDiMs
    rw [pass_lastDiMs]
    split_ifs
    · exact Or.inr ⟨p, List.mem_append_right ps (List.mem_singleton_self p), rfl⟩
    · rcases ih with hzero | ⟨q, hq, heq⟩
      · exact Or.inl hzero
      · exact Or.inr ⟨q, List.mem_append_left [p] hq, heq⟩

/-- An input that reads the same on all passes of a stretch of time as long as the interval is
reported so on one of them, whatever came before. -/
theorem held_input_reported (cfg : IoConfig) (before : List IoPass) (first last : IoPass)
    (between : List IoPass) {d : DiDef} {on : Bool} (hd : d ∈ kDiDefs)
    (hclock : (before ++ first :: between ++ [last]).Pairwise fun p q => p.nowMs ≤ q.nowMs)
    (hrange : ∀ p ∈ before ++ first :: between ++ [last], p.nowMs < 2 ^ 64)
    (hheld : ∀ p ∈ first :: between ++ [last], channelOn p.pins d = on)
    (hlong : cfg.diIntervalMs ≤ last.nowMs - first.nowMs) :
    ∃ ps p post, first :: between ++ [last] = ps ++ p :: post ∧
      ∃ o ∈ (ioThread cfg).emitted (before ++ ps) p,
        o.tsMs = p.nowMs ∧ o.diBits.getLsbD (d.channelId - 1) = on := by
  have hassoc : before ++ first :: between ++ [last] = before ++ (first :: between ++ [last]) :=
    List.append_assoc before (first :: between) [last]
  rw [hassoc] at hclock hrange
  obtain ⟨-, hstretch, hcross⟩ := List.pairwise_append.mp hclock
  have hafter : ∀ q ∈ first :: between ++ [last],
      ((ioThread cfg).run before).lastDiMs ≤ q.nowMs := by
    intro q hq
    rcases lastDiMs_mem cfg before with hzero | ⟨p, hp, heq⟩
    · rw [hzero]
      exact Nat.zero_le _
    · rw [← heq]
      exact hcross p hp q hq
  have hfirst := hafter first List.mem_cons_self
  obtain ⟨ps, p, post, hsplit, hdue⟩ := exists_due cfg
    (s := (ioThread cfg).run before)
    (fun q hq => ⟨hafter q hq, hrange q (List.mem_append_right before hq)⟩)
    (Or.inr (by omega))
  refine ⟨ps, p, post, hsplit, ?_⟩
  rw [← Machine.run_append] at hdue
  obtain ⟨o, ho, hts, hbits⟩ := pass_reports _ p hdue
  have hp : p ∈ first :: between ++ [last] := by
    rw [hsplit]
    exact List.mem_append_right ps List.mem_cons_self
  refine ⟨o, ho, hts, ?_⟩
  rw [hbits, getLsbD_channel p.pins hd]
  exact hheld p hp

/-- A pass with DI13, the contact of the first plug, closed or open. -/
def plugPass (nowMs : Nat) (on : Bool) : IoPass :=
  ⟨nowMs, fun gpio => some (if gpio = 384 then !on else true), fun _ => some 0⟩

def plugDef : DiDef := ⟨13, 384, "DI13", true⟩

theorem held_input_reported_plug :
    ∃ ps p post, plugPass 108 true :: [plugPass 116 true, plugPass 124 true] ++
        [plugPass 132 true] = ps ++ p :: post ∧
      ∃ o ∈ (ioThread {}).emitted ([plugPass 100 false] ++ ps) p,
        o.tsMs = p.nowMs ∧ o.diBits.getLsbD (plugDef.channelId - 1) = true := by
  have hpasses : ∀ P : IoPass → Prop, P (plugPass 100 false) → P (plugPass 108 true) →
      P (plugPass 116 true) → P (plugPass 124 true) → P (plugPass 132 true) →
      ∀ p ∈ [plugPass 100 false] ++ plugPass 108 true ::
        [plugPass 116 true, plugPass 124 true] ++ [plugPass 132 true], P p := by
    intro P h1 h2 h3 h4 h5 p hp
    simp only [List.cons_append, List.nil_append, List.mem_cons, List.not_mem_nil, or_false] at hp
    rcases hp with rfl | rfl | rfl | rfl | rfl <;> assumption
  refine held_input_reported {} [plugPass 100 false] (plugPass 108 true) (plugPass 132 true)
    [plugPass 116 true, plugPass 124 true] (by decide) ?_ ?_ ?_ (by decide)
  · have htimes : ([100, 108, 116, 124, 132] : List Nat).Pairwise (· ≤ ·) := by decide
    exact List.pairwise_map.mp
      (show (([plugPass 100 false] ++ plugPass 108 true ::
        [plugPass 116 true, plugPass 124 true] ++ [plugPass 132 true]).map
          IoPass.nowMs).Pairwise (· ≤ ·) from htimes)
  · exact hpasses _ (by decide) (by decide) (by decide) (by decide) (by decide)
  · intro p hp
    refine hpasses (fun p => p.nowMs ≠ 100 → channelOn p.pins plugDef = true)
      (fun h => absurd rfl h) (fun _ => rfl) (fun _ => rfl) (fun _ => rfl) (fun _ => rfl) p
      (List.mem_append_right [plugPass 100 false] hp) ?_
    simp only [List.cons_append, List.nil_append, List.mem_cons, List.not_mem_nil, or_false] at hp
    rcases hp with rfl | rfl | rfl | rfl <;> decide

/-! ### How old what is reported can be -/

/-- What the thread holds has been sampled on the passes that it remembers. -/
structure Sampled (ps : List IoPass) (s : IoThread) : Prop where
  di : s.lastDiMs ≠ 0 → ∃ q ∈ ps, q.nowMs = s.lastDiMs ∧ s.diBits = sampleBits q.pins
  ai : s.lastAiMs ≠ 0 → ∃ q ∈ ps, q.nowMs = s.lastAiMs ∧ s.aiVoltages = readAllVoltages q.volts

theorem Sampled.pass {ps : List IoPass} {s : IoThread} (h : Sampled ps s) (p : IoPass) :
    Sampled (ps ++ [p]) (s.pass cfg p).1 := by
  have hp : p ∈ ps ++ [p] := List.mem_append_right ps (List.mem_singleton_self p)
  show Sampled (ps ++ [p]) ((s.sampleDi cfg p).sampleAi cfg p)
  have hdi : ∀ (t : IoThread), (t.sampleAi cfg p).lastDiMs = t.lastDiMs ∧
      (t.sampleAi cfg p).diBits = t.diBits := by
    intro t
    unfold IoThread.sampleAi
    split_ifs <;> exact ⟨rfl, rfl⟩
  have hai : (s.sampleDi cfg p).lastAiMs = s.lastAiMs ∧
      (s.sampleDi cfg p).aiVoltages = s.aiVoltages := by
    unfold IoThread.sampleDi
    split_ifs <;> exact ⟨rfl, rfl⟩
  constructor
  · rw [(hdi _).1, (hdi _).2]
    unfold IoThread.sampleDi
    split_ifs
    · exact fun _ => ⟨p, hp, rfl, rfl⟩
    · intro hne
      obtain ⟨q, hq, hnow, hbits⟩ := h.di hne
      exact ⟨q, List.mem_append_left [p] hq, hnow, hbits⟩
  · unfold IoThread.sampleAi
    split_ifs
    · exact fun _ => ⟨p, hp, rfl, rfl⟩
    · rw [hai.1, hai.2]
      intro hne
      obtain ⟨q, hq, hnow, hvolts⟩ := h.ai hne
      exact ⟨q, List.mem_append_left [p] hq, hnow, hvolts⟩

theorem not_due {interval now last : Nat} (h : ¬ sampleDue interval now last = true) :
    last ≠ 0 ∧ elapsedMs now last < interval := by
  rw [sampleDue, decide_eq_true_eq, not_or, Nat.not_le] at h
  exact h

/-- A report has the time of its pass, the inputs of this pass or of one less than their
interval ago, and likewise the voltages. -/
theorem reports_fresh (cfg : IoConfig) (ps : List IoPass) (p : IoPass) :
    ∀ o ∈ (ioThread cfg).emitted ps p, o.tsMs = p.nowMs ∧
      (∃ q ∈ ps ++ [p], o.diBits = sampleBits q.pins ∧
        (q = p ∨ elapsedMs p.nowMs q.nowMs < cfg.diIntervalMs)) ∧
      ∃ q ∈ ps ++ [p], o.aiVoltages = readAllVoltages q.volts ∧
        (q = p ∨ elapsedMs p.nowMs q.nowMs < cfg.aiIntervalMs) := by
  intro o ho
  have hp : p ∈ ps ++ [p] := List.mem_append_right ps (List.mem_singleton_self p)
  have hsampled : Sampled ps ((ioThread cfg).run ps) :=
    (ioThread cfg).run_induction (R := Sampled) ⟨fun h => absurd rfl h, fun h => absurd rfl h⟩
      (fun pre q hpre => hpre.pass q) ps
  revert hsampled ho
  rw [Machine.emitted]
  generalize (ioThread cfg).run ps = s
  intro ho hsampled
  have hreport : o = ⟨p.nowMs, ((s.sampleDi cfg p).sampleAi cfg p).diBits,
      ((s.sampleDi cfg p).sampleAi cfg p).aiVoltages⟩ := by
    change o ∈ (if _ then _ else _) at ho
    split_ifs at ho
    · exact List.mem_singleton.mp ho
    · exact absurd ho List.not_mem_nil
  subst hreport
  refine ⟨rfl, ?_, ?_⟩
  · have hbits : ((s.sampleDi cfg p).sampleAi cfg p).diBits = (s.sampleDi cfg p).diBits := by
      unfold IoThread.sampleAi
      split_ifs <;> rfl
    rw [hbits]
    by_cases hdue : sampleDue cfg.diIntervalMs p.nowMs s.lastDiMs = true
    · refine ⟨p, hp, ?_, Or.inl rfl⟩
      rw [IoThread.sampleDi, if_pos hdue]
    · obtain ⟨hne, hless⟩ := not_due hdue
      obtain ⟨q, hq, hnow, hq'⟩ := hsampled.di hne
      refine ⟨q, List.mem_append_left [p] hq, ?_, Or.inr (hnow ▸ hless)⟩
      rw [IoThread.sampleDi, if_neg hdue]
      exact hq'
  · have hlast : (s.sampleDi cfg p).lastAiMs = s.lastAiMs ∧
        (s.sampleDi cfg p).aiVoltages = s.aiVoltages := by
      unfold IoThread.sampleDi
      split_ifs <;> exact ⟨rfl, rfl⟩
    dsimp only
    rw [IoThread.sampleAi, hlast.1]
    by_cases hdue : sampleDue cfg.aiIntervalMs p.nowMs s.lastAiMs = true
    · rw [if_pos hdue]
      exact ⟨p, hp, rfl, Or.inl rfl⟩
    · obtain ⟨hne, hless⟩ := not_due hdue
      obtain ⟨q, hq, hnow, hq'⟩ := hsampled.ai hne
      refine ⟨q, List.mem_append_left [p] hq, ?_, Or.inr (hnow ▸ hless)⟩
      rw [if_neg hdue, hlast.2]
      exact hq'

/-- All inputs off and the voltages at 5, and 30 ms later all inputs on and the voltages at 8. -/
def offPass : IoPass := ⟨100, fun _ => some true, fun _ => some 5⟩

def onPass : IoPass := ⟨130, fun _ => some false, fun _ => some 8⟩

/-- Between two samplings of the voltages: the new inputs and the old voltages. -/
def betweenReport : IoSample := ⟨130, sampleBits onPass.pins, fun _ => 5⟩

theorem reports_fresh_between :
    (ioThread {}).emitted [offPass] onPass = [betweenReport] ∧ betweenReport.tsMs = 130 ∧
      (∃ q ∈ [offPass] ++ [onPass], betweenReport.diBits = sampleBits q.pins ∧
        (q = onPass ∨ elapsedMs 130 q.nowMs < 20)) ∧
      ∃ q ∈ [offPass] ++ [onPass], betweenReport.aiVoltages = readAllVoltages q.volts ∧
        (q = onPass ∨ elapsedMs 130 q.nowMs < 50) :=
  ⟨rfl, reports_fresh {} [offPass] onPass betweenReport (List.mem_singleton_self _)⟩

end Run

end Driver
end EnergyStorage
