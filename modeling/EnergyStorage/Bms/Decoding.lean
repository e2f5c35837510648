import Mathlib.Data.List.Pairwise
import EnergyStorage.Bms.Proto

/-! # Which value a parsed frame holds

For every signal of the table the parser's dictionaries hold, under the full key,
what the last signal of that name decodes to.  Where that is the value the raw code
stands for is then a question about single codes. -/

namespace EnergyStorage
namespace Bms

open TableRuntime BmsProto
open Lib

/-! ### Raw codes -/

theorem toNat_rawOf (data : BitVec 64) (sig : SignalDef) :
    (rawOf data sig).toNat = BitField.read data sig.startbitLsb sig.length := by
  obtain ⟨hpos, hlt, hend⟩ := sig.fits
  have hpow : 2 ^ sig.length < 2 ^ 64 := Nat.pow_lt_pow_right (by decide) hlt
  have hone : 0 < 2 ^ sig.length := Nat.two_pow_pos _
  have hmask : ((1#64 <<< sig.length) - 1#64).toNat = 2 ^ sig.length - 1 := by
    rw [BitVec.toNat_sub, BitVec.toNat_shiftLeft, BitVec.toNat_ofNat, Nat.shiftLeft_eq]
    omega
  rw [rawOf, extractBitsLsb, if_neg (by omega)]
  simp only [if_neg (show ¬ sig.startbitLsb + sig.length > 64 by omega),
    if_neg (show ¬ sig.length = 64 by omega)]
  rw [BitVec.toNat_and, hmask, Nat.and_two_pow_sub_one_eq_mod, BitVec.toNat_ushiftRight]
  rfl

theorem rawOf_lt (data : BitVec 64) (sig : SignalDef) :
    (rawOf data sig).toNat < 2 ^ sig.length := by
  rw [toNat_rawOf]
  exact Lib.BitField.read_lt _ _ _

/-! ### Signals by name -/

/-- Which dictionary the parser stores a signal in. -/
inductive SignalKind
  | value
  | num
  deriving DecidableEq

def signalKind (sig : SignalDef) : SignalKind :=
  if isBoolLikeSignal sig then .value
  else if shouldParseAsPhysical sig then .num
  else if isEnumLikeSignal sig then .value
  else .num

def lastSignal (msg : MessageDef) (n : String) : Option SignalDef :=
  msg.signals.reverse.find? (fun s => s.name == n)

/-- Two entries that read the same bits the same way. -/
def SameCoding (s t : SignalDef) : Prop :=
  s.startbitLsb = t.startbitLsb ∧ s.length = t.length ∧ s.factor = t.factor ∧
    s.offset = t.offset

instance (s t : SignalDef) : Decidable (SameCoding s t) :=
  inferInstanceAs (Decidable (_ ∧ _))

theorem lastSignal_mem {m : MessageDef} {n : String} {s : SignalDef}
    (h : lastSignal m n = some s) : s ∈ m.signals ∧ s.name = n :=
  ⟨List.mem_reverse.mp (List.mem_of_find?_eq_some h), by
    simpa using List.find?_some h⟩

theorem kMessages_factor_pos : ∀ m ∈ kMessages, ∀ s ∈ m.signals, 0 < s.factor := by
  decide +kernel

/-- Two entries of one message that share their name share their kind, and are read the same
way or not sign extended. -/
def NamesakesAgree (s t : SignalDef) : Prop :=
  (signalKind t = signalKind s ∧ 0 ≤ t.offset ∧ 0 ≤ s.offset) ∨
    (signalKind t = signalKind s ∧ SameCoding t s) ∨ t.name ≠ s.name

instance (s t : SignalDef) : Decidable (NamesakesAgree s t) :=
  inferInstanceAs (Decidable (_ ∨ _ ∨ _))

instance : Std.Symm NamesakesAgree where
  symm s t h := by
    obtain ⟨hkind, ht, hs⟩ | ⟨hkind, hstart, hlength, hfactor, hoffset⟩ | hname := h
    · exact Or.inl ⟨hkind.symm, hs, ht⟩
    · exact Or.inr (Or.inl ⟨hkind.symm, hstart.symm, hlength.symm, hfactor.symm, hoffset.symm⟩)
    · exact Or.inr (Or.inr hname.symm)

-- names are compared only where the rest does not agree: texts are slow to compare
theorem kMessages_namesakes : ∀ m ∈ kMessages, m.signals.Pairwise NamesakesAgree := by
  decide +kernel

/-- The table scales by positive factors, and entries that share their name with a
later entry of the message share its kind and are not sign extended. -/
theorem kMessages_consistent :
    ∀ m ∈ kMessages, ∀ s ∈ m.signals, 0 < s.factor ∧ ∀ t ∈ lastSignal m s.name,
      signalKind t = signalKind s ∧ (SameCoding t s ∨ 0 ≤ t.offset ∧ 0 ≤ s.offset) := by
  intro m hm s hs
  refine ⟨kMessages_factor_pos m hm s hs, ?_⟩
  intro t ht
  obtain ⟨htm, hname⟩ := lastSignal_mem ht
  by_cases hts : t = s
  · rw [hts]
    exact ⟨rfl, Or.inl ⟨rfl, rfl, rfl, rfl⟩⟩
  · obtain ⟨hkind, hoffset⟩ | ⟨hkind, hcoding⟩ | hne :=
      (kMessages_namesakes m hm).forall hs htm (Ne.symm hts)
    · exact ⟨hkind, Or.inr hoffset⟩
    · exact ⟨hkind, Or.inl hcoding⟩
    · exact absurd hname hne

theorem exists_lastSignal {m : MessageDef} {s : SignalDef} (h : s ∈ m.signals) :
    ∃ t, lastSignal m s.name = some t := by
  cases hl : lastSignal m s.name with
  | some t => exact ⟨t, rfl⟩
  | none =>
    have hnone := List.find?_eq_none.mp hl s (List.mem_reverse.mpr h)
    exact absurd (beq_self_eq_true s.name) hnone

theorem storedValue_isSome (data : BitVec 64) (s : SignalDef) :
    (storedValue data s).isSome = decide (signalKind s = .value) := by
  simp only [storedValue, signalKind]
  repeat' split
  all_goals rfl

theorem storedNum_isSome (data : BitVec 64) (s : SignalDef) :
    (storedNum data s).isSome = decide (signalKind s = .num) := by
  simp only [storedNum, signalKind]
  repeat' split
  all_goals rfl

/-- When signals of one name agree on having a value, the last one decides. -/
theorem lastNamed_eq_bind {α : Type} {m : MessageDef} {n : String}
    {f : SignalDef → Option α}
    (hf : ∀ s ∈ m.signals, s.name = n → ∀ t, lastSignal m n = some t →
      (f s).isSome = (f t).isSome) :
    lastNamed m n f = (lastSignal m n).bind f := by
  cases hl : lastSignal m n with
  | none =>
    rw [lastNamed, Option.bind_none, List.findSome?_eq_none_iff]
    intro s hs
    rw [if_neg]
    simpa using List.find?_eq_none.mp hl s hs
  | some t =>
    obtain ⟨htn, as, bs, hsplit, has⟩ := List.find?_eq_some_iff_append.mp hl
    have htn' : t.name = n := by simpa using htn
    have hpre : as.findSome? (fun s => if s.name = n then f s else none) = none := by
      rw [List.findSome?_eq_none_iff]
      intro s hs
      rw [if_neg]
      simpa using has s hs
    rw [lastNamed, hsplit, List.findSome?_append, hpre, Option.none_or, List.findSome?_cons,
      if_pos htn', Option.bind_some]
    cases hft : f t with
    | some a => rfl
    | none =>
      simp only [List.findSome?_eq_none_iff]
      intro s hs
      by_cases hsn : s.name = n
      · have hmem : s ∈ m.signals := by
          rw [← List.mem_reverse, hsplit]
          exact List.mem_append_right _ (List.mem_cons_of_mem t hs)
        have hnone : (f s).isSome = false := by
          rw [hf s hmem hsn t hl, hft]
          rfl
        rw [if_pos hsn]
        exact Option.not_isSome_iff_eq_none.mp (by simp [hnone])
      · rw [if_neg hsn]

section Named

variable {msg : MessageDef} (hmsg : msg ∈ kMessages)

include hmsg

theorem lastNamed_storedValue (data : BitVec 64) (n : String) :
    lastNamed msg n (storedValue data) = (lastSignal msg n).bind (storedValue data) := by
  apply lastNamed_eq_bind
  intro s hs hn t ht
  subst hn
  rw [storedValue_isSome, storedValue_isSome, ((kMessages_consistent msg hmsg s hs).2 t ht).1]

theorem lastNamed_storedNum (data : BitVec 64) (n : String) :
    lastNamed msg n (storedNum data) = (lastSignal msg n).bind (storedNum data) := by
  apply lastNamed_eq_bind
  intro s hs hn t ht
  subst hn
  rw [storedNum_isSome, storedNum_isSome, ((kMessages_consistent msg hmsg s hs).2 t ht).1]

end Named

theorem storedNum_of_kind {data : BitVec 64} {s : SignalDef} (h : signalKind s = .num) :
    storedNum data s = some (rawToPhys s (rawOf data s)) := by
  simp only [signalKind] at h
  simp only [storedNum]
  split at h
  · cases h
  next hb =>
    rw [if_neg hb]
    split at h
    next hp => rw [if_pos hp]
    next hp =>
      split at h
      · cases h
      next he => rw [if_neg hp, if_neg he]

/-! ### Physical quantities -/

/-- The frame is one the parser takes for a frame of `msg`. -/
def Carries (fr : CanFrame) (msg : MessageDef) : Prop :=
  fr.isExtended = true ∧ 8 ≤ fr.canDlc ∧ findMessage fr.id29 = some msg

instance (fr : CanFrame) (msg : MessageDef) : Decidable (Carries fr msg) :=
  inferInstanceAs (Decidable (_ ∧ _ ∧ _))

theorem Carries.parse {fr : CanFrame} {msg : MessageDef} (h : Carries fr msg) :
    parse fr = some (parseMessage fr msg) :=
  parse_eq_some_iff.mpr ⟨h.1, h.2.1, msg, h.2.2, rfl⟩

theorem Carries.mem {fr : CanFrame} {msg : MessageDef} (h : Carries fr msg) :
    msg ∈ kMessages :=
  findMessage_mem h.2.2

/-- The signal goes through the parser's branch for scaled quantities. -/
def IsPhysical (sig : SignalDef) : Prop :=
  isBoolLikeSignal sig = false ∧ shouldParseAsPhysical sig = true

instance (sig : SignalDef) : Decidable (IsPhysical sig) := inferInstanceAs (Decidable (_ ∧ _))

/-- The code's value lies in the signal's range. -/
def InRange (sig : SignalDef) (raw : Nat) : Prop :=
  sig.min ≤ physOf sig raw ∧ physOf sig raw ≤ sig.max

instance (sig : SignalDef) (raw : Nat) : Decidable (InRange sig raw) :=
  inferInstanceAs (Decidable (_ ∧ _))

/-- The quantity the parser stores for a signal. -/
def parsedNum (fr : CanFrame) (msg : MessageDef) (sig : SignalDef) : Option ℚ :=
  (BmsProto.parse fr).bind fun d => d.num.get (fullKey (canonicalMsgName msg.name) sig.name)

/-- No later signal of the message overwrites the entry with another value. -/
def KeepsName (fr : CanFrame) (msg : MessageDef) (sig : SignalDef) : Prop :=
  ∀ t ∈ lastSignal msg sig.name,
    physOf t (rawOf fr.data t).toNat = physOf sig (rawOf fr.data sig).toNat

theorem IsPhysical.kind {sig : SignalDef} (h : IsPhysical sig) : signalKind sig = .num := by
  rw [signalKind, h.1, h.2]
  rfl

theorem parsedNum_eq {fr : CanFrame} {msg : MessageDef} {sig t : SignalDef}
    (hfr : Carries fr msg) (hsig : sig ∈ msg.signals) (hphys : IsPhysical sig)
    (ht : lastSignal msg sig.name = some t) :
    parsedNum fr msg sig = some (rawToPhys t (rawOf fr.data t)) := by
  have hkind := ((kMessages_consistent msg hfr.mem sig hsig).2 t ht).1.trans hphys.kind
  rw [parsedNum, hfr.parse, Option.bind_some, parseMessage_num hfr.mem,
    lastNamed_storedNum hfr.mem, ht, Option.bind_some, storedNum_of_kind hkind]

theorem SameCoding.physOf {s t : SignalDef} (h : SameCoding s t) :
    physOf s = physOf t := by
  obtain ⟨-, -, hf, ho⟩ := h
  funext raw
  rw [TableRuntime.physOf, TableRuntime.physOf, hf, ho]

theorem SameCoding.rawOf {s t : SignalDef} (h : SameCoding s t) (data : BitVec 64) :
    rawOf data s = rawOf data t := by
  obtain ⟨hs, hl, -, -⟩ := h
  rw [BmsProto.rawOf, BmsProto.rawOf, hs, hl]

theorem SameCoding.signFolded {s t : SignalDef} (h : SameCoding s t) (raw : Nat) :
    SignFolded s raw ↔ SignFolded t raw := by
  obtain ⟨-, hl, -, ho⟩ := h
  rw [SignFolded, SignFolded, hl, ho]

theorem not_signFolded_of_nonneg {s : SignalDef} (h : 0 ≤ s.offset) (raw : Nat) :
    ¬ SignFolded s raw :=
  fun hf => absurd hf.1 (not_lt.mpr h)

/-- The stored quantity is the one the code stands for exactly where sign extension
leaves the code alone and no signal of the same name overwrites it. -/
theorem parsedNum_eq_physOf_iff {fr : CanFrame} {msg : MessageDef} {sig : SignalDef}
    (hfr : Carries fr msg) (hsig : sig ∈ msg.signals) (hphys : IsPhysical sig) :
    parsedNum fr msg sig = some (physOf sig (rawOf fr.data sig).toNat) ↔
      ¬ SignFolded sig (rawOf fr.data sig).toNat ∧ KeepsName fr msg sig := by
  obtain ⟨t, ht⟩ := exists_lastSignal hsig
  have hcons := kMessages_consistent msg hfr.mem
  have hkeep : KeepsName fr msg sig ↔
      physOf t (rawOf fr.data t).toNat = physOf sig (rawOf fr.data sig).toNat := by
    simp [KeepsName, ht]
  have hexact := rawToPhys_eq_physOf_iff (rawOf_lt fr.data t)
    (hcons t (lastSignal_mem ht).1).1.ne'
  rw [parsedNum_eq hfr hsig hphys ht, Option.some_inj, hkeep]
  rcases ((hcons sig hsig).2 t ht).2 with hsame | ⟨htoff, hsoff⟩
  · rw [← hsame.physOf, ← hsame.rawOf fr.data, hexact, hsame.signFolded]
    simp
  · rw [hexact.mpr (not_signFolded_of_nonneg htoff _)]
    simp [not_signFolded_of_nonneg hsoff]

/-- The stored value equals the one the code stands for exactly on the codes that
sign extension leaves alone and that keep their dictionary entry; between such
frames decoding is strictly monotone in the code. -/
theorem parse_exact_iff (msg : MessageDef) (sig : SignalDef) (hsig : sig ∈ msg.signals)
    (hphys : IsPhysical sig) :
    (∀ fr, Carries fr msg → InRange sig (rawOf fr.data sig).toNat →
      (parsedNum fr msg sig = some (physOf sig (rawOf fr.data sig).toNat) ↔
        ¬ SignFolded sig (rawOf fr.data sig).toNat ∧ KeepsName fr msg sig)) ∧
    ∀ fr fr' v v', Carries fr msg → Carries fr' msg →
      ¬ SignFolded sig (rawOf fr.data sig).toNat → KeepsName fr msg sig →
      ¬ SignFolded sig (rawOf fr'.data sig).toNat → KeepsName fr' msg sig →
      parsedNum fr msg sig = some v → parsedNum fr' msg sig = some v' →
      (rawOf fr.data sig).toNat < (rawOf fr'.data sig).toNat → v < v' := by
  refine ⟨fun fr hfr _ => parsedNum_eq_physOf_iff hfr hsig hphys, ?_⟩
  intro fr fr' v v' hfr hfr' hs hk hs' hk' hv hv' hlt
  have hval := (parsedNum_eq_physOf_iff hfr hsig hphys).mpr ⟨hs, hk⟩
  have hval' := (parsedNum_eq_physOf_iff hfr' hsig hphys).mpr ⟨hs', hk'⟩
  rw [Option.some_inj.mp (hv.symm.trans hval), Option.some_inj.mp (hv'.symm.trans hval')]
  exact physOf_strictMono (kMessages_consistent msg hfr.mem sig hsig).1 hlt

/-! The temperature frame of the first battery with code `code` for the hottest cell. -/

def st4Message : MessageDef :=
  ⟨"B2V_ST4", 0x1886EFF3#32, 8, 0, 500, "BMU", "VCU", kSignalsB2VST4⟩

def st4MaxTemp : SignalDef :=
  .mk "B2V_ST4_Max_Temp" 0 8 1 (-40) (-40) 215 [(254, "Abnormal"), (255, "Signal Invalid")]
    byte_fits

def st4Frame (code : Nat) : CanFrame := ⟨0x9886E107#32, 8, BitVec.ofNat 64 code⟩

theorem st4Frame_carries (code : Nat) : Carries (st4Frame code) st4Message := by
  have hid : (st4Frame code).id29 = 0x1886E107#32 := by
    show 0x9886E107#32 &&& canEffMask = 0x1886E107#32
    decide
  have hext : (st4Frame code).isExtended = true := by
    show (0x9886E107#32 &&& canEffFlag != 0#32) = true
    decide
  refine ⟨hext, le_refl 8, ?_⟩
  rw [hid]
  decide

/-- A cell at 88 degrees is in range and is stored as 168 degrees below zero. -/
theorem parse_hot_cell :
    st4MaxTemp ∈ st4Message.signals ∧ IsPhysical st4MaxTemp ∧
      Carries (st4Frame 128) st4Message ∧
      InRange st4MaxTemp (rawOf (st4Frame 128).data st4MaxTemp).toNat ∧
      physOf st4MaxTemp (rawOf (st4Frame 128).data st4MaxTemp).toNat = 88 ∧
      parsedNum (st4Frame 128) st4Message st4MaxTemp = some (-168) := by
  have hmem : st4MaxTemp ∈ st4Message.signals := by decide
  have hphys : IsPhysical st4MaxTemp := by decide +kernel
  have hlast : lastSignal st4Message st4MaxTemp.name = some st4MaxTemp := by decide +kernel
  refine ⟨hmem, hphys, st4Frame_carries 128, by decide +kernel, by decide +kernel, ?_⟩
  rw [parsedNum_eq (st4Frame_carries 128) hmem hphys hlast]
  decide +kernel

theorem parse_exact_iff_mild_cell :
    parsedNum (st4Frame 60) st4Message st4MaxTemp =
      some (physOf st4MaxTemp (rawOf (st4Frame 60).data st4MaxTemp).toNat) :=
  ((parse_exact_iff st4Message st4MaxTemp (by decide +kernel) (by decide +kernel)).1
    (st4Frame 60) (st4Frame_carries 60) (by decide +kernel)).mpr
    ⟨by decide, by
      intro t ht
      have hlast : lastSignal st4Message st4MaxTemp.name = some st4MaxTemp := by decide
      rw [Option.mem_def, hlast] at ht
      cases ht
      rfl⟩

end Bms
end EnergyStorage
