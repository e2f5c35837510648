import EnergyStorage.Bms.Decoding

/-! # The byte order that the table declares

The start bit of a signal is that of its lowest bit.  In an Intel message the next bits lie
above it through the word; in a Motorola message they lie above it in its byte, and then in
the byte before, so that the most significant byte comes first.  The parser reads every
message in the first way. -/

namespace EnergyStorage
namespace Bms

open TableRuntime BmsProto FrameRouter
open Lib

/-! ### The declared layout -/

/-- Where bit `i` of a signal lies in the word. -/
def declaredBit (byteOrder startLsb i : Nat) : Nat :=
  if byteOrder = 0 then startLsb + i
  else 8 * (startLsb / 8 - (startLsb % 8 + i) / 8) + (startLsb % 8 + i) % 8

/-- The raw code of a signal under a byte order. -/
def declaredRaw (byteOrder : Nat) (data : BitVec 64) (sig : SignalDef) : BitVec 64 :=
  (BitVec.ofBoolListLE ((List.range 64).map fun i =>
    decide (i < sig.length) && data.getLsbD (declaredBit byteOrder sig.startbitLsb i))).setWidth 64

theorem getLsbD_declaredRaw (byteOrder : Nat) (data : BitVec 64) (sig : SignalDef) {i : Nat}
    (hi : i < 64) : (declaredRaw byteOrder data sig).getLsbD i =
      (decide (i < sig.length) &&
        data.getLsbD (declaredBit byteOrder sig.startbitLsb i)) := by
  rw [declaredRaw, BitVec.getLsbD_setWidth, BitVec.getLsbD_ofBoolListLE,
    List.getD_eq_getElem?_getD, List.getElem?_map, List.getElem?_range hi, decide_eq_true hi,
    Bool.true_and]
  rfl

theorem getLsbD_rawOf (data : BitVec 64) (sig : SignalDef) (i : Nat) :
    (rawOf data sig).getLsbD i =
      (decide (i < sig.length) && data.getLsbD (sig.startbitLsb + i)) := by
  rw [← BitVec.testBit_toNat, toNat_rawOf, BitField.testBit_read]

theorem rawOf_eq_declaredRaw_iff {byteOrder : Nat} {data : BitVec 64} {sig : SignalDef} :
    rawOf data sig = declaredRaw byteOrder data sig ↔
      ∀ i < sig.length, data.getLsbD (sig.startbitLsb + i) =
        data.getLsbD (declaredBit byteOrder sig.startbitLsb i) := by
  have hlt := sig.fits.2.1
  constructor
  · intro h i hi
    have hbit := congrArg (fun x => BitVec.getLsbD x i) h
    simp only [getLsbD_rawOf, getLsbD_declaredRaw byteOrder data sig (show i < 64 by omega),
      hi, decide_true, Bool.true_and] at hbit
    exact hbit
  · intro h
    apply BitVec.eq_of_getLsbD_eq
    intro i hi
    rw [getLsbD_rawOf, getLsbD_declaredRaw byteOrder data sig hi]
    by_cases hlen : i < sig.length
    · rw [h i hlen]
    · rw [decide_eq_false hlen, Bool.false_and, Bool.false_and]

/-- Intel signals are read as they are declared. -/
theorem rawOf_eq_declaredRaw_intel (data : BitVec 64) (sig : SignalDef) :
    rawOf data sig = declaredRaw 0 data sig := by
  apply rawOf_eq_declaredRaw_iff.mpr
  intro i _
  rw [declaredBit, if_pos rfl]

/-! ### Which bits count -/

/-- Turning the bit over changes what the parser reads for the signal. -/
def Reads (sig : SignalDef) (i : Nat) : Prop :=
  ∃ data : BitVec 64, rawOf (data ^^^ (1#64 <<< i)) sig ≠ rawOf data sig

theorem getLsbD_flip (data : BitVec 64) {i j : Nat} (hj : j < 64) :
    (data ^^^ (1#64 <<< i)).getLsbD j = (data.getLsbD j ^^ decide (j = i)) := by
  rw [BitVec.getLsbD_xor, BitVec.getLsbD_shiftLeft, BitVec.getLsbD_one]
  by_cases h : j = i
  · subst h
    simp [hj]
  · by_cases hlt : j < i
    · simp [hlt, h]
    · have hsub : ¬ j - i = 0 := by omega
      simp [h, hsub]

theorem reads_iff (sig : SignalDef) (i : Nat) :
    Reads sig i ↔ sig.startbitLsb ≤ i ∧ i < sig.startbitLsb + sig.length := by
  obtain ⟨-, hlt, hend⟩ := sig.fits
  constructor
  · intro h
    obtain ⟨data, hne⟩ := h
    by_contra hout
    apply hne
    apply BitVec.eq_of_getLsbD_eq
    intro j _
    rw [getLsbD_rawOf, getLsbD_rawOf]
    by_cases hlen : j < sig.length
    · have hother : ¬ sig.startbitLsb + j = i := by omega
      rw [getLsbD_flip data (by omega), decide_eq_false hother, Bool.xor_false]
    · rw [decide_eq_false hlen, Bool.false_and, Bool.false_and]
  · intro h
    refine ⟨0#64, fun heq => ?_⟩
    have hbit := congrArg (fun x => BitVec.getLsbD x (i - sig.startbitLsb)) heq
    have hpos : sig.startbitLsb + (i - sig.startbitLsb) = i := by omega
    have hin : i - sig.startbitLsb < sig.length := by omega
    simp only [getLsbD_rawOf, hpos, getLsbD_flip 0#64 (show i < 64 by omega), hin] at hbit
    simp at hbit

/-- No bit of the data counts for two signals of the message. -/
def Independent (msg : MessageDef) : Prop :=
  msg.signals.Pairwise fun s t => ∀ i, ¬ (Reads s i ∧ Reads t i)

theorem independent_iff (msg : MessageDef) :
    Independent msg ↔ msg.signals.Pairwise fun s t =>
      BitField.Disjoint s.startbitLsb s.length t.startbitLsb t.length := by
  apply List.Pairwise.iff
  intro s t
  obtain ⟨hs, -, -⟩ := s.fits
  obtain ⟨ht, -, -⟩ := t.fits
  constructor
  · intro h
    by_contra hoverlap
    have hnot := not_or.mp hoverlap
    -- the higher of the two start bits lies in both
    apply h (max s.startbitLsb t.startbitLsb)
    rw [reads_iff, reads_iff]
    omega
  · intro h i hboth
    rw [reads_iff, reads_iff] at hboth
    obtain h | h := h <;> omega

/-! ### The parser against the table -/

/-- The word that the parser has to read for the signal to come out as declared. -/
def declaredWord (byteOrder : Nat) (data : BitVec 64) (sig : SignalDef) : BitVec 64 :=
  BitField.write data sig.startbitLsb sig.length (declaredRaw byteOrder data sig).toNat

/-- The signal loop with every signal in the declared order. -/
def parseDeclared (fr : CanFrame) (msg : MessageDef) : DeviceData :=
  let protoMsgName := if msg.name = "" then "UNKNOWN" else msg.name
  msg.signals.foldl
    (fun out sig => storeSignal (canonicalMsgName protoMsgName)
      (declaredWord msg.byteOrder fr.data sig) out sig)
    (header fr msg)

theorem rawOf_declaredWord (byteOrder : Nat) (data : BitVec 64) (sig : SignalDef) :
    rawOf (declaredWord byteOrder data sig) sig = declaredRaw byteOrder data sig := by
  obtain ⟨-, hlt, hend⟩ := sig.fits
  apply BitVec.eq_of_getLsbD_eq
  intro i hi
  rw [getLsbD_rawOf, getLsbD_declaredRaw byteOrder data sig hi]
  by_cases hlen : i < sig.length
  · have hsub : sig.startbitLsb + i - sig.startbitLsb = i := by omega
    rw [declaredWord, BitField.getLsbD_write _ _ _ _ _ (by omega), if_pos (by omega), hsub,
      BitVec.testBit_toNat, getLsbD_declaredRaw byteOrder data sig hi, decide_eq_true hlen,
      Bool.true_and, Bool.true_and]
  · rw [decide_eq_false hlen, Bool.false_and, Bool.false_and]

/-- A step of the loop depends on the word through the raw code only. -/
theorem storeSignal_congr {data data' : BitVec 64} {sig : SignalDef}
    (h : rawOf data sig = rawOf data' sig) (msgName : String) (out : DeviceData) :
    storeSignal msgName data out sig = storeSignal msgName data' out sig := by
  rw [rawOf, rawOf] at h
  unfold storeSignal
  rw [h]

theorem parseMessage_eq_parseDeclared {fr : CanFrame} {msg : MessageDef}
    (h : ∀ sig ∈ msg.signals, rawOf fr.data sig = declaredRaw msg.byteOrder fr.data sig) :
    parseMessage fr msg = parseDeclared fr msg := by
  apply List.foldl_ext
  intro out sig hsig
  apply storeSignal_congr
  rw [rawOf_declaredWord, h sig hsig]

/-! ### Motorola signals -/

/-- A signal inside one byte lies the same way in both orders. -/
theorem declaredBit_of_inside {byteOrder start len i : Nat} (h : start % 8 + len ≤ 8)
    (hi : i < len) : declaredBit byteOrder start i = start + i := by
  rw [declaredBit]
  split
  · rfl
  · have hdiv : (start % 8 + i) / 8 = 0 := by omega
    have hmod : (start % 8 + i) % 8 = start % 8 + i := by omega
    rw [hdiv, hmod]
    omega

/-- A signal of two whole bytes has its upper bits in the byte before. -/
theorem declaredBit_word {byteOrder start i : Nat} (hb : byteOrder ≠ 0) (h8 : start % 8 = 0)
    (hi : i < 16) :
    declaredBit byteOrder start i = if i < 8 then start + i else start - 8 + (i - 8) := by
  rw [declaredBit, if_neg hb]
  split
  · have hdiv : (start % 8 + i) / 8 = 0 := by omega
    have hmod : (start % 8 + i) % 8 = i := by omega
    rw [hdiv, hmod]
    omega
  · have hdiv : (start % 8 + i) / 8 = 1 := by omega
    have hmod : (start % 8 + i) % 8 = i - 8 := by omega
    rw [hdiv, hmod]
    omega

theorem byte_eq_iff (fr : CanFrame) (j k : Nat) :
    fr.byte j = fr.byte k ↔
      ∀ i < 8, fr.data.getLsbD (8 * j + i) = fr.data.getLsbD (8 * k + i) := by
  constructor
  · intro h i hi
    have hbit := congrArg (fun n => Nat.testBit n i) h
    simp only [CanFrame.byte, BitField.testBit_read, hi, decide_true, Bool.true_and] at hbit
    exact hbit
  · intro h
    apply Nat.eq_of_testBit_eq
    intro i
    rw [CanFrame.byte, CanFrame.byte, BitField.testBit_read, BitField.testBit_read]
    by_cases hi : i < 8
    · rw [h i hi]
    · rw [decide_eq_false hi, Bool.false_and, Bool.false_and]

/-- A word of a Motorola message comes out right exactly when the byte that the parser takes
for its upper half equals the one that is. -/
theorem rawOf_word_iff {byteOrder : Nat} (hb : byteOrder ≠ 0) (fr : CanFrame) {sig : SignalDef}
    (h8 : sig.startbitLsb % 8 = 0) (hlow : 8 ≤ sig.startbitLsb) (hlen : sig.length = 16) :
    rawOf fr.data sig = declaredRaw byteOrder fr.data sig ↔
      fr.byte (sig.startbitLsb / 8 + 1) = fr.byte (sig.startbitLsb / 8 - 1) := by
  rw [rawOf_eq_declaredRaw_iff, byte_eq_iff, hlen]
  constructor
  · intro h i hi
    have hbit := h (8 + i) (by omega)
    rw [declaredBit_word hb h8 (by omega), if_neg (by omega)] at hbit
    have hup : 8 * (sig.startbitLsb / 8 + 1) + i = sig.startbitLsb + (8 + i) := by omega
    have hdown : 8 * (sig.startbitLsb / 8 - 1) + i =
        sig.startbitLsb - 8 + (8 + i - 8) := by omega
    rw [hup, hdown, hbit]
  · intro h i hi
    rw [declaredBit_word hb h8 hi]
    split
    · rfl
    · have hbit := h (i - 8) (by omega)
      have hup : 8 * (sig.startbitLsb / 8 + 1) + (i - 8) = sig.startbitLsb + i := by omega
      have hdown : 8 * (sig.startbitLsb / 8 - 1) + (i - 8) =
          sig.startbitLsb - 8 + (i - 8) := by omega
      rw [hup, hdown] at hbit
      exact hbit

/-- The signals of the Motorola messages lie in one byte or are two whole ones. -/
theorem motorola_layout : ∀ m ∈ kMessages, m.byteOrder ≠ 0 → ∀ sig ∈ m.signals,
    sig.startbitLsb % 8 + sig.length ≤ 8 ∨
      sig.startbitLsb % 8 = 0 ∧ 8 ≤ sig.startbitLsb ∧ sig.length = 16 := by
  decide

theorem intel_iff_disjoint : ∀ m ∈ kMessages, (m.signals.Pairwise fun s t =>
    BitField.Disjoint s.startbitLsb s.length t.startbitLsb t.length) ↔ m.byteOrder = 0 := by
  decide

theorem decoded_iff {fr : CanFrame} {msg : MessageDef} (hmsg : msg ∈ kMessages) :
    (∀ sig ∈ msg.signals, rawOf fr.data sig = declaredRaw msg.byteOrder fr.data sig) ↔
      msg.byteOrder = 0 ∨ ∀ sig ∈ msg.signals, 8 < sig.length →
        fr.byte (sig.startbitLsb / 8 + 1) = fr.byte (sig.startbitLsb / 8 - 1) := by
  by_cases hb : msg.byteOrder = 0
  · rw [hb]
    exact iff_of_true (fun sig _ => rawOf_eq_declaredRaw_intel fr.data sig) (Or.inl rfl)
  · rw [or_iff_right hb]
    apply forall₂_congr
    intro sig hsig
    obtain hinside | ⟨h8, hlow, hlen⟩ := motorola_layout msg hmsg hb sig hsig
    · refine iff_of_true ?_ (fun hlong => by omega)
      apply rawOf_eq_declaredRaw_iff.mpr
      intro i hi
      rw [declaredBit_of_inside hinside hi]
    · rw [rawOf_word_iff hb fr h8 hlow hlen]
      have hlong : 8 < sig.length := by omega
      exact ⟨fun h _ => h, fun h => h hlong⟩

/-- A message is decoded as it is declared, with no bit counting twice, exactly when it is an
Intel message; the words of a Motorola message come out right by chance only. -/
theorem parse_declared_iff {fr : CanFrame} {msg : MessageDef} (hfr : Carries fr msg) :
    (parse fr = some (parseDeclared fr msg) ∧ Independent msg ↔ msg.byteOrder = 0) ∧
      ((∀ sig ∈ msg.signals, rawOf fr.data sig = declaredRaw msg.byteOrder fr.data sig) ↔
        msg.byteOrder = 0 ∨ ∀ sig ∈ msg.signals, 8 < sig.length →
          fr.byte (sig.startbitLsb / 8 + 1) = fr.byte (sig.startbitLsb / 8 - 1)) := by
  have hmsg := hfr.mem
  refine ⟨?_, decoded_iff hmsg⟩
  rw [independent_iff, intel_iff_disjoint msg hmsg]
  constructor
  · intro h
    exact h.2
  · intro hb
    refine ⟨?_, hb⟩
    rw [hfr.parse, parseMessage_eq_parseDeclared ((decoded_iff hmsg).mpr (Or.inl hb))]

theorem parse_declared_st4 :
    parse (st4Frame 60) = some (parseDeclared (st4Frame 60) st4Message) :=
  ((parse_declared_iff (st4Frame_carries 60)).1.mpr rfl).1

/-! A frame of the thermal management with fault code 3 and nothing else. -/

def tm2bMessage : MessageDef :=
  ⟨"TM2B_Info", 0x18FFC13A#32, 8, 1, 500, "TMS", "BMU", kSignalsTM2BState⟩

theorem power_fits : 0 < 16 ∧ 16 < 64 ∧ 48 + 16 ≤ 64 := by decide

theorem faultCode_fits : 0 < 6 ∧ 6 < 64 ∧ 56 + 6 ≤ 64 := by decide

def tm2bPower : SignalDef :=
  .mk "TM2B_RQPower_A" 48 16 0.1 0 0 6553.5 [(65535, "Invalid")] power_fits

def tm2bFaultCode : SignalDef :=
  .mk "TM2B_FaultCode_A" 56 6 1 0 0 63
    [(0, "No fault"), (1, "Bus under voltage,Level 1 Fault"),
     (2, "Bus over voltage,Level 1 Fault"), (6, "Abnormal,Level 2 Fault"),
     (13, "PTC Fault, Level 1 Fault")] faultCode_fits

def tm2bFault : CanFrame := ⟨0x98FFC10E#32, 8, 0x0300000000000000#64⟩

/-- The fault code counts as power as well: 76.8 is stored where 0 is declared. -/
theorem tm2b_power_from_fault_code :
    Carries tm2bFault tm2bMessage ∧ tm2bPower ∈ tm2bMessage.signals ∧
      tm2bFaultCode ∈ tm2bMessage.signals ∧
      parsedNum tm2bFault tm2bMessage tm2bPower = some 76.8 ∧
      declaredRaw tm2bMessage.byteOrder tm2bFault.data tm2bPower = 0 ∧
      parse tm2bFault ≠ some (parseDeclared tm2bFault tm2bMessage) ∧
      Reads tm2bPower 56 ∧ Reads tm2bFaultCode 56 := by
  have hcarries : Carries tm2bFault tm2bMessage := ⟨by decide, le_refl 8, by decide +kernel⟩
  have hpower : tm2bPower ∈ tm2bMessage.signals := by decide +kernel
  have hstored : parsedNum tm2bFault tm2bMessage tm2bPower = some 76.8 := by
    rw [parsedNum_eq hcarries hpower (by decide +kernel)
      (show lastSignal tm2bMessage tm2bPower.name = some tm2bPower by decide +kernel)]
    decide +kernel
  have hdeclared : (parseDeclared tm2bFault tm2bMessage).num.get
      (fullKey (canonicalMsgName tm2bMessage.name) tm2bPower.name) = some 0 := by
    decide +kernel
  refine ⟨hcarries, hpower, by decide +kernel, hstored, by decide +kernel, ?_,
    (reads_iff _ _).mpr (by decide), (reads_iff _ _).mpr (by decide)⟩
  intro h
  rw [parsedNum, h, Option.bind_some, hdeclared, Option.some.injEq] at hstored
  exact absurd hstored (by decide +kernel)

end Bms
end EnergyStorage
