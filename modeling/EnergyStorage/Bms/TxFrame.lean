import EnergyStorage.Bms.RuntimeIds
import EnergyStorage.Bms.Tx
import Mathlib.Data.List.Pairwise

/-! # The command frame read back

The frame of a command holds every signal of the command message, and each is the field of
the command or the last override of that name, cut to its width. -/

namespace EnergyStorage
namespace Bms
namespace BmsTx

open BmsProto TableRuntime FrameRouter
open Lib

/-! ### One range of bits -/

theorem toNat_extractBitsLsb (data : BitVec 64) (startLsb len : Nat) :
    (extractBitsLsb data startLsb len).toNat =
      BitField.read data startLsb (min len (64 - startLsb)) := by
  rw [extractBitsLsb]
  by_cases hout : len = 0 ∨ 64 ≤ startLsb
  · have hzero : min len (64 - startLsb) = 0 := by omega
    rw [if_pos hout, hzero, BitField.read, Nat.pow_zero, Nat.mod_one]
    rfl
  · have hcut : (if startLsb + len > 64 then 64 - startLsb else len) =
        min len (64 - startLsb) := by
      split <;> omega
    rw [if_neg hout]
    simp only [hcut]
    have hpos : 0 < min len (64 - startLsb) := by omega
    have hle : min len (64 - startLsb) ≤ 64 := by omega
    generalize min len (64 - startLsb) = n at hpos hle
    have hmask : (if n = 64 then ~~~0#64 else (1#64 <<< n) - 1#64) =
        BitVec.ofNat 64 (2 ^ n - 1) := by
      by_cases hn : n = 64
      · rw [if_pos hn, hn]
        decide
      · have hpow : 2 ^ n < 2 ^ 64 := Nat.pow_lt_pow_right (by decide) (by omega)
        have hone : 0 < 2 ^ n := Nat.two_pow_pos n
        rw [if_neg hn]
        apply BitVec.eq_of_toNat_eq
        rw [BitVec.toNat_sub, BitVec.toNat_shiftLeft, BitVec.toNat_ofNat, BitVec.toNat_ofNat,
          Nat.shiftLeft_eq]
        omega
    have hmod : (2 ^ n - 1) % 2 ^ 64 = 2 ^ n - 1 := by
      have hpow : 2 ^ n ≤ 2 ^ 64 := Nat.pow_le_pow_right (by decide) hle
      have hone : 0 < 2 ^ n := Nat.two_pow_pos n
      exact Nat.mod_eq_of_lt (by omega)
    rw [hmask, BitVec.toNat_and, BitVec.toNat_ushiftRight, BitVec.toNat_ofNat, hmod,
      Nat.and_two_pow_sub_one_eq_mod, BitField.read]

theorem packBitsLsb_eq (data : BitVec 64) (startLsb len value : Nat) :
    packBitsLsb data startLsb len value =
      if len = 0 ∨ 64 ≤ startLsb then data
      else BitField.write data startLsb (min len (64 - startLsb)) value := by
  rw [packBitsLsb]
  by_cases hout : len = 0 ∨ 64 ≤ startLsb
  · rw [if_pos hout, if_pos hout]
  · have hcut : (if startLsb + len > 64 then 64 - startLsb else len) =
        min len (64 - startLsb) := by
      split <;> omega
    rw [if_neg hout, if_neg hout]
    simp only [hcut]

/-- What is packed is extracted again as far as the range lies inside the word, and every bit
outside the range stays. -/
theorem extract_pack (data : BitVec 64) (startLsb len value : Nat) :
    (extractBitsLsb (packBitsLsb data startLsb len value) startLsb len).toNat =
        value % 2 ^ min len (64 - startLsb) ∧
      ∀ i, ¬ (startLsb ≤ i ∧ i < startLsb + len) →
        (packBitsLsb data startLsb len value).getLsbD i = data.getLsbD i := by
  rw [toNat_extractBitsLsb, packBitsLsb_eq]
  by_cases hout : len = 0 ∨ 64 ≤ startLsb
  · have hzero : min len (64 - startLsb) = 0 := by omega
    rw [if_pos hout, hzero, BitField.read, Nat.pow_zero, Nat.mod_one, Nat.mod_one]
    exact ⟨rfl, fun _ _ => rfl⟩
  · rw [if_neg hout]
    constructor
    · exact BitField.read_write_same _ (by omega) value
    · intro i hi
      by_cases hw : i < 64
      · rw [BitField.getLsbD_write _ _ _ _ _ hw, if_neg (by omega)]
      · rw [BitVec.getLsbD_of_ge _ _ (by omega), BitVec.getLsbD_of_ge _ _ (by omega)]

/-! ### Overrides -/

/-- The loop over the overrides: the one of the name is replaced, else a new one goes to the
end. -/
def setOverride (sigName : String) (v : Nat) : List (String × Nat) → List (String × Nat)
  | [] => [(sigName, v % 256)]
  | o :: os => if o.1 = sigName then (o.1, v % 256) :: os else o :: setOverride sigName v os

def setOtherU8 (tx : BmsTx) (o : String × Nat) : BmsTx :=
  { tx with u8Overrides := setOverride o.1 o.2 tx.u8Overrides }

/-- The last value that a list gives to a name. -/
def lastValue (l : List (String × Nat)) (name : String) : Option Nat :=
  l.reverse.findSome? fun nv => if nv.1 = name then some nv.2 else none

@[simp] theorem lastValue_nil (name : String) : lastValue [] name = none := rfl

theorem lastValue_append (l l' : List (String × Nat)) (name : String) :
    lastValue (l ++ l') name = (lastValue l' name).or (lastValue l name) := by
  rw [lastValue, List.reverse_append, List.findSome?_append]
  rfl

theorem lastValue_singleton (nv : String × Nat) (name : String) :
    lastValue [nv] name = if nv.1 = name then some nv.2 else none := by
  rw [lastValue, List.reverse_singleton, List.findSome?_singleton]

theorem lastValue_cons (nv : String × Nat) (l : List (String × Nat)) (name : String) :
    lastValue (nv :: l) name =
      (lastValue l name).or (if nv.1 = name then some nv.2 else none) := by
  rw [← List.singleton_append, lastValue_append, lastValue_singleton]

theorem lastValue_eq_none {l : List (String × Nat)} {name : String}
    (h : name ∉ l.map Prod.fst) : lastValue l name = none := by
  rw [lastValue, List.findSome?_eq_none_iff]
  intro nv hnv
  rw [if_neg]
  intro hname
  exact h (hname ▸ List.mem_map_of_mem (List.mem_reverse.mp hnv))

/-- With every name once there is one value for it. -/
theorem lastValue_of_mem {l : List (String × Nat)} (h : (l.map Prod.fst).Nodup)
    {nv : String × Nat} (hnv : nv ∈ l) : lastValue l nv.1 = some nv.2 := by
  induction l with
  | nil => cases hnv
  | cons o l ih =>
    obtain ⟨hnew, hrest⟩ := List.nodup_cons.mp h
    rw [lastValue_cons]
    obtain rfl | hmem := List.mem_cons.mp hnv
    · rw [lastValue_eq_none hnew, if_pos rfl]
      rfl
    · rw [ih hrest hmem]
      rfl

theorem mem_setOverride {sigName name : String} {v : Nat} {os : List (String × Nat)} :
    name ∈ (setOverride sigName v os).map Prod.fst ↔
      name = sigName ∨ name ∈ os.map Prod.fst := by
  induction os with
  | nil => simp [setOverride]
  | cons o os ih =>
    rw [setOverride]
    split
    · rename_i h
      simp [h]
    · rw [List.map_cons, List.mem_cons, ih, List.map_cons, List.mem_cons]
      tauto

/-- The names stay different. -/
theorem nodup_setOverride {os : List (String × Nat)} (h : (os.map Prod.fst).Nodup)
    (sigName : String) (v : Nat) : ((setOverride sigName v os).map Prod.fst).Nodup := by
  induction os with
  | nil => exact List.nodup_singleton _
  | cons o os ih =>
    obtain ⟨hnew, hrest⟩ := List.nodup_cons.mp h
    rw [setOverride]
    split
    · exact List.nodup_cons.mpr ⟨hnew, hrest⟩
    · rename_i hne
      refine List.nodup_cons.mpr ⟨?_, ih hrest⟩
      rw [mem_setOverride]
      exact not_or.mpr ⟨hne, hnew⟩

/-- A call sets the value of its name and of no other. -/
theorem lastValue_setOverride {os : List (String × Nat)} (h : (os.map Prod.fst).Nodup)
    (sigName : String) (v : Nat) (name : String) :
    lastValue (setOverride sigName v os) name =
      if sigName = name then some (v % 256) else lastValue os name := by
  induction os with
  | nil => exact lastValue_singleton _ _
  | cons o os ih =>
    obtain ⟨hnew, hrest⟩ := List.nodup_cons.mp h
    rw [setOverride]
    split
    · rename_i ho
      rw [lastValue_cons, lastValue_cons, ← ho]
      by_cases hname : o.1 = name
      · rw [if_pos hname, if_pos hname, lastValue_eq_none (hname ▸ hnew)]
        rfl
      · rw [if_neg hname, if_neg hname, if_neg hname]
    · rename_i ho
      rw [lastValue_cons, lastValue_cons, ih hrest]
      by_cases hname : sigName = name
      · rw [if_pos hname, if_pos hname]
        rfl
      · rw [if_neg hname, if_neg hname]

/-- After a list of calls every name has the value of the last call for it, as a byte. -/
theorem lastValue_calls (calls : List (String × Nat)) {tx : BmsTx} (htx : tx.u8Overrides = [])
    (name : String) :
    ((calls.foldl setOtherU8 tx).u8Overrides.map Prod.fst).Nodup ∧
      lastValue (calls.foldl setOtherU8 tx).u8Overrides name =
        (lastValue calls name).map (· % 256) := by
  induction calls using List.reverseRecOn with
  | nil =>
    rw [List.foldl_nil, htx]
    exact ⟨List.nodup_nil, rfl⟩
  | append_singleton calls o ih =>
    obtain ⟨hnodup, hlast⟩ := ih
    rw [List.foldl_append, List.foldl_cons, List.foldl_nil]
    refine ⟨nodup_setOverride hnodup o.1 o.2, ?_⟩
    show lastValue (setOverride o.1 o.2 _) name = _
    rw [lastValue_setOverride hnodup, hlast, lastValue_append, lastValue_singleton]
    split <;> rfl

theorem foldl_setOtherU8 (calls : List (String × Nat)) (tx : BmsTx) :
    (calls.foldl setOtherU8 tx).v2bCmdId29 = tx.v2bCmdId29 ∧
      (calls.foldl setOtherU8 tx).v2bMsg = tx.v2bMsg := by
  induction calls generalizing tx with
  | nil => exact ⟨rfl, rfl⟩
  | cons o calls ih => exact ih (setOtherU8 tx o)

/-! ### The layout of the command message -/

theorem v2b_pairwise_disjoint : v2bMessage.signals.Pairwise fun s t =>
    BitField.Disjoint s.startbitLsb s.length t.startbitLsb t.length := by
  decide

theorem v2b_length_le : ∀ s ∈ v2bMessage.signals, s.length ≤ 8 := by
  decide

theorem v2b_disjoint {s t : SignalDef} (hs : s ∈ v2bMessage.signals)
    (ht : t ∈ v2bMessage.signals) (hne : s.name ≠ t.name) :
    BitField.Disjoint s.startbitLsb s.length t.startbitLsb t.length := by
  have hsymm : Std.Symm fun s t : SignalDef =>
      BitField.Disjoint s.startbitLsb s.length t.startbitLsb t.length := ⟨fun _ _ h => Or.symm h⟩
  exact v2b_pairwise_disjoint.forall hs ht fun h => hne (congrArg SignalDef.name h)

theorem signals_names (cmd : V2bCmdFields) :
    cmd.signals.map Prod.fst = v2bMessage.signals.map SignalDef.name := rfl

theorem v2b_names_nodup : (v2bMessage.signals.map SignalDef.name).Nodup := by
  decide

theorem findSignal_name {msg : MessageDef} {name : String} {s : SignalDef}
    (h : findSignal msg name = some s) : s ∈ msg.signals ∧ s.name = name := by
  rw [findSignal] at h
  have hbeq := List.find?_some h
  exact ⟨List.mem_of_find?_eq_some h, beq_iff_eq.mp hbeq⟩

/-- A signal of the message is the one found under its name. -/
theorem findSignal_of_mem {s : SignalDef} (hs : s ∈ v2bMessage.signals) :
    findSignal v2bMessage s.name = some s := by
  cases hf : findSignal v2bMessage s.name with
  | none =>
    rw [findSignal] at hf
    exact absurd (beq_self_eq_true s.name) (List.find?_eq_none.mp hf s hs)
  | some t =>
    obtain ⟨ht, hname⟩ := findSignal_name hf
    rw [List.inj_on_of_nodup_map v2b_names_nodup ht hs hname]

/-! ### The packed word -/

/-- For a command signal, none being longer than a byte, an override is packed as a field. -/
theorem packOverride_eq (data : BitVec 64) (nv : String × Nat) :
    packOverride v2bMessage data nv = packSignal v2bMessage data nv := by
  rw [packOverride, packSignal]
  cases hf : findSignal v2bMessage nv.1 with
  | none => rfl
  | some s =>
    have hle := v2b_length_le s (findSignal_name hf).1
    simp only [if_neg (show ¬ s.length > 8 by omega)]

theorem read_packSignal {sig : SignalDef} (hsig : sig ∈ v2bMessage.signals) (data : BitVec 64)
    (nv : String × Nat) :
    BitField.read (packSignal v2bMessage data nv) sig.startbitLsb sig.length =
      if nv.1 = sig.name then nv.2 % 2 ^ sig.length
      else BitField.read data sig.startbitLsb sig.length := by
  rw [packSignal]
  by_cases hname : nv.1 = sig.name
  · rw [if_pos hname, hname, findSignal_of_mem hsig]
    simp only [packBitsLsb_eq_write]
    exact BitField.read_write_same _ sig.fits.2.2 nv.2
  · rw [if_neg hname]
    cases hf : findSignal v2bMessage nv.1 with
    | none => rfl
    | some t =>
      obtain ⟨ht, ht'⟩ := findSignal_name hf
      have hne : sig.name ≠ t.name := by
        rw [ht']
        exact Ne.symm hname
      simp only [packBitsLsb_eq_write]
      exact BitField.read_write_disjoint _ (v2b_disjoint hsig ht hne) nv.2

/-- After any list of values a signal holds the last one of its name. -/
theorem read_packed {sig : SignalDef} (hsig : sig ∈ v2bMessage.signals) (data : BitVec 64)
    (l : List (String × Nat)) :
    BitField.read (l.foldl (packSignal v2bMessage) data) sig.startbitLsb sig.length =
      ((lastValue l sig.name).map (· % 2 ^ sig.length)).getD
        (BitField.read data sig.startbitLsb sig.length) := by
  induction l using List.reverseRecOn with
  | nil => rfl
  | append_singleton l nv ih =>
    rw [List.foldl_append, List.foldl_cons, List.foldl_nil, read_packSignal hsig, ih,
      lastValue_append, lastValue_singleton]
    by_cases hname : nv.1 = sig.name
    · rw [if_pos hname, if_pos hname]
      rfl
    · rw [if_neg hname, if_neg hname, Option.none_or]

/-! ### A bound transmitter -/

theorem msgCodeFromProtoId_normalize (id29 : BitVec 32) :
    msgCodeFromProtoId (normalizeToProtoId id29) = msgCodeFromProtoId id29 := by
  rw [normalizeToProtoId, msgCodeFromProtoId_clean29]
  by_cases hproto : protoIdFromMsgCode (msgCodeFromProtoId id29) ≠ 0#32
  · rw [if_pos hproto]
    exact msgCodeFromProtoId_protoIdFromMsgCode (protoIdFromMsgCode_ne_zero hproto)
  · rw [if_neg hproto, msgCodeFromProtoId_clean29]

/-- Under whichever identifier the transmitter binds, it is one of the command message. -/
theorem init_command {tx : BmsTx} {id29 : BitVec 32} (h : (init tx id29).2 = true) :
    (init tx id29).1.v2bMsg = some v2bMessage ∧ msgCodeFromProtoId id29 = 0x01 := by
  have hfind := findMessage_eq (normalizeToProtoId id29)
  rw [msgCodeFromProtoId_normalize] at hfind
  rw [init, bindSignals] at h ⊢
  simp only [hfind] at h ⊢
  have honly : ∀ code < 16, 1 ≤ code → ∀ m ∈ findTableMessage (protoIdFromMsgCode code),
      (findSignal m "V2B_CMD_LifeSignal").isSome = true → code = 0x01 := by
    decide
  cases hmsg : findTableMessage (protoIdFromMsgCode (msgCodeFromProtoId id29)) with
  | none =>
    rw [hmsg] at h
    cases h
  | some m =>
    have hrange := (findTableMessage_isSome_iff _).mp (Option.isSome_of_eq_some hmsg)
    rw [hmsg] at h
    have hcode := honly _ (by omega) hrange.1 m hmsg h
    have hv2b : findTableMessage (protoIdFromMsgCode 0x01) = some v2bMessage := rfl
    rw [hcode, hv2b] at hmsg
    exact ⟨hmsg.symm, hcode⟩

/-- The identifier of the frame of an instance. -/
theorem id29_command {id29 : BitVec 32} (hid : msgCodeFromProtoId id29 = 0x01) {idx : Nat}
    (hidx : isValidInstance idx = true) :
    decodeRuntimeId ((canEffFlag ||| rewriteRuntimeId id29 idx) &&& canEffMask) =
      some (idx, 0x01) := by
  rw [rewriteRuntimeId_of_code hidx hid (by decide)]
  exact valid_cases (P := fun i => decodeRuntimeId ((canEffFlag |||
    (high20 (protoIdFromMsgCode 0x01) ||| BitVec.ofNat 32 (256 * i + 0x01))) &&& canEffMask) =
      some (i, 0x01)) (by decide) (by decide +kernel) (by decide +kernel)
    (by decide) hidx

/-- The frame of a valid command, whatever the overrides. -/
theorem build_command {tx : BmsTx} (hmsg : tx.v2bMsg = some v2bMessage) {cmd : V2bCmdFields}
    (hvalid : cmd.valid = true) :
    buildFrameForInstance tx cmd = some
      { canId := canEffFlag ||| rewriteRuntimeId tx.v2bCmdId29 cmd.instanceIndex
        canDlc := 8
        data := (cmd.signals ++ tx.u8Overrides).foldl (packSignal v2bMessage) 0#64 } := by
  have hlife : (findSignal v2bMessage "V2B_CMD_LifeSignal").isNone = false := by
    rw [← Option.not_isSome, findSignal_life]
    rfl
  have hoverride : packOverride v2bMessage = packSignal v2bMessage := by
    funext data nv
    exact packOverride_eq data nv
  simp only [buildFrameForInstance, hvalid, hmsg, hlife, hoverride, List.foldl_append,
    not_true_eq_false, if_false, Bool.false_eq_true]

/-- Every signal of the frame is the field of the command or the override of the last call for
its name, cut to the width of the signal, the signals do not overlap, and the identifier is
that of the command message and the instance. -/
theorem command_decodes_back :
    (∀ (data : BitVec 64) (startLsb len value : Nat),
      (extractBitsLsb (packBitsLsb data startLsb len value) startLsb len).toNat =
          value % 2 ^ min len (64 - startLsb) ∧
        ∀ i, ¬ (startLsb ≤ i ∧ i < startLsb + len) →
          (packBitsLsb data startLsb len value).getLsbD i = data.getLsbD i) ∧
      ∀ (id29 : BitVec 32) (calls : List (String × Nat)) (cmd : V2bCmdFields),
        (init {} id29).2 = true → cmd.valid = true →
        isValidInstance cmd.instanceIndex = true →
        ∃ fr, buildFrameForInstance (calls.foldl setOtherU8 (init {} id29).1) cmd = some fr ∧
          findMessage fr.id29 = some v2bMessage ∧
          decodeRuntimeId fr.id29 = some (cmd.instanceIndex, 0x01) ∧
          (v2bMessage.signals.Pairwise fun s t =>
            BitField.Disjoint s.startbitLsb s.length t.startbitLsb t.length) ∧
          cmd.signals.map Prod.fst = v2bMessage.signals.map SignalDef.name ∧
          ∀ nv ∈ cmd.signals, ∀ sig ∈ v2bMessage.signals, sig.name = nv.1 →
            (extractBitsLsb fr.data sig.startbitLsb sig.length).toNat =
              ((lastValue calls nv.1).map (· % 256)).getD nv.2 % 2 ^ sig.length := by
  refine ⟨extract_pack, ?_⟩
  intro id29 calls cmd hinit hvalid hidx
  obtain ⟨hmsg, hcode⟩ := init_command hinit
  obtain ⟨hid, hmsg'⟩ := foldl_setOtherU8 calls (init {} id29).1
  have hinitId : (init {} id29).1.v2bCmdId29 = id29 := by
    simp only [init, bindSignals]
    split <;> rfl
  have hovers : (init {} id29).1.u8Overrides = [] := by
    simp only [init, bindSignals]
    split <;> rfl
  have hbuild := build_command (hmsg'.trans hmsg) hvalid
  have hdecode := id29_command hcode hidx
  refine ⟨_, hbuild, ?_, ?_, v2b_pairwise_disjoint, signals_names cmd, ?_⟩
  · rw [CanFrame.id29, hid, hinitId, findMessage_eq, msgCodeFromProtoId_of_decode hdecode]
    rfl
  · rw [CanFrame.id29, hid, hinitId]
    exact hdecode
  · intro nv hnv sig hsig hname
    have hnodup : (cmd.signals.map Prod.fst).Nodup := v2b_names_nodup
    have hcut : min sig.length (64 - sig.startbitLsb) = sig.length := by
      have hend := sig.fits.2.2
      omega
    rw [toNat_extractBitsLsb, hcut, read_packed hsig, hname, lastValue_append,
      lastValue_of_mem hnodup hnv, (lastValue_calls calls hovers nv.1).2]
    cases lastValue calls nv.1 <;> rfl

/-- A range that leaves the word is cut at its end. -/
theorem extract_pack_cut :
    (extractBitsLsb (packBitsLsb 0#64 60 8 255) 60 8).toNat ≠ 255 % 2 ^ 8 := by
  decide

/-- The first call for the high-voltage signal gives way to the second, and the command of the
second battery is sent under a runtime identifier of its own. -/
theorem command_decodes_back_overridden :
    ∃ fr, buildFrameForInstance
        ([("V2B_CMD_HV_OnOff", 1), ("V2B_CMD_HV_OnOff", 258)].foldl setOtherU8
          (init {} 0x1802F101#32).1) { instanceIndex := 2, hvOnoff := 1 } = some fr ∧
      decodeRuntimeId fr.id29 = some (2, 0x01) ∧ (extractBitsLsb fr.data 8 2).toNat = 2 := by
  obtain ⟨fr, hfr, -, hid, -, -, hsignals⟩ := command_decodes_back.2 0x1802F101#32
    [("V2B_CMD_HV_OnOff", 1), ("V2B_CMD_HV_OnOff", 258)] { instanceIndex := 2, hvOnoff := 1 }
    (by decide) rfl rfl
  refine ⟨fr, hfr, hid, ?_⟩
  have hhv := hsignals ("V2B_CMD_HV_OnOff", 1) (List.mem_cons_of_mem _ List.mem_cons_self)
    v2bHvSignal (findSignal_name findSignal_hv).1 rfl
  exact hhv.trans (by decide)

end BmsTx
end Bms
end EnergyStorage
