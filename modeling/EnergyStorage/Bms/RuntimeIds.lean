import EnergyStorage.Bms.TableRuntime

/-! # Identifiers and what they name

An identifier on the bus is a template, that of a battery behind the hub, or that of a
device that the router does not know.  Past the templates the router looks at the low
twelve bits only. -/

namespace EnergyStorage
namespace Bms

namespace FrameRouter

/-! ### Low twelve bits -/

/-- The template bits that a runtime identifier keeps. -/
def high20 (id29 : BitVec 32) : BitVec 32 := id29 &&& ~~~0xFFF#32

theorem clean29_setWidth (id : BitVec 29) : clean29 (id.setWidth 32) = id.setWidth 32 := by
  apply BitVec.eq_of_toNat_eq
  have hid := id.isLt
  rw [clean29, BitVec.toNat_and, BitVec.toNat_setWidth, Nat.mod_eq_of_lt (by omega)]
  show id.toNat &&& (2 ^ 29 - 1) = id.toNat
  rw [Nat.and_two_pow_sub_one_eq_mod, Nat.mod_eq_of_lt hid]

theorem low12_lt (id29 : BitVec 32) : (low12 id29).toNat < 4096 := by
  rw [low12, BitVec.toNat_and]
  show (clean29 id29).toNat &&& (2 ^ 12 - 1) < 4096
  rw [Nat.and_two_pow_sub_one_eq_mod]
  omega

theorem low12_clean29 (id29 : BitVec 32) : low12 (clean29 id29) = low12 id29 := by
  rw [low12, clean29_clean29, low12]

theorem toNat_nibble (id29 : BitVec 32) :
    ((low12 id29 >>> 8) &&& 0xF#32).toNat = (low12 id29).toNat / 256 := by
  have hlt := low12_lt id29
  rw [BitVec.toNat_and, BitVec.toNat_ushiftRight, Nat.shiftRight_eq_div_pow]
  show (low12 id29).toNat / 2 ^ 8 &&& (2 ^ 4 - 1) = _
  rw [Nat.and_two_pow_sub_one_eq_mod]
  omega

theorem extractMsgCode_eq (id29 : BitVec 32) :
    extractMsgCode id29 = (low12 id29).toNat % 256 := by
  rw [extractMsgCode, BitVec.toNat_and]
  show (low12 id29).toNat &&& (2 ^ 8 - 1) = _
  rw [Nat.and_two_pow_sub_one_eq_mod]

theorem protoIdFromMsgCode_ne_zero_iff (code : Nat) :
    protoIdFromMsgCode code ≠ 0#32 ↔ 1 ≤ code ∧ code ≤ 15 :=
  ⟨protoIdFromMsgCode_ne_zero, protoIdFromMsgCode_pos⟩

/-- What decodes is an instance and a code in the low twelve bits. -/
theorem decodeRuntimeId_eq_some_iff {id29 : BitVec 32} {idx code : Nat} :
    decodeRuntimeId id29 = some (idx, code) ↔
      isValidInstance idx = true ∧ (1 ≤ code ∧ code ≤ 15) ∧
        (low12 id29).toNat = 256 * idx + code := by
  have hnibble := toNat_nibble id29
  have hinst : extractInstanceIndex id29 =
      if isValidInstance ((low12 id29).toNat / 256) then (low12 id29).toNat / 256 else 0 := by
    simp only [extractInstanceIndex, hnibble]
  simp only [decodeRuntimeId, hinst, extractMsgCode_eq]
  by_cases hv : isValidInstance ((low12 id29).toNat / 256) = true
  · rw [if_pos hv, if_neg (not_not.mpr hv)]
    by_cases hp : protoIdFromMsgCode ((low12 id29).toNat % 256) = 0#32
    · rw [if_pos hp]
      constructor
      · intro h
        cases h
      · intro h
        obtain ⟨-, hcode, hlow⟩ := h
        have hmod : (low12 id29).toNat % 256 = code := by omega
        exact absurd hp (by rw [hmod]; exact protoIdFromMsgCode_pos hcode)
    · have hcode := protoIdFromMsgCode_ne_zero hp
      rw [if_neg hp, Option.some.injEq, Prod.mk.injEq]
      constructor
      · intro h
        obtain ⟨rfl, rfl⟩ := h
        exact ⟨hv, hcode, by omega⟩
      · intro h
        obtain ⟨-, hcode', hlow⟩ := h
        constructor <;> omega
  · rw [if_neg hv, if_pos (by decide)]
    constructor
    · intro h
      cases h
    · intro h
      obtain ⟨hidx, hcode, hlow⟩ := h
      have hdiv : (low12 id29).toNat / 256 = idx := by omega
      exact absurd hidx (by rw [← hdiv]; exact hv)

theorem decodeRuntimeId_clean29 (id29 : BitVec 32) :
    decodeRuntimeId (clean29 id29) = decodeRuntimeId id29 := by
  unfold decodeRuntimeId extractInstanceIndex extractMsgCode
  rw [low12_clean29]

/-! ### Rewriting -/

/-- The code of a table identifier. -/
theorem msgCodeFromProtoId_protoIdFromMsgCode {code : Nat} (h : 1 ≤ code ∧ code ≤ 15) :
    msgCodeFromProtoId (protoIdFromMsgCode code) = code := by
  have hall : ∀ code < 16, 1 ≤ code → msgCodeFromProtoId (protoIdFromMsgCode code) = code := by
    decide
  exact hall code (by omega) h.1

theorem msgCodeFromProtoId_template {t : BitVec 32 × Nat} (h : t ∈ templateIds) :
    msgCodeFromProtoId t.1 = t.2 ∧ (1 ≤ t.2 ∧ t.2 ≤ 15) := by
  have hall : ∀ t ∈ templateIds, msgCodeFromProtoId t.1 = t.2 ∧ (1 ≤ t.2 ∧ t.2 ≤ 15) := by
    decide
  exact hall t h

/-- The twelve bits that rewriting puts in. -/
theorem newLow12_eq {idx code : Nat} (hidx : isValidInstance idx = true)
    (hcode : 1 ≤ code ∧ code ≤ 15) :
    BitVec.ofNat 32 ((idx &&& 0xF) <<< 8 ||| (code &&& 0xFF)) =
      BitVec.ofNat 32 (256 * idx + code) := by
  have hall : ∀ idx < 5, ∀ code < 16, BitVec.ofNat 32 ((idx &&& 0xF) <<< 8 ||| (code &&& 0xFF)) =
      BitVec.ofNat 32 (256 * idx + code) := by
    decide
  obtain ⟨-, hle⟩ := (isValidInstance_iff idx).mp hidx
  exact hall idx (by omega) code (by omega)

theorem rewriteRuntimeId_of_code {id29 : BitVec 32} {idx code : Nat}
    (hidx : isValidInstance idx = true) (hid : msgCodeFromProtoId id29 = code)
    (hcode : 1 ≤ code ∧ code ≤ 15) :
    rewriteRuntimeId id29 idx =
      high20 (protoIdFromMsgCode code) ||| BitVec.ofNat 32 (256 * idx + code) := by
  have hproto := protoIdFromMsgCode_pos hcode
  rw [rewriteRuntimeId, msgCodeFromProtoId_clean29, hid, if_neg (not_not.mpr hidx),
    if_neg (by omega)]
  simp only [if_neg hproto]
  rw [newLow12_eq hidx hcode, high20]

theorem rewriteRuntimeId_of_not_valid {idx : Nat} (h : ¬ isValidInstance idx = true)
    (id : BitVec 29) : rewriteRuntimeId (id.setWidth 32) idx = id.setWidth 32 := by
  rw [rewriteRuntimeId, if_pos h, clean29_setWidth]

/-- A word under a mask, put into another one, gives the word back exactly when the two agree
outside the mask. -/
theorem or_mask_eq_iff (a b m : BitVec 32) :
    a &&& ~~~m ||| (b &&& m) = b ↔ b &&& ~~~m = a &&& ~~~m := by
  constructor
  · intro h
    rw [← h]
    ext i hi
    by_cases hm : m[i] = true <;> simp [hm]
  · intro h
    ext i hi
    have hbit := congrArg (fun x : BitVec 32 => x[i]) h
    by_cases hm : m[i] = true <;> simp [hm] at hbit ⊢
    exact hbit.symm

/-- Rewriting what an identifier decodes to puts the high bits of the template before its
low twelve bits. -/
theorem rewrite_decoded {id : BitVec 29} {idx code : Nat}
    (h : decodeRuntimeId (id.setWidth 32) = some (idx, code)) :
    rewriteRuntimeId (protoIdFromMsgCode code) idx =
      high20 (protoIdFromMsgCode code) ||| low12 (id.setWidth 32) := by
  obtain ⟨hidx, hcode, hlow⟩ := decodeRuntimeId_eq_some_iff.mp h
  rw [rewriteRuntimeId_of_code hidx (msgCodeFromProtoId_protoIdFromMsgCode hcode) hcode, ← hlow,
    BitVec.ofNat_toNat, BitVec.setWidth_eq]

theorem rewrite_decoded_eq_iff {id : BitVec 29} {idx code : Nat}
    (h : decodeRuntimeId (id.setWidth 32) = some (idx, code)) :
    rewriteRuntimeId (protoIdFromMsgCode code) idx = id.setWidth 32 ↔
      high20 (id.setWidth 32) = high20 (protoIdFromMsgCode code) := by
  rw [rewrite_decoded h, low12, clean29_setWidth]
  exact or_mask_eq_iff _ _ _

/-- A rewritten template decodes to the instance and the code. -/
theorem decode_rewriteRuntimeId {t : BitVec 32 × Nat} (ht : t ∈ templateIds) {idx : Nat}
    (hidx : isValidInstance idx = true) :
    decodeRuntimeId (rewriteRuntimeId t.1 idx) = some (idx, t.2) := by
  obtain ⟨hid, hcode⟩ := msgCodeFromProtoId_template ht
  have hextract := @extract_rewriteRuntimeId t.1 idx hidx (by omega)
  rw [hid] at hextract
  rw [decodeRuntimeId, hextract.1, hextract.2]
  simp only [if_neg (not_not.mpr hidx), if_neg (protoIdFromMsgCode_pos hcode)]

/-- Two identifiers name the same instance and code exactly when their low twelve bits
agree. -/
theorem decode_eq_iff {a b : BitVec 32} {p : Nat × Nat} (ha : decodeRuntimeId a = some p) :
    decodeRuntimeId b = some p ↔ low12 b = low12 a := by
  obtain ⟨idx, code⟩ := p
  obtain ⟨hidx, hcode, hlow⟩ := decodeRuntimeId_eq_some_iff.mp ha
  rw [decodeRuntimeId_eq_some_iff]
  constructor
  · intro h
    obtain ⟨-, -, hlow'⟩ := h
    apply BitVec.eq_of_toNat_eq
    rw [hlow, hlow']
  · intro h
    exact ⟨hidx, hcode, by rw [h, hlow]⟩

/-- Rewritten templates that name the same instance and code are the same identifier. -/
theorem rewritten_eq_of_decode_eq {t t' : BitVec 32 × Nat} (ht : t ∈ templateIds)
    (ht' : t' ∈ templateIds) {idx idx' : Nat} (hidx : isValidInstance idx = true)
    (hidx' : isValidInstance idx' = true)
    (h : decodeRuntimeId (rewriteRuntimeId t.1 idx) =
      decodeRuntimeId (rewriteRuntimeId t'.1 idx')) :
    rewriteRuntimeId t.1 idx = rewriteRuntimeId t'.1 idx' := by
  rw [decode_rewriteRuntimeId ht hidx, decode_rewriteRuntimeId ht' hidx', Option.some.injEq,
    Prod.mk.injEq] at h
  obtain ⟨hid, hcode⟩ := msgCodeFromProtoId_template ht
  obtain ⟨hid', hcode'⟩ := msgCodeFromProtoId_template ht'
  rw [rewriteRuntimeId_of_code hidx hid hcode, rewriteRuntimeId_of_code hidx' hid' hcode', h.1,
    h.2]

theorem template_of_find {id29 : BitVec 32} {t : BitVec 32 × Nat}
    (h : templateIds.find? (fun p => p.1 == id29) = some t) : t ∈ templateIds ∧ t.1 = id29 := by
  have hbeq := List.find?_some h
  exact ⟨List.mem_of_find?_eq_some h, beq_iff_eq.mp hbeq⟩

/-- A code is found for the templates and for what decodes. -/
theorem msgCodeFromProtoId_ne_zero_iff (id29 : BitVec 32) :
    msgCodeFromProtoId id29 ≠ 0 ↔
      clean29 id29 ∈ templateIds.map Prod.fst ∨ ∃ p, decodeRuntimeId id29 = some p := by
  simp only [msgCodeFromProtoId]
  cases hf : templateIds.find? (fun p => p.1 == clean29 id29) with
  | some t =>
    obtain ⟨ht, hid⟩ := template_of_find hf
    refine iff_of_true ?_ (Or.inl ?_)
    · have hcode := (msgCodeFromProtoId_template ht).2
      show t.2 ≠ 0
      omega
    · rw [← hid]
      exact List.mem_map_of_mem ht
  | none =>
    have hnot : clean29 id29 ∉ templateIds.map Prod.fst := by
      intro hmem
      obtain ⟨t, ht, hid⟩ := List.mem_map.mp hmem
      exact absurd (beq_iff_eq.mpr hid) (List.find?_eq_none.mp hf t ht)
    rw [or_iff_right hnot, decodeRuntimeId_clean29]
    cases hd : decodeRuntimeId id29 with
    | none => exact iff_of_false (fun h => h rfl) fun h => by obtain ⟨p, hp⟩ := h; cases hp
    | some p =>
      have hcode := (decodeRuntimeId_eq_some_iff.mp hd).2.1
      refine iff_of_true ?_ ⟨p, rfl⟩
      show p.2 ≠ 0
      omega

/-- The code of an identifier that decodes is the one that it decodes to. -/
theorem msgCodeFromProtoId_of_decode {id29 : BitVec 32} {idx code : Nat}
    (h : decodeRuntimeId id29 = some (idx, code)) : msgCodeFromProtoId id29 = code := by
  simp only [msgCodeFromProtoId]
  cases hf : templateIds.find? (fun p => p.1 == clean29 id29) with
  | some t =>
    -- one table identifier, the extinguisher's, is also one of the first battery
    obtain ⟨ht, hid⟩ := template_of_find hf
    have hall : ∀ t ∈ templateIds, ∀ p ∈ decodeRuntimeId t.1, p.2 = t.2 := by decide
    have hdecode : decodeRuntimeId t.1 = some (idx, code) := by
      rw [hid, decodeRuntimeId_clean29, h]
    exact (hall t ht _ hdecode).symm
  | none =>
    rw [decodeRuntimeId_clean29, h]

end FrameRouter

namespace TableRuntime

open FrameRouter

theorem message_of_find {id29 : BitVec 32} {m : MessageDef}
    (h : findTableMessage id29 = some m) : m ∈ kMessages ∧ m.id = id29 := by
  rw [findTableMessage] at h
  have hbeq := List.find?_some h
  exact ⟨List.mem_of_find?_eq_some h, beq_iff_eq.mp hbeq⟩

/-- Every message is found under the code of the identifier. -/
theorem findMessage_eq (id29 : BitVec 32) :
    findMessage id29 = findTableMessage (protoIdFromMsgCode (msgCodeFromProtoId id29)) := by
  have hmask : id29 &&& 0x1FFFFFFF#32 = clean29 id29 := rfl
  rw [findMessage, hmask]
  cases hf : findTableMessage (clean29 id29) with
  | some m =>
    obtain ⟨hm, hid⟩ := message_of_find hf
    have hall : ∀ m ∈ kMessages, protoIdFromMsgCode (msgCodeFromProtoId m.id) = m.id := by
      decide
    rw [← msgCodeFromProtoId_clean29, ← hid, hall m hm, hid, hf]
  | none =>
    show (if normalizeToProtoId id29 = clean29 id29 then none
      else findTableMessage (normalizeToProtoId id29)) = _
    rw [normalizeToProtoId, msgCodeFromProtoId_clean29]
    by_cases hproto : protoIdFromMsgCode (msgCodeFromProtoId id29) ≠ 0#32
    · rw [if_pos hproto]
      by_cases hclean : protoIdFromMsgCode (msgCodeFromProtoId id29) = clean29 id29
      · rw [if_pos hclean, hclean, hf]
      · rw [if_neg hclean]
    · rw [if_neg hproto, if_pos rfl, not_not.mp hproto]
      decide

theorem findTableMessage_isSome_iff (code : Nat) :
    (findTableMessage (protoIdFromMsgCode code)).isSome = true ↔ 1 ≤ code ∧ code ≤ 15 := by
  by_cases hproto : protoIdFromMsgCode code = 0#32
  · have hcode := mt (protoIdFromMsgCode_ne_zero_iff code).mpr (not_not.mpr hproto)
    rw [hproto]
    exact iff_of_false (by decide) hcode
  · have hcode := (protoIdFromMsgCode_ne_zero_iff code).mp hproto
    have hall : ∀ code < 16, 1 ≤ code →
        (findTableMessage (protoIdFromMsgCode code)).isSome = true := by
      decide
    exact iff_of_true (hall code (by omega) hcode.1) hcode

theorem findMessage_isSome_iff (id : BitVec 29) :
    (findMessage (id.setWidth 32)).isSome = true ↔
      id.setWidth 32 ∈ templateIds.map Prod.fst ∨
        ∃ p, decodeRuntimeId (id.setWidth 32) = some p := by
  have hiff := msgCodeFromProtoId_ne_zero_iff (id.setWidth 32)
  rw [clean29_setWidth] at hiff
  rw [findMessage_eq, findTableMessage_isSome_iff, ← hiff]
  have hrange := msgCodeFromProtoId_range (id.setWidth 32)
  omega

/-- A message is found for the templates and for the identifiers whose low twelve bits are an
instance and a code.  Rewriting what such an identifier decodes to sets the high bits of the
template, so it gives back the identifiers that have them, and among those no two name the
same message and instance. -/
theorem runtime_ids (id : BitVec 29) (idx : Nat) :
    ((findMessage (id.setWidth 32)).isSome = true ↔
        id.setWidth 32 ∈ templateIds.map Prod.fst ∨
          ∃ p, decodeRuntimeId (id.setWidth 32) = some p) ∧
      (∀ i code, decodeRuntimeId (id.setWidth 32) = some (i, code) ↔
        isValidInstance i = true ∧ (1 ≤ code ∧ code ≤ 15) ∧
          (low12 (id.setWidth 32)).toNat = 256 * i + code) ∧
      (∀ i code, decodeRuntimeId (id.setWidth 32) = some (i, code) →
        findMessage (id.setWidth 32) = findTableMessage (protoIdFromMsgCode code) ∧
          rewriteRuntimeId (protoIdFromMsgCode code) i =
            high20 (protoIdFromMsgCode code) ||| low12 (id.setWidth 32) ∧
          (rewriteRuntimeId (protoIdFromMsgCode code) i = id.setWidth 32 ↔
            high20 (id.setWidth 32) = high20 (protoIdFromMsgCode code))) ∧
      (∀ p, decodeRuntimeId (id.setWidth 32) = some p → ∀ id' : BitVec 29,
        decodeRuntimeId (id'.setWidth 32) = some p ↔
          low12 (id'.setWidth 32) = low12 (id.setWidth 32)) ∧
      (¬ isValidInstance idx = true → rewriteRuntimeId (id.setWidth 32) idx = id.setWidth 32) ∧
      (isValidInstance idx = true → ∀ t ∈ templateIds,
        decodeRuntimeId (rewriteRuntimeId t.1 idx) = some (idx, t.2) ∧
          ∀ t' ∈ templateIds, ∀ idx', isValidInstance idx' = true →
            decodeRuntimeId (rewriteRuntimeId t.1 idx) =
              decodeRuntimeId (rewriteRuntimeId t'.1 idx') →
            rewriteRuntimeId t.1 idx = rewriteRuntimeId t'.1 idx') := by
  refine ⟨findMessage_isSome_iff id, fun i code => decodeRuntimeId_eq_some_iff, ?_, ?_, ?_, ?_⟩
  · intro i code h
    refine ⟨?_, rewrite_decoded h, rewrite_decoded_eq_iff h⟩
    rw [findMessage_eq, msgCodeFromProtoId_of_decode h]
  · intro p h id'
    exact decode_eq_iff h
  · intro h
    exact rewriteRuntimeId_of_not_valid h id
  · intro hidx t ht
    refine ⟨decode_rewriteRuntimeId ht hidx, ?_⟩
    intro t' ht' idx' hidx' h
    exact rewritten_eq_of_decode_eq ht ht' hidx hidx' h

/-- An identifier of the second message of the first battery. -/
theorem runtime_ids_first_battery :
    rewriteRuntimeId (protoIdFromMsgCode 0x02) 1 = (0x1881E102#29).setWidth 32 := by
  obtain ⟨-, -, hdecoded, -⟩ := runtime_ids 0x1881E102#29 1
  obtain ⟨-, -, hback⟩ := hdecoded 1 0x02 (by decide)
  exact hback.mpr (by decide)

/-- An identifier with nothing in its high bits is taken for that message: it is neither a
template nor a rewritten one, rewriting does not give it back, and it names the same message
and instance as the identifier of the battery. -/
theorem foreign_id_found :
    let id := (0x00000102#29).setWidth 32
    let own := (0x1881E102#29).setWidth 32
    (findMessage id).isSome = true ∧
      (∀ m ∈ kMessages, id ≠ m.id ∧
        ∀ idx, isValidInstance idx = true → id ≠ rewriteRuntimeId m.id idx) ∧
      (∀ p ∈ decodeRuntimeId id, rewriteRuntimeId (protoIdFromMsgCode p.2) p.1 ≠ id) ∧
      decodeRuntimeId id = some (1, 0x02) ∧ decodeRuntimeId own = some (1, 0x02) ∧ id ≠ own := by
  refine ⟨by decide, ?_, by decide +kernel, by decide +kernel, by decide +kernel,
    by decide⟩
  intro m hm
  have hall : ∀ m ∈ kMessages, (0x00000102#29).setWidth 32 ≠ m.id ∧ ∀ idx < 5,
      (0x00000102#29).setWidth 32 ≠ rewriteRuntimeId m.id idx := by
    decide
  refine ⟨(hall m hm).1, ?_⟩
  intro idx hidx
  exact (hall m hm).2 idx (by have hle := ((isValidInstance_iff idx).mp hidx).2; omega)

end TableRuntime
end Bms
end EnergyStorage
