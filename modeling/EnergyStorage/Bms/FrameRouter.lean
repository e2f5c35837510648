import EnergyStorage.Can.Frame

/-! # Runtime identifiers

Behind the CAN hub a frame of instance `i` with message code `c` keeps the high
bits of the template identifier and carries `i` and `c` in its low twelve bits. -/

namespace EnergyStorage
namespace Bms
namespace FrameRouter

def clean29 (id29 : BitVec 32) : BitVec 32 := id29 &&& 0x1FFFFFFF#32

def low12 (id29 : BitVec 32) : BitVec 32 := clean29 id29 &&& 0xFFF#32

def isValidInstance (idx : Nat) : Bool := decide (1 ≤ idx) && decide (idx ≤ 4)

def extractInstanceIndex (id29 : BitVec 32) : Nat :=
  let idx := ((low12 id29 >>> 8) &&& 0xF#32).toNat
  if isValidInstance idx then idx else 0

def extractMsgCode (id29 : BitVec 32) : Nat := (low12 id29 &&& 0xFF#32).toNat

def makeInstanceName (idx : Nat) : String :=
  if isValidInstance idx then "BMS_" ++ toString idx else "BMS_0"

/-- The identifier under which the generated table lists a message code; `0`
where there is none. -/
def protoIdFromMsgCode (msgCode : Nat) : BitVec 32 :=
  match msgCode with
  | 0x01 => 0x1802F3EF#32
  | 0x02 => 0x1881EFF3#32
  | 0x03 => 0x1882EFF3#32
  | 0x04 => 0x1883EFF3#32
  | 0x05 => 0x1884EFF3#32
  | 0x06 => 0x1885EFF3#32
  | 0x07 => 0x1886EFF3#32
  | 0x08 => 0x1887EFF3#32
  | 0x09 => 0x1888EFF3#32
  | 0x0A => 0x1889EFF3#32
  | 0x0B => 0x18C3EFF3#32
  | 0x0C => 0x18C4EFF3#32
  | 0x0D => 0x18FF45F4#32
  | 0x0E => 0x18FFC13A#32
  | 0x0F => 0x18FFF10F#32
  | _ => 0#32

/-- Instance and message code of a runtime identifier. -/
def decodeRuntimeId (runtimeId29 : BitVec 32) : Option (Nat × Nat) :=
  let instIdx := extractInstanceIndex runtimeId29
  let msgCode := extractMsgCode runtimeId29
  if ¬ isValidInstance instIdx then none
  else if protoIdFromMsgCode msgCode = 0#32 then none
  else some (instIdx, msgCode)

/-- The template and table identifiers.  The extinguisher is known under its
original identifier and under the one in the table. -/
def templateIds : List (BitVec 32 × Nat) :=
  [(0x1802F3EF#32, 0x01), (0x1881EFF3#32, 0x02), (0x1882EFF3#32, 0x03), (0x1883EFF3#32, 0x04),
    (0x1884EFF3#32, 0x05), (0x1885EFF3#32, 0x06), (0x1886EFF3#32, 0x07), (0x1887EFF3#32, 0x08),
    (0x1888EFF3#32, 0x09), (0x1889EFF3#32, 0x0A), (0x18C3EFF3#32, 0x0B), (0x18C4EFF3#32, 0x0C),
    (0x18FF45F4#32, 0x0D), (0x18FFC13A#32, 0x0E), (0x18FFF7F6#32, 0x0F), (0x18FFF10F#32, 0x0F)]

/-- The message code of a template, table or runtime identifier; `0` for an
identifier that is none of these. -/
def msgCodeFromProtoId (protoId29 : BitVec 32) : Nat :=
  let id := clean29 protoId29
  match templateIds.find? (fun p => p.1 == id) with
  | some (_, code) => code
  | none =>
    match decodeRuntimeId id with
    | some (_, code) => code
    | none => 0

def normalizeToProtoId (id29 : BitVec 32) : BitVec 32 :=
  let id := clean29 id29
  let protoId := protoIdFromMsgCode (msgCodeFromProtoId id)
  if protoId ≠ 0#32 then protoId else id

def rewriteRuntimeId (protoId29 : BitVec 32) (instanceIndex : Nat) : BitVec 32 :=
  let id := clean29 protoId29
  if ¬ isValidInstance instanceIndex then id
  else
    let msgCode := msgCodeFromProtoId id
    if msgCode = 0 then id
    else
      let tableId := protoIdFromMsgCode msgCode
      if tableId = 0#32 then id
      else
        let newLow12 := BitVec.ofNat 32 ((instanceIndex &&& 0xF) <<< 8 ||| (msgCode &&& 0xFF))
        (tableId &&& ~~~0xFFF#32) ||| newLow12

theorem isValidInstance_iff (idx : Nat) : isValidInstance idx = true ↔ 1 ≤ idx ∧ idx ≤ 4 := by
  simp [isValidInstance]

/-- Induction over the four instances. -/
theorem valid_cases {P : Nat → Prop} (h1 : P 1) (h2 : P 2) (h3 : P 3) (h4 : P 4)
    {idx : Nat} (h : isValidInstance idx = true) : P idx := by
  obtain ⟨hlo, hhi⟩ := (isValidInstance_iff idx).mp h
  obtain rfl | rfl | rfl | rfl : idx = 1 ∨ idx = 2 ∨ idx = 3 ∨ idx = 4 := by omega
  · exact h1
  · exact h2
  · exact h3
  · exact h4

theorem extractInstanceIndex_le (id29 : BitVec 32) : extractInstanceIndex id29 ≤ 4 := by
  simp only [extractInstanceIndex]
  split
  next h => exact ((isValidInstance_iff _).mp h).2
  next => exact Nat.zero_le 4

@[simp] theorem clean29_clean29 (id29 : BitVec 32) : clean29 (clean29 id29) = clean29 id29 := by
  rw [clean29, clean29, BitVec.and_assoc, BitVec.and_self]

@[simp] theorem msgCodeFromProtoId_clean29 (id29 : BitVec 32) :
    msgCodeFromProtoId (clean29 id29) = msgCodeFromProtoId id29 := by
  simp only [msgCodeFromProtoId, clean29_clean29]

theorem protoIdFromMsgCode_ne_zero {code : Nat} (h : protoIdFromMsgCode code ≠ 0#32) :
    1 ≤ code ∧ code ≤ 15 := by
  unfold protoIdFromMsgCode at h
  split at h <;> first | omega | exact absurd rfl h

theorem decodeRuntimeId_range {id29 : BitVec 32} {idx code : Nat}
    (h : decodeRuntimeId id29 = some (idx, code)) : 1 ≤ code ∧ code ≤ 15 := by
  by_cases hv : isValidInstance (extractInstanceIndex id29) = true
  · by_cases hp : protoIdFromMsgCode (extractMsgCode id29) = 0#32
    · simp [decodeRuntimeId, hp] at h
    · simp only [decodeRuntimeId, hv, hp, not_true, if_false, Option.some.injEq,
        Prod.mk.injEq] at h
      rw [← h.2]
      exact protoIdFromMsgCode_ne_zero hp
  · simp [decodeRuntimeId, hv] at h

/-- A code the router finds is one of the fifteen it can translate back. -/
theorem msgCodeFromProtoId_range (id29 : BitVec 32) :
    msgCodeFromProtoId id29 = 0 ∨
      (1 ≤ msgCodeFromProtoId id29 ∧ msgCodeFromProtoId id29 ≤ 15) := by
  simp only [msgCodeFromProtoId]
  cases hf : templateIds.find? (fun p => p.1 == clean29 id29) with
  | some p =>
    have hall : ∀ p ∈ templateIds, 1 ≤ p.2 ∧ p.2 ≤ 15 := by decide
    exact Or.inr (hall p (List.mem_of_find?_eq_some hf))
  | none =>
    cases hd : decodeRuntimeId (clean29 id29) with
    | none => exact Or.inl rfl
    | some p => exact Or.inr (decodeRuntimeId_range hd)

theorem protoIdFromMsgCode_pos {code : Nat} (h : 1 ≤ code ∧ code ≤ 15) :
    protoIdFromMsgCode code ≠ 0#32 := by
  have hall : ∀ code < 16, 1 ≤ code → protoIdFromMsgCode code ≠ 0#32 := by decide
  exact hall code (by omega) h.1

/-- Instance and code survive in the low twelve bits of every table identifier. -/
theorem extract_low12 {code idx : Nat} (hcode : 1 ≤ code ∧ code ≤ 15)
    (hidx : 1 ≤ idx ∧ idx ≤ 4) :
    let id := (protoIdFromMsgCode code &&& ~~~0xFFF#32) |||
      BitVec.ofNat 32 ((idx &&& 0xF) <<< 8 ||| (code &&& 0xFF))
    extractInstanceIndex id = idx ∧ extractMsgCode id = code := by
  have hall : ∀ code < 16, 1 ≤ code → ∀ idx < 5, 1 ≤ idx →
      extractInstanceIndex ((protoIdFromMsgCode code &&& ~~~0xFFF#32) |||
        BitVec.ofNat 32 ((idx &&& 0xF) <<< 8 ||| (code &&& 0xFF))) = idx ∧
      extractMsgCode ((protoIdFromMsgCode code &&& ~~~0xFFF#32) |||
        BitVec.ofNat 32 ((idx &&& 0xF) <<< 8 ||| (code &&& 0xFF))) = code := by
    decide
  exact hall code (by omega) hcode.1 idx (by omega) hidx.1

/-- For a known message the runtime identifier carries instance and code. -/
theorem extract_rewriteRuntimeId {id29 : BitVec 32} {idx : Nat}
    (hidx : isValidInstance idx = true) (hcode : msgCodeFromProtoId id29 ≠ 0) :
    extractInstanceIndex (rewriteRuntimeId id29 idx) = idx ∧
      extractMsgCode (rewriteRuntimeId id29 idx) = msgCodeFromProtoId id29 := by
  have hr := (msgCodeFromProtoId_range id29).resolve_left hcode
  have hp := protoIdFromMsgCode_pos hr
  rw [rewriteRuntimeId, msgCodeFromProtoId_clean29, if_neg (not_not.mpr hidx), if_neg hcode]
  simp only [if_neg hp]
  exact extract_low12 hr ((isValidInstance_iff idx).mp hidx)

end FrameRouter
end Bms
end EnergyStorage
