import EnergyStorage.Logic.UpsInput
import EnergyStorage.Protocol.Ups232

/-! # From the lines of the UPS to its record

The UPS answers in text; the record is filled from the data that are read off the text.  What the
record shows after a run of lines is what the latest line of each kind has stated. -/

namespace EnergyStorage
namespace Logic

open Ups232AsciiProto
open Lib.Strtod (Scanned)

/-! ### What the lines state -/

def q1Word : UpsWords → Option (BitVec 32)
  | .q1 bits => some (bits.setWidth 32)
  | .wa _ | .q6 _ _ _ => none

def waWord : UpsWords → Option (BitVec 32)
  | .wa bits => some (bits.setWidth 32)
  | .q1 _ | .q6 _ _ _ => none

/-- The mode, the faults and the warnings. -/
def q6Words : UpsWords → Option (Int × BitVec 32 × BitVec 32)
  | .q6 mode faults warnings => some (mode, faults, warnings)
  | .q1 _ | .wa _ => none

/-- What the latest answer of a kind states, or what there is before the first one. -/
def latest {α : Type} (read : UpsWords → Option α) (first : α) (ws : List UpsWords) : α :=
  ((ws.filterMap read).getLast?).getD first

/-- A run of lines as they come in, with what the UPS has stated in them; a damaged line is one
that the protocol refuses. -/
inductive Transcript (double : Bool × Scanned → ℚ) : List (List Byte × Nat) → List UpsWords → Prop
  | nil : Transcript double [] []
  | line {rs : List (List Byte × Nat)} {ws : List UpsWords} {rx : List Byte} {t : List String}
      {w : UpsWords} (h : Transcript double rs ws) (ts : Nat)
      (hline : Ups232AsciiProto.toString rx = lineOf t) (hwords : ∀ tok ∈ t, IsWord tok)
      (hstates : States t w) :
      Transcript double (rs ++ [(rx, ts)]) (ws ++ [w])
  | damaged {rs : List (List Byte × Nat)} {ws : List UpsWords} {rx : List Byte}
      (h : Transcript double rs ws) (ts : Nat) (hrefused : parse double rx = none) :
      Transcript double (rs ++ [(rx, ts)]) ws

/-- The messages for the lines. -/
def received (double : Bool × Scanned → ℚ) (rs : List (List Byte × Nat)) :
    List (DeviceData × Nat) :=
  rs.filterMap fun r => (parse double r.1).map fun d => (d, r.2)

/-- The fault flags of the UPS, by their codes from 1 on. -/
def faultFlags (u : UpsRecord) : List Bool :=
  (Fault.upsFlags.drop 37).map fun f => f.2 u.toUpsFaultState

/-- Whether a code is in one of the four bytes of the fault word. -/
def hasCode (faults : BitVec 32) (code : Int) : Bool :=
  decide (faultCode faults 24 = code ∨ faultCode faults 16 = code ∨ faultCode faults 8 = code ∨
    faultCode faults 0 = code)

/-- The record shows the words that have been stated last, and the faults whose codes are in
them. -/
structure Shows (ws : List UpsWords) (u : UpsRecord) : Prop where
  q1 : u.q1StatusBits = latest q1Word 0 ws
  wa : u.waStatusBits = latest waWord 0 ws
  mode : u.workMode = (latest q6Words (0, 0, 0) ws).1
  faults : u.faultBits = (latest q6Words (0, 0, 0) ws).2.1
  warnings : u.warningBits = (latest q6Words (0, 0, 0) ws).2.2
  code1 : u.faultCode1 = faultCode (latest q6Words (0, 0, 0) ws).2.1 24
  code2 : u.faultCode2 = faultCode (latest q6Words (0, 0, 0) ws).2.1 16
  code3 : u.faultCode3 = faultCode (latest q6Words (0, 0, 0) ws).2.1 8
  code4 : u.faultCode4 = faultCode (latest q6Words (0, 0, 0) ws).2.1 0
  flags : faultFlags u =
    (List.range 60).map fun n => hasCode (latest q6Words (0, 0, 0) ws).2.1 (n + 1 : Nat)

/-! ### A line -/

theorem latest_snoc {α : Type} (read : UpsWords → Option α) (first : α) (ws : List UpsWords)
    (w : UpsWords) : latest read first (ws ++ [w]) = (read w).getD (latest read first ws) := by
  rw [latest, List.filterMap_append]
  cases hw : read w with
  | none => rw [List.filterMap_cons_none hw, List.filterMap_nil, List.append_nil]; rfl
  | some a => rw [List.filterMap_cons_some hw, List.filterMap_nil, List.getLast?_concat]; rfl

theorem upsCmd_eq {d : DeviceData} {c : Int} (h : d.value.get "__ups_cmd" = some c) :
    upsCmd d = c := by
  rw [upsCmd, h]
  rfl

theorem statusU32_eq {d : DeviceData} {key : String} {w : BitVec 32}
    (h : d.status.get key = some w.toNat) : statusU32 d key = w := by
  rw [statusU32, h, Option.getD_some, BitVec.ofNat_toNat, BitVec.setWidth_eq]

theorem valueI32_eq {d : DeviceData} {key : String} {v : Int} (h : d.value.get key = some v)
    (defv : Int) : valueI32 d key defv = v := by
  rw [valueI32, h, Option.getD_some]

theorem Shows.step {ws : List UpsWords} {u : UpsRecord} (h : Shows ws u) {d : DeviceData}
    {w : UpsWords} (hd : HasWords d w) (ts : Nat) : Shows (ws ++ [w]) (onUpsData d ts u) := by
  cases w with
  | q1 bits =>
    obtain ⟨hcmd, hbits⟩ := hd
    have hkind : upsCmd d = 1 := upsCmd_eq hcmd
    rw [onUpsData, applyUpsCmd, if_pos hkind, onUpsQ1, statusU32_eq hbits]
    constructor <;> rw [latest_snoc]
    · rfl
    · exact h.wa
    · exact h.mode
    · exact h.faults
    · exact h.warnings
    · exact h.code1
    · exact h.code2
    · exact h.code3
    · exact h.code4
    · exact h.flags
  | wa bits =>
    obtain ⟨hcmd, hbits⟩ := hd
    have hkind : upsCmd d = 3 := upsCmd_eq hcmd
    rw [onUpsData, applyUpsCmd, if_neg (by omega), if_neg (by omega), if_pos hkind, onUpsWa,
      statusU32_eq hbits]
    constructor <;> rw [latest_snoc]
    · exact h.q1
    · rfl
    · exact h.mode
    · exact h.faults
    · exact h.warnings
    · exact h.code1
    · exact h.code2
    · exact h.code3
    · exact h.code4
    · exact h.flags
  | q6 mode faults warnings =>
    obtain ⟨hcmd, hdata⟩ := hd
    have hkind : upsCmd d = 2 := upsCmd_eq hcmd
    rw [onUpsData, applyUpsCmd, if_neg (by omega), if_pos hkind, onUpsQ6,
      statusU32_eq hdata.faultBits, statusU32_eq hdata.warningBits, valueI32_eq hdata.mode,
      valueI32_eq hdata.code1, valueI32_eq hdata.code2, valueI32_eq hdata.code3,
      valueI32_eq hdata.code4]
    constructor <;> rw [latest_snoc]
    · exact h.q1
    · exact h.wa
    · rfl
    · rfl
    · rfl
    · rfl
    · rfl
    · rfl
    · rfl
    · rfl

/-! ### A run of lines -/

/-- Whatever lines come in, and whatever is damaged in between, the record shows the words and the
fault codes that the UPS has stated last. -/
theorem ups_words_shown {double : Bool × Scanned → ℚ} {rs : List (List Byte × Nat)}
    {ws : List UpsWords} (h : Transcript double rs ws) :
    Shows ws (upsAfter (received double rs)) := by
  induction h with
  | nil => constructor <;> rfl
  | @line rs ws rx t w _ ts hline hwords hstates ih =>
    obtain ⟨d, hd, hdata⟩ := parse_of_states double hline hwords hstates
    have hreceived : received double (rs ++ [(rx, ts)]) = received double rs ++ [(d, ts)] := by
      rw [received, List.filterMap_append, List.filterMap_cons, hd]
      rfl
    rw [hreceived, upsAfter_snoc]
    exact ih.step hdata ts
  | @damaged rs ws rx _ ts hrefused ih =>
    have hreceived : received double (rs ++ [(rx, ts)]) = received double rs := by
      rw [received, List.filterMap_append, List.filterMap_cons, hrefused]
      exact List.append_nil _
    rw [hreceived]
    exact ih

/-- The tokens of a `Q6` without measurements, with fault 1 in the third byte and the mains
abnormal. -/
def softstartTokens : List String :=
  List.replicate 14 "---.-" ++ ["----", "---", "30", "00000100", "00000008", "01"]

def softstartLine : List Byte := (lineOf softstartTokens).map fun c => BitVec.ofNat 8 c.toNat

theorem states_softstart : States softstartTokens (.q6 3 0x100 0x8) := by
  have hdashes : ∀ i < 14, isDashDouble (softstartTokens.getD i "") = true := by decide +kernel
  have hnone : ∀ i ∈ [14, 15], isDashInt (softstartTokens.getD i "") = true := by decide +kernel
  have hmode : (softstartTokens.getD 16 "").toList = ['3', '0'] := by decide +kernel
  exact .q6 (by decide) (fun i hi => Or.inr (hdashes i hi)) (fun i hi => Or.inr (hnone i hi)) hmode
    (by decide) (by decide) ⟨by decide +kernel, by decide +kernel⟩
    ⟨by decide +kernel, by decide +kernel⟩ (show twoFlags _ = some (false, true) by decide +kernel)

/-- The line, and a damaged one behind it. -/
theorem ups_words_shown_softstart :
    Shows [.q6 3 0x100 0x8] (upsAfter (received (fun _ => 0) [(softstartLine, 5), ([0x28], 6)])) ∧
      (upsAfter (received (fun _ => 0) [(softstartLine, 5), ([0x28], 6)])).faultCode3 = 1 := by
  have hwords : ∀ tok ∈ softstartTokens, IsWord tok := by
    have hall : ∀ tok ∈ softstartTokens, tok.toList ≠ [] ∧
        tok.toList.all (fun c => !Fault.isSpace c && c != ')') = true := by decide +kernel
    intro tok htok
    refine ⟨(hall tok htok).1, fun c hc => ?_⟩
    simpa using List.all_eq_true.mp (hall tok htok).2 c hc
  have hline : Ups232AsciiProto.toString softstartLine = lineOf softstartTokens := by
    decide +kernel
  have hcut : parse (fun _ => 0) [0x28] = none := by decide +kernel
  have h := ups_words_shown
    ((Transcript.nil.line 5 hline hwords states_softstart).damaged 6 hcut)
  exact ⟨h, h.code3.trans (by decide +kernel)⟩

end Logic
end EnergyStorage
