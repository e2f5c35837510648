import EnergyStorage.Bms.TableRuntime
import EnergyStorage.Protocol.DeviceData

/-! # Parsing a BMS frame

The parser looks the message up in the table and writes every signal under a full
key `bms.<message>.<signal>` and under its bare name. -/

namespace EnergyStorage
namespace Bms
namespace BmsProto

open TableRuntime FrameRouter
open Lib (Dict)

def extractBitsLsb (data : BitVec 64) (startLsb len : Nat) : BitVec 64 :=
  if len = 0 ∨ 64 ≤ startLsb then 0#64
  else
    let len := if startLsb + len > 64 then 64 - startLsb else len
    let mask := if len = 64 then ~~~0#64 else (1#64 <<< len) - 1#64
    (data >>> startLsb) &&& mask

def hexDigit (n : Nat) : Char := (Nat.digitChar n).toUpper

/-- `n` in upper-case hexadecimal, padded to `width` digits. -/
def hex (width n : Nat) : String :=
  String.ofList (((List.range width).map fun i => hexDigit (n / 16 ^ i % 16)).reverse)

def bytesToHex (fr : CanFrame) : String :=
  " ".intercalate ((List.range fr.canDlc).map fun i => hex 2 (fr.byte i))

def msgPrefix (msgName : String) : String := "bms" ++ "." ++ msgName ++ "."

def fullKey (msgName sigName : String) : String := msgPrefix msgName ++ sigName

/-- The text of an enumerated code, under both keys. -/
def storeText (out : DeviceData) (fullKey shortKey : String) (sig : SignalDef)
    (raw : BitVec 64) : DeviceData :=
  match enumText sig (raw.setWidth 32).toNat with
  | some txt => (out.setStr (fullKey ++ ".text") txt).setStr (shortKey ++ ".text") txt
  | none => out

/-- One turn of the signal loop. -/
def storeSignal (msgName : String) (data : BitVec 64) (out : DeviceData) (sig : SignalDef) :
    DeviceData :=
  if sig.name = "" then out
  else
    let full := fullKey msgName sig.name
    let short := sig.name
    let raw := extractBitsLsb data sig.startbitLsb sig.length
    if isBoolLikeSignal sig then
      let v := if raw ≠ 0#64 then 1 else 0
      storeText ((out.setValue full v).setValue short v) full short sig raw
    else if shouldParseAsPhysical sig then
      let phys := rawToPhys sig raw
      storeText ((out.setNum full phys).setNumNew short phys) full short sig raw
    else if isEnumLikeSignal sig then
      let v := (raw.setWidth 32).toInt
      storeText ((out.setValue full v).setValue short v) full short sig raw
    else
      let phys := rawToPhys sig raw
      (out.setNum full phys).setNumNew short phys

/-- What the parser writes before the signal loop. -/
def header (fr : CanFrame) (msg : MessageDef) : DeviceData :=
  let bmsIndex := extractInstanceIndex fr.id29
  let protoMsgName := if msg.name = "" then "UNKNOWN" else msg.name
  { deviceName := "BMS"
    value := ((Dict.empty.insert "__bms.instance_index" (bmsIndex : Int)).insert
      "__bms.id" (fr.id29.toInt)).insert "__bms.cycle_ms" msg.cycleMs
    str := ((((Dict.empty.insert "__bms.instance" (makeInstanceName bmsIndex)).insert
      "__bms.msg" (canonicalMsgName protoMsgName)).insert "__bms.proto_msg" protoMsgName).insert
      "__bms.id_hex" ("0x" ++ hex 8 fr.id29.toNat)).insert "__bms.raw_hex" (bytesToHex fr) }

/-- The parser on a frame of a known message. -/
def parseMessage (fr : CanFrame) (msg : MessageDef) : DeviceData :=
  let protoMsgName := if msg.name = "" then "UNKNOWN" else msg.name
  msg.signals.foldl (storeSignal (canonicalMsgName protoMsgName) fr.data) (header fr msg)

def parse (fr : CanFrame) : Option DeviceData :=
  if ¬ fr.isExtended then none
  else if fr.canDlc < 8 then none
  else (findMessage fr.id29).map (parseMessage fr)

/-! ### Keys -/

def firstByte (s : String) : Option UInt8 := s.toByteArray.data.toList.head?

theorem firstByte_append {s : String} {b : UInt8} (h : firstByte s = some b) (t : String) :
    firstByte (s ++ t) = some b := by
  rw [firstByte, String.toByteArray_append, ByteArray.data_append, Array.toList_append,
    List.head?_append, ← firstByte, h]
  rfl

def startsUpper (s : String) : Bool :=
  (firstByte s).any (fun b => decide (65 ≤ b.toNat) && decide (b.toNat ≤ 90))

theorem ne_of_startsUpper {s k : String} {b : UInt8} (hs : startsUpper s = true)
    (hk : firstByte k = some b) (hb : b.toNat < 65 ∨ 90 < b.toNat) : k ≠ s := by
  rintro rfl
  rw [startsUpper, hk] at hs
  simp only [Option.any_some, Bool.and_eq_true, decide_eq_true_eq] at hs
  omega

theorem startsUpper_append {s : String} (hs : startsUpper s = true) (t : String) :
    startsUpper (s ++ t) = true := by
  cases hb : firstByte s with
  | none => simp [startsUpper, hb] at hs
  | some b =>
    rw [startsUpper, firstByte_append hb, ← hb]
    exact hs

theorem firstByte_fullKey (m n : String) : firstByte (fullKey m n) = some 98 :=
  firstByte_append (firstByte_append (firstByte_append (firstByte_append rfl _) _) _) _

theorem fullKey_ne {s : String} (hs : startsUpper s = true) (m n : String) :
    fullKey m n ≠ s :=
  ne_of_startsUpper hs (firstByte_fullKey m n) (by decide)

theorem fullKey_inj {m n n' : String} : fullKey m n = fullKey m n' ↔ n = n' :=
  String.append_right_inj (msgPrefix m)

/-- Bare signal names and the parser's own keys never meet. -/
theorem signalNames_startsUpper :
    ∀ m ∈ kMessages, ∀ s ∈ m.signals, startsUpper s.name = true := by
  decide

/-! ### What the loop stores -/

def rawOf (data : BitVec 64) (sig : SignalDef) : BitVec 64 :=
  extractBitsLsb data sig.startbitLsb sig.length

/-- The enumeration value of a signal that is stored as one. -/
def storedValue (data : BitVec 64) (sig : SignalDef) : Option Int :=
  if isBoolLikeSignal sig then some (if rawOf data sig ≠ 0#64 then 1 else 0)
  else if shouldParseAsPhysical sig then none
  else if isEnumLikeSignal sig then some ((rawOf data sig).setWidth 32).toInt
  else none

/-- The quantity of a signal that is stored as one. -/
def storedNum (data : BitVec 64) (sig : SignalDef) : Option ℚ :=
  if isBoolLikeSignal sig then none
  else if shouldParseAsPhysical sig then some (rawToPhys sig (rawOf data sig))
  else if isEnumLikeSignal sig then none
  else some (rawToPhys sig (rawOf data sig))

section StoreText

variable (out : DeviceData) (full short : String) (sig : SignalDef) (raw : BitVec 64)

@[simp] theorem storeText_value : (storeText out full short sig raw).value = out.value := by
  rw [storeText]
  split <;> rfl

@[simp] theorem storeText_num : (storeText out full short sig raw).num = out.num := by
  rw [storeText]
  split <;> rfl

@[simp] theorem storeText_deviceName :
    (storeText out full short sig raw).deviceName = out.deviceName := by
  rw [storeText]
  split <;> rfl

@[simp] theorem storeText_status : (storeText out full short sig raw).status = out.status := by
  rw [storeText]
  split <;> rfl

theorem get_storeText_str {k : String} (hf : k ≠ full ++ ".text") (hs : k ≠ short ++ ".text") :
    (storeText out full short sig raw).str.get k = out.str.get k := by
  rw [storeText]
  split
  · rw [DeviceData.setStr_str, Dict.get_insert_of_ne _ hs, DeviceData.setStr_str,
      Dict.get_insert_of_ne _ hf]
  · rfl

end StoreText

theorem ne_empty_of_startsUpper {s : String} (hs : startsUpper s = true) : s ≠ "" := by
  rintro rfl
  exact absurd hs (by decide)

variable {m : String} {data : BitVec 64} {out : DeviceData} {sig : SignalDef}

theorem storeSignal_value (hs : startsUpper sig.name = true) (n : String) :
    (storeSignal m data out sig).value.get (fullKey m n) =
      (if sig.name = n then storedValue data sig else none).or
        (out.value.get (fullKey m n)) := by
  have hshort : fullKey m n ≠ sig.name := fullKey_ne hs m n
  have hfull : fullKey m n = fullKey m sig.name ↔ sig.name = n := fullKey_inj.trans eq_comm
  rw [storeSignal, if_neg (ne_empty_of_startsUpper hs)]
  by_cases hb : isBoolLikeSignal sig = true
  · simp only [hb, if_true, storeText_value, DeviceData.setValue_value,
      Dict.get_insert_of_ne _ hshort, Dict.get_insert, hfull, storedValue, rawOf]
    split <;> rfl
  · by_cases hp : shouldParseAsPhysical sig = true
    · simp [hb, hp, storedValue]
    · by_cases he : isEnumLikeSignal sig = true
      · simp only [hb, hp, he, if_true, if_false, Bool.false_eq_true, storeText_value,
          DeviceData.setValue_value, Dict.get_insert_of_ne _ hshort, Dict.get_insert, hfull,
          storedValue, rawOf]
        split <;> rfl
      · simp [hb, hp, he, storedValue]

theorem storeSignal_num (hs : startsUpper sig.name = true) (n : String) :
    (storeSignal m data out sig).num.get (fullKey m n) =
      (if sig.name = n then storedNum data sig else none).or (out.num.get (fullKey m n)) := by
  have hshort : fullKey m n ≠ sig.name := fullKey_ne hs m n
  have hfull : fullKey m n = fullKey m sig.name ↔ sig.name = n := fullKey_inj.trans eq_comm
  rw [storeSignal, if_neg (ne_empty_of_startsUpper hs)]
  by_cases hb : isBoolLikeSignal sig = true
  · simp [hb, storedNum]
  · by_cases hp : shouldParseAsPhysical sig = true
    · simp only [hb, hp, if_true, if_false, Bool.false_eq_true, storeText_num,
        DeviceData.setNumNew_num, DeviceData.setNum_num, Dict.get_insertNew_of_ne _ hshort,
        Dict.get_insert, hfull, storedNum, rawOf]
      split <;> rfl
    · by_cases he : isEnumLikeSignal sig = true
      · simp [hb, hp, he, storedNum]
      · simp only [hb, hp, he, if_false, Bool.false_eq_true,
          DeviceData.setNumNew_num, DeviceData.setNum_num, Dict.get_insertNew_of_ne _ hshort,
          Dict.get_insert, hfull, storedNum, rawOf]
        split <;> rfl

/-- A key of the parser's own is left alone by the loop. -/
theorem storeSignal_own_key (hs : startsUpper sig.name = true) {k : String}
    (hk : firstByte k = some 95) :
    (storeSignal m data out sig).value.get k = out.value.get k ∧
      (storeSignal m data out sig).str.get k = out.str.get k := by
  have hshort : k ≠ sig.name := ne_of_startsUpper hs hk (by decide)
  have htext : k ≠ sig.name ++ ".text" :=
    ne_of_startsUpper (startsUpper_append hs _) hk (by decide)
  have hne : ∀ {k' : String}, firstByte k' = some 98 → k ≠ k' := by
    rintro k' hk' rfl
    rw [hk] at hk'
    exact absurd hk' (by decide)
  have hfull := hne (firstByte_fullKey m sig.name)
  have hfullText := hne (firstByte_append (firstByte_fullKey m sig.name) ".text")
  rw [storeSignal, if_neg (ne_empty_of_startsUpper hs)]
  by_cases hb : isBoolLikeSignal sig = true
  · simp only [hb, if_true, storeText_value, DeviceData.setValue_value,
      Dict.get_insert_of_ne _ hshort, Dict.get_insert_of_ne _ hfull,
      get_storeText_str _ _ _ _ _ hfullText htext, DeviceData.setValue_str, and_self]
  · by_cases hp : shouldParseAsPhysical sig = true
    · simp only [hb, hp, if_true, if_false, Bool.false_eq_true, storeText_value,
        DeviceData.setNumNew_value, DeviceData.setNum_value, DeviceData.setNumNew_str,
        get_storeText_str _ _ _ _ _ hfullText htext, DeviceData.setNum_str, and_self]
    · by_cases he : isEnumLikeSignal sig = true
      · simp only [hb, hp, he, if_true, if_false, Bool.false_eq_true, storeText_value,
          DeviceData.setValue_value, Dict.get_insert_of_ne _ hshort,
          Dict.get_insert_of_ne _ hfull, get_storeText_str _ _ _ _ _ hfullText htext,
          DeviceData.setValue_str, and_self]
      · simp [hb, hp, he]

theorem storeSignal_rest (m : String) (data : BitVec 64) (out : DeviceData) (sig : SignalDef) :
    (storeSignal m data out sig).deviceName = out.deviceName ∧
      (storeSignal m data out sig).status = out.status := by
  simp only [storeSignal]
  repeat' split
  all_goals simp

/-! ### What a parsed frame holds -/

theorem parse_eq_some_iff {fr : CanFrame} {d : DeviceData} :
    parse fr = some d ↔ fr.isExtended = true ∧ 8 ≤ fr.canDlc ∧
      ∃ msg, findMessage fr.id29 = some msg ∧ parseMessage fr msg = d := by
  rw [parse]
  by_cases hx : fr.isExtended = true
  · by_cases hd : fr.canDlc < 8
    · simp [hx, hd, Nat.not_le.mpr hd]
    · simp [hx, hd, Nat.le_of_not_lt hd]
  · simp [hx]

theorem findTableMessage_mem {id : BitVec 32} {msg : MessageDef}
    (h : findTableMessage id = some msg) : msg ∈ kMessages :=
  List.mem_of_find?_eq_some h

theorem findMessage_mem {id : BitVec 32} {msg : MessageDef} (h : findMessage id = some msg) :
    msg ∈ kMessages := by
  simp only [findMessage] at h
  split at h
  next m hm =>
    cases h
    exact findTableMessage_mem hm
  next =>
    split at h
    · cases h
    · exact findTableMessage_mem h

theorem kMessages_name_ne : ∀ m ∈ kMessages, m.name ≠ "" := by
  decide

/-- The last of the signals of this name that `f` has a value for. -/
def lastNamed {α : Type} (msg : MessageDef) (n : String) (f : SignalDef → Option α) : Option α :=
  msg.signals.reverse.findSome? (fun s => if s.name = n then f s else none)

section ParseMessage

variable {msg : MessageDef} (hmsg : msg ∈ kMessages) (fr : CanFrame)

include hmsg

theorem parseMessage_value (n : String) :
    (parseMessage fr msg).value.get (fullKey (canonicalMsgName msg.name) n) =
      lastNamed msg n (storedValue fr.data) := by
  have hkey : (header fr msg).value.get (fullKey (canonicalMsgName msg.name) n) = none := by
    have hne : ∀ {k : String}, firstByte k = some 95 →
        fullKey (canonicalMsgName msg.name) n ≠ k := by
      rintro k hk rfl
      rw [firstByte_fullKey] at hk
      exact absurd hk (by decide)
    simp only [header]
    rw [Dict.get_insert_of_ne _ (hne rfl), Dict.get_insert_of_ne _ (hne rfl),
      Dict.get_insert_of_ne _ (hne rfl), Dict.get_empty]
  simp only [parseMessage, if_neg (kMessages_name_ne msg hmsg)]
  rw [Lib.observe_foldl
    (fun d : DeviceData => d.value.get (fullKey (canonicalMsgName msg.name) n)) _ _
    (fun d s hs => storeSignal_value (signalNames_startsUpper msg hmsg s hs) n), hkey,
    Option.or_none]
  rfl

theorem parseMessage_num (n : String) :
    (parseMessage fr msg).num.get (fullKey (canonicalMsgName msg.name) n) =
      lastNamed msg n (storedNum fr.data) := by
  simp only [parseMessage, if_neg (kMessages_name_ne msg hmsg)]
  rw [Lib.observe_foldl
    (fun d : DeviceData => d.num.get (fullKey (canonicalMsgName msg.name) n)) _ _
    (fun d s hs => storeSignal_num (signalNames_startsUpper msg hmsg s hs) n)]
  exact Option.or_none

theorem parseMessage_own_key {k : String} (hk : firstByte k = some 95) :
    (parseMessage fr msg).value.get k = (header fr msg).value.get k ∧
      (parseMessage fr msg).str.get k = (header fr msg).str.get k := by
  simp only [parseMessage]
  generalize header fr msg = d
  generalize canonicalMsgName (if msg.name = "" then "UNKNOWN" else msg.name) = name
  have hnames := signalNames_startsUpper msg hmsg
  revert hnames
  induction msg.signals generalizing d with
  | nil => exact fun _ => ⟨rfl, rfl⟩
  | cons s l ih =>
    intro hnames
    have hstep : (storeSignal name fr.data d s).value.get k = d.value.get k ∧
        (storeSignal name fr.data d s).str.get k = d.str.get k :=
      storeSignal_own_key (hnames s List.mem_cons_self) hk
    have hrest := ih (storeSignal name fr.data d s)
      fun s' h' => hnames s' (List.mem_cons_of_mem s h')
    exact ⟨hrest.1.trans hstep.1, hrest.2.trans hstep.2⟩

omit hmsg in
theorem parseMessage_rest (fr : CanFrame) :
    (parseMessage fr msg).deviceName = "BMS" ∧ (parseMessage fr msg).status = Dict.empty := by
  simp only [parseMessage]
  have hstart : (header fr msg).deviceName = "BMS" ∧ (header fr msg).status = Dict.empty :=
    ⟨rfl, rfl⟩
  revert hstart
  generalize header fr msg = d
  induction msg.signals generalizing d with
  | nil => exact id
  | cons s l ih =>
    intro hd
    refine ih _ ?_
    rw [(storeSignal_rest _ _ _ _).1, (storeSignal_rest _ _ _ _).2]
    exact hd

end ParseMessage

end BmsProto
end Bms
end EnergyStorage
