import EnergyStorage.Fault.Tokens
import EnergyStorage.Lib.Numeral
import EnergyStorage.Maintain.Storage

/-! # Reading the maintenance settings back

A number of the document goes through wider types before its range is looked at, and is cut on
the way. -/

namespace EnergyStorage
namespace Maintain

open Lib (Json)
open Lib.Numeral

/-- A text as the C library takes it, from behind the leading blanks. -/
def unblanked (s : String) : String := String.ofList (s.toList.dropWhile Fault.isSpace)

namespace MaintainStorage

/-- A number below 0 is refused, a larger one cut to 32 bits. -/
def readU32 : Json → Option (BitVec 32)
  | .unsigned n => some (BitVec.ofNat 32 n)
  | .integer x => if x < 0 then none else some (BitVec.ofInt 32 x)
  | .string s => (strtoulAll (unblanked s)).map (BitVec.ofNat 32)
  | .null | .boolean _ | .float _ | .array _ | .object _ => none

def parseU32 (j : Json) (key : String) : Option (BitVec 32) := (j.find key).bind readU32

def narrow16 (tmp : BitVec 32) : Option (BitVec 16) :=
  if 0xFFFF < tmp then none else some (tmp.setWidth 16)

def parseU16 (j : Json) (key : String) : Option (BitVec 16) := (parseU32 j key).bind narrow16

/-- The number before its range is looked at. -/
def readI64 : Json → Option Int
  | .integer x => some x
  | .unsigned n => some (BitVec.ofNat 64 n).toInt
  | .string s => stollAll (unblanked s)
  | .null | .boolean _ | .float _ | .array _ | .object _ => none

def narrowI16 (x : Int) : Option (BitVec 16) :=
  if x < -32768 ∨ 32767 < x then none else some (BitVec.ofInt 16 x)

def parseI16 (j : Json) (key : String) : Option (BitVec 16) :=
  ((j.find key).bind readI64).bind narrowI16

/-- `parse` is the JSON parser, with the text of its error; `text` is what the file holds, or the
number and the text of the error of its opening. -/
def load (parse : List Char → Except String Json) (path : String)
    (text : Except String (List Char)) : Except String MaintainConfig :=
  match text with
  | .error errno => .error ("open failed: " ++ path ++ ", errno=" ++ errno)
  | .ok text =>
    match parse text with
    | .error what => .error ("json parse failed: " ++ what)
    | .ok j =>
      if !j.isObject then .error "maintain config root is not object"
      else
        let cfg : MaintainConfig := {}
        .ok
          { version := (parseU32 j "version").getD cfg.version
            password := (parseU32 j "password").getD cfg.password
            boxId := (parseU16 j "box_id").getD cfg.boxId
            upsShutdownTime := (parseU16 j "ups_shutdown_time").getD cfg.upsShutdownTime
            airconSetTemp := (parseI16 j "aircon_set_temp").getD cfg.airconSetTemp
            airconSetHumidity := (parseU16 j "aircon_set_humidity").getD cfg.airconSetHumidity }

/-! ### What the document states -/

/-- The integer that a number or the text of a number states. -/
def statedBy : Json → Option Int
  | .unsigned n => some n
  | .integer x => some x
  | .string s => stated (unblanked s).toList
  | .null | .boolean _ | .float _ | .array _ | .object _ => none

inductive ConfigField
  | version | password | boxId | upsShutdownTime | airconSetTemp | airconSetHumidity

def ConfigField.key : ConfigField → String
  | .version => "version"
  | .password => "password"
  | .boxId => "box_id"
  | .upsShutdownTime => "ups_shutdown_time"
  | .airconSetTemp => "aircon_set_temp"
  | .airconSetHumidity => "aircon_set_humidity"

/-- What `load` takes over for a field. -/
def ConfigField.taken (f : ConfigField) (j : Json) : Option Int :=
  match f with
  | .version | .password => (parseU32 j f.key).map fun v => (v.toNat : Int)
  | .boxId | .upsShutdownTime | .airconSetHumidity =>
    (parseU16 j f.key).map fun v => (v.toNat : Int)
  | .airconSetTemp => (parseI16 j f.key).map BitVec.toInt

/-- The integer that a field holds. -/
def ConfigField.value (f : ConfigField) (cfg : MaintainConfig) : Int :=
  match f with
  | .version => cfg.version.toNat
  | .password => cfg.password.toNat
  | .boxId => cfg.boxId.toNat
  | .upsShutdownTime => cfg.upsShutdownTime.toNat
  | .airconSetTemp => cfg.airconSetTemp.toInt
  | .airconSetHumidity => cfg.airconSetHumidity.toNat

/-- What is taken over is what the document states. -/
def TakesExactly (j : Json) : Prop :=
  ∀ (f : ConfigField) (z : Int), f.taken j = some z → (j.find f.key).bind statedBy = some z

/-- The stated integer is read at all as one of 32 bits. -/
def Read32 : Json → Int → Prop
  | .integer _, z => 0 ≤ z
  | .string _, z => z.natAbs < 2 ^ 64
  | _, _ => True

def FitsU32 (v : Json) : Prop :=
  ∀ z, statedBy v = some z → Read32 v z → 0 ≤ z ∧ z < 2 ^ 32

/-- What is still too large in 32 bits is refused. -/
def FitsU16 (v : Json) : Prop :=
  ∀ z, statedBy v = some z → Read32 v z → (0 ≤ z ∧ z ≤ 0xFFFF) ∨ 0xFFFF < z % 2 ^ 32

/-- Only a number without a sign is cut, to 64 bits. -/
def FitsI16 : Json → Prop
  | .unsigned n => n ≤ 32767 ∨
      (BitVec.ofNat 64 n).toInt < -32768 ∨ 32767 < (BitVec.ofNat 64 n).toInt
  | .null | .boolean _ | .integer _ | .float _ | .string _ | .array _ | .object _ => True

def ConfigField.Fits : ConfigField → Json → Prop
  | .version | .password => FitsU32
  | .boxId | .upsShutdownTime | .airconSetHumidity => FitsU16
  | .airconSetTemp => FitsI16

/-! ### What is taken over -/

section

variable {v : Json}

/-- What is read is the stated integer modulo `2 ^ 32`. -/
theorem readU32_eq_some_iff {w : BitVec 32} :
    readU32 v = some w ↔ ∃ z, statedBy v = some z ∧ Read32 v z ∧ z % 2 ^ 32 = w.toNat := by
  have hlt := w.isLt
  have hword : ∀ z : Int, BitVec.ofInt 32 z = w ↔ z % 2 ^ 32 = w.toNat := by
    intro z
    rw [BitVec.toNat_eq, BitVec.toNat_ofInt]
    omega
  have hnat : ∀ n : Nat, BitVec.ofNat 32 n = w ↔ (n : Int) % 2 ^ 32 = w.toNat := by
    intro n
    rw [BitVec.toNat_eq, BitVec.toNat_ofNat]
    omega
  cases v with
  | unsigned n => simp [readU32, statedBy, Read32, hnat]
  | integer x =>
    by_cases hx : x < 0
    · simp [readU32, statedBy, Read32, hx]
    · simp [readU32, statedBy, Read32, hx, hword, Int.not_lt.mp hx]
  | string s =>
    rw [readU32, statedBy, strtoulAll_eq]
    cases stated (unblanked s).toList with
    | none => simp
    | some z =>
      by_cases hz : z.natAbs < 2 ^ 64
      · simp only [Option.bind_some, if_pos hz, Option.map_some, Option.some.injEq, hnat, Read32]
        constructor
        · intro h
          exact ⟨z, rfl, hz, by omega⟩
        · rintro ⟨_, rfl, -, h⟩
          omega
      · simp only [Option.bind_some, if_neg hz, Option.map_none, Option.some.injEq, Read32]
        constructor
        · exact nofun
        · rintro ⟨_, rfl, h, -⟩
          exact absurd h hz
  | null => simp [readU32, statedBy]
  | boolean b => simp [readU32, statedBy]
  | float q => simp [readU32, statedBy]
  | array xs => simp [readU32, statedBy]
  | object fields => simp [readU32, statedBy]

theorem readU32_exact_iff :
    (∀ w, readU32 v = some w → statedBy v = some (w.toNat : Int)) ↔ FitsU32 v := by
  constructor
  · intro h z hz hread
    have hmod : z % 2 ^ 32 = (BitVec.ofInt 32 z).toNat := by
      rw [BitVec.toNat_ofInt]
      omega
    have hw := h _ (readU32_eq_some_iff.mpr ⟨z, hz, hread, hmod⟩)
    rw [hz, Option.some.injEq] at hw
    have hlt := (BitVec.ofInt 32 z).isLt
    omega
  · intro h w hw
    obtain ⟨z, hz, hread, hmod⟩ := readU32_eq_some_iff.mp hw
    obtain ⟨hpos, hlt⟩ := h z hz hread
    rw [hz, ← hmod, Int.emod_eq_of_lt hpos hlt]

theorem narrow16_eq_some_iff {tmp : BitVec 32} {w : BitVec 16} :
    narrow16 tmp = some w ↔ tmp.toNat = w.toNat := by
  have hlt := w.isLt
  have hlimit : (0xFFFF < tmp) ↔ 0xFFFF < tmp.toNat := BitVec.lt_def
  unfold narrow16
  simp only [hlimit]
  split
  · constructor
    · exact nofun
    · omega
  · rw [Option.some.injEq, BitVec.toNat_eq, BitVec.toNat_setWidth]
    omega

theorem narrowI16_eq_some_iff {x : Int} {w : BitVec 16} :
    narrowI16 x = some w ↔ x = w.toInt := by
  have hlow := BitVec.le_toInt w
  have hhigh := BitVec.toInt_lt (x := w)
  unfold narrowI16
  split
  · constructor
    · exact nofun
    · omega
  · rw [Option.some.injEq, ← BitVec.toInt_inj, BitVec.toInt_ofInt, Int.bmod_eq_of_le (by omega)
      (by omega)]

theorem readU16_exact_iff :
    (∀ w, (readU32 v).bind narrow16 = some w → statedBy v = some (w.toNat : Int)) ↔ FitsU16 v := by
  constructor
  · intro h z hz hread
    by_cases hlarge : 0xFFFF < z % 2 ^ 32
    · exact Or.inr hlarge
    left
    have hmod : z % 2 ^ 32 = (BitVec.ofInt 32 z).toNat := by
      rw [BitVec.toNat_ofInt]
      omega
    have hword : (BitVec.ofInt 32 z).toNat = (BitVec.ofInt 16 z).toNat := by
      rw [BitVec.toNat_ofInt, BitVec.toNat_ofInt]
      omega
    have hw := h (BitVec.ofInt 16 z) (by
      rw [readU32_eq_some_iff.mpr ⟨z, hz, hread, hmod⟩, Option.bind_some, narrow16_eq_some_iff,
        hword])
    rw [hz, Option.some.injEq] at hw
    have hlt := (BitVec.ofInt 16 z).isLt
    omega
  · intro h w hw
    obtain ⟨tmp, htmp, hnarrow⟩ := Option.bind_eq_some_iff.mp hw
    obtain ⟨z, hz, hread, hmod⟩ := readU32_eq_some_iff.mp htmp
    rw [narrow16_eq_some_iff.mp hnarrow] at hmod
    have hlt := w.isLt
    obtain ⟨hpos, hle⟩ | hlarge := h z hz hread
    · rw [hz, ← hmod, Int.emod_eq_of_lt hpos (by omega)]
    · omega

/-- Texts and numbers with a sign are not cut. -/
theorem readI16_exact_iff :
    (∀ w, (readI64 v).bind narrowI16 = some w → statedBy v = some w.toInt) ↔ FitsI16 v := by
  have hexact : readI64 v = statedBy v →
      ∀ w, (readI64 v).bind narrowI16 = some w → statedBy v = some w.toInt := by
    intro heq w hw
    obtain ⟨x, hx, hnarrow⟩ := Option.bind_eq_some_iff.mp hw
    rw [← heq, hx, narrowI16_eq_some_iff.mp hnarrow]
  cases v with
  | unsigned n =>
    have hlow := BitVec.le_toInt (BitVec.ofNat 64 n)
    have hsmall : n ≤ 32767 → (BitVec.ofNat 64 n).toInt = n := by
      intro hn
      have hmod : n % 2 ^ 64 = n := Nat.mod_eq_of_lt (by omega)
      rw [BitVec.toInt_eq_toNat_cond, BitVec.toNat_ofNat, hmod, if_pos (by omega)]
    constructor
    · intro h
      by_contra hnot
      simp only [FitsI16, not_or] at hnot
      obtain ⟨hlarge, hin⟩ := hnot
      have hw := h (BitVec.ofInt 16 (BitVec.ofNat 64 n).toInt) (by
        rw [readI64, Option.bind_some, narrowI16_eq_some_iff, BitVec.toInt_ofInt,
          Int.bmod_eq_of_le (by omega) (by omega)])
      have hlt := BitVec.toInt_lt (x := BitVec.ofInt 16 (BitVec.ofNat 64 n).toInt)
      rw [statedBy, Option.some.injEq] at hw
      omega
    · intro h w hw
      rw [readI64, Option.bind_some, narrowI16_eq_some_iff] at hw
      have hlo := BitVec.le_toInt w
      have hhi := BitVec.toInt_lt (x := w)
      obtain hn | hout := h
      · rw [statedBy, ← hw, hsmall hn]
      · omega
  | string s =>
    refine iff_of_true (fun w hw => ?_) trivial
    obtain ⟨x, hx, hnarrow⟩ := Option.bind_eq_some_iff.mp hw
    rw [readI64, stollAll] at hx
    rw [statedBy, (Option.filter_eq_some_iff.mp hx).1, narrowI16_eq_some_iff.mp hnarrow]
  | integer x => exact iff_of_true (hexact rfl) trivial
  | null => exact iff_of_true (hexact rfl) trivial
  | boolean b => exact iff_of_true (hexact rfl) trivial
  | float q => exact iff_of_true (hexact rfl) trivial
  | array xs => exact iff_of_true (hexact rfl) trivial
  | object fields => exact iff_of_true (hexact rfl) trivial

/-- A field of what is loaded has what is taken over for it, or else its default. -/
theorem load_fields {parse : List Char → Except String Json} {path : String} {text : List Char}
    {j : Json} (hparse : parse text = .ok j) (hobj : j.isObject = true) :
    ∃ cfg, load parse path (.ok text) = .ok cfg ∧
      ∀ f : ConfigField, f.value cfg = (f.taken j).getD (f.value {}) := by
  have hmap : ∀ {α : Type} (read : Option α) (dflt : α) (toZ : α → Int),
      toZ (read.getD dflt) = (read.map toZ).getD (toZ dflt) := by
    intro α read dflt toZ
    cases read <;> rfl
  simp only [load, hparse, hobj]
  refine ⟨_, rfl, ?_⟩
  intro f
  cases f with
  | version | password => exact hmap _ _ fun v : BitVec 32 => (v.toNat : Int)
  | boxId | upsShutdownTime | airconSetHumidity =>
    exact hmap _ _ fun v : BitVec 16 => (v.toNat : Int)
  | airconSetTemp => exact hmap _ _ BitVec.toInt

theorem takesExactly_iff (j : Json) :
    TakesExactly j ↔ ∀ (f : ConfigField) (v : Json), j.find f.key = some v → f.Fits v := by
  have hfield : ∀ f : ConfigField,
      (∀ z, f.taken j = some z → (j.find f.key).bind statedBy = some z) ↔
        ∀ v, j.find f.key = some v → f.Fits v := by
    intro f
    cases hv : j.find f.key with
    | none =>
      have hnone : f.taken j = none := by
        cases f <;> simp only [ConfigField.taken, parseU16, parseU32, parseI16, hv] <;> rfl
      rw [hnone]
      exact iff_of_true nofun nofun
    | some v =>
      have hsome : ∀ {α : Type} (read : Option α) (toZ : α → Int),
          (∀ z, read.map toZ = some z → (some v).bind statedBy = some z) ↔
            ∀ w, read = some w → statedBy v = some (toZ w) := by
        intro α read toZ
        cases read <;> simp
      have hone : (∀ v', some v = some v' → f.Fits v') ↔ f.Fits v := by simp
      rw [hone]
      cases f with
      | version | password =>
        simp only [ConfigField.taken, parseU32, hv, Option.bind_some]
        exact (hsome _ _).trans readU32_exact_iff
      | boxId | upsShutdownTime | airconSetHumidity =>
        simp only [ConfigField.taken, parseU16, parseU32, hv, Option.bind_some]
        exact (hsome _ _).trans readU16_exact_iff
      | airconSetTemp =>
        simp only [ConfigField.taken, parseI16, hv, Option.bind_some]
        exact (hsome _ _).trans readI16_exact_iff
  exact forall_congr' hfield

/-! ### What has been written -/

/-- A number that needs no sign is parsed as one without. -/
def reparsed : Json → Json
  | .integer x => if 0 ≤ x then .unsigned x.toNat else .integer x
  | v => v

/-- A parsed document has the fields that were written. -/
structure ReadBack (j written : Json) : Prop where
  isObject : j.isObject = true
  find : ∀ key, j.find key = (written.find key).map reparsed

theorem parseU32_of_find {j : Json} {key : String} {w : BitVec 32}
    (h : j.find key = some (.unsigned w.toNat)) : parseU32 j key = some w := by
  rw [parseU32, h, Option.bind_some, readU32, BitVec.ofNat_toNat, BitVec.setWidth_eq]

theorem parseU16_of_find {j : Json} {key : String} {w : BitVec 16}
    (h : j.find key = some (.unsigned w.toNat)) : parseU16 j key = some w := by
  have hlt := w.isLt
  rw [parseU16, parseU32, h, Option.bind_some, readU32, Option.bind_some, narrow16_eq_some_iff,
    BitVec.toNat_ofNat, Nat.mod_eq_of_lt (by omega)]

theorem parseI16_of_find {j : Json} {key : String} {w : BitVec 16}
    (h : j.find key = some (reparsed (.integer w.toInt))) : parseI16 j key = some w := by
  have hlow := BitVec.le_toInt w
  have hhigh := BitVec.toInt_lt (x := w)
  have hread : readI64 (reparsed (.integer w.toInt)) = some w.toInt := by
    unfold reparsed
    dsimp only
    split
    · rename_i hpos
      have hmod : w.toInt.toNat % 2 ^ 64 = w.toInt.toNat := Nat.mod_eq_of_lt (by omega)
      rw [readI64, BitVec.toInt_eq_toNat_cond, BitVec.toNat_ofNat, hmod, if_pos (by omega),
        Int.toNat_of_nonneg hpos]
    · rfl
  rw [parseI16, h, Option.bind_some, hread, Option.bind_some, narrowI16_eq_some_iff]

theorem load_of_readBack {parse : List Char → Except String Json} {path : String}
    {text : List Char} {j : Json} {cfg : MaintainConfig} (hparse : parse text = .ok j)
    (h : ReadBack j cfg.toJson) : load parse path (.ok text) = .ok cfg := by
  have hversion := parseU32_of_find (h.find "version")
  have hpassword := parseU32_of_find (h.find "password")
  have hbox := parseU16_of_find (h.find "box_id")
  have hups := parseU16_of_find (h.find "ups_shutdown_time")
  have htemp := parseI16_of_find (h.find "aircon_set_temp")
  have hhumidity := parseU16_of_find (h.find "aircon_set_humidity")
  simp only [load, hparse, h.isObject, hversion, hpassword, hbox, hups, htemp, hhumidity]
  rfl

end

/-- What has been saved is loaded as it was; of any document exactly the stated integers are taken
over, and the other fields have their defaults, as long as no number that is cut to the type of its
field on the way lands in its range. -/
theorem load_exact_iff (dump : Json → String) (parse : List Char → Except String Json)
    (path : String) (cfg : MaintainConfig)
    (hback : ∃ written, parse (document dump cfg) = .ok written ∧ ReadBack written cfg.toJson)
    (j : Json) :
    load parse path (.ok (document dump cfg)) = .ok cfg ∧
      (∀ text, parse text = .ok j → j.isObject = true →
        ∃ loaded, load parse path (.ok text) = .ok loaded ∧
          ∀ f : ConfigField, f.value loaded = (f.taken j).getD (f.value {})) ∧
      (TakesExactly j ↔ ∀ (f : ConfigField) (v : Json), j.find f.key = some v → f.Fits v) := by
  obtain ⟨written, hparse, hread⟩ := hback
  exact ⟨load_of_readBack hparse hread, fun _ => load_fields, takesExactly_iff j⟩

/-- The document of the settings, parsed: its keys come in order. -/
def parsed (cfg : MaintainConfig) : Json :=
  .object [("aircon_set_humidity", .unsigned cfg.airconSetHumidity.toNat),
    ("aircon_set_temp", reparsed (.integer cfg.airconSetTemp.toInt)),
    ("box_id", .unsigned cfg.boxId.toNat), ("password", .unsigned cfg.password.toNat),
    ("ups_shutdown_time", .unsigned cfg.upsShutdownTime.toNat),
    ("version", .unsigned cfg.version.toNat)]

theorem readBack_parsed (cfg : MaintainConfig) : ReadBack (parsed cfg) cfg.toJson := by
  refine ⟨rfl, fun key => ?_⟩
  by_cases hkey : key ∈ ["version", "password", "box_id", "ups_shutdown_time", "aircon_set_temp",
      "aircon_set_humidity"]
  · simp only [List.mem_cons, List.not_mem_nil, or_false] at hkey
    obtain rfl | rfl | rfl | rfl | rfl | rfl := hkey <;> rfl
  · simp only [List.mem_cons, List.not_mem_nil, or_false, not_or] at hkey
    obtain ⟨h1, h2, h3, h4, h5, h6⟩ := hkey
    have hbeq : ∀ name : String, key ≠ name → (key == name) = false := fun _ h => beq_false_of_ne h
    simp only [parsed, MaintainConfig.toJson, Json.find, List.lookup_cons, hbeq _ h1,
      hbeq _ h2, hbeq _ h3, hbeq _ h4, hbeq _ h5, hbeq _ h6]
    rfl

/-- No setting is at its default, and the temperature is below zero. -/
def winterConfig : MaintainConfig where
  version := 2
  password := 4000000000
  boxId := 65535
  upsShutdownTime := 10
  airconSetTemp := BitVec.ofInt 16 (-5)
  airconSetHumidity := 45

/-- The text of these settings. -/
def winterText : Json → String := fun _ =>
  "\x7b\n    \"aircon_set_humidity\": 45,\n    \"aircon_set_temp\": -5,\n" ++
    "    \"box_id\": 65535,\n    \"password\": 4000000000,\n    \"ups_shutdown_time\": 10,\n" ++
    "    \"version\": 2\n\x7d"

/-- The parser on this text. -/
def parseWinter (text : List Char) : Except String Json :=
  if text = document winterText winterConfig then .ok (parsed winterConfig)
  else .error "syntax error"

theorem load_exact_iff_winter :
    load parseWinter "maintain.json" (.ok (document winterText winterConfig)) =
        .ok winterConfig ∧
      TakesExactly (parsed winterConfig) ∧
      ∀ f : ConfigField, f.value winterConfig ≠ f.value {} := by
  obtain ⟨hload, -, hexact⟩ := load_exact_iff winterText parseWinter "maintain.json" winterConfig
    ⟨parsed winterConfig, if_pos rfl, readBack_parsed winterConfig⟩ (parsed winterConfig)
  refine ⟨hload, hexact.mpr ?_, ?_⟩
  · intro f v hv
    cases f with
    | version | password =>
      cases hv
      intro z hz _
      cases hz
      decide
    | boxId | upsShutdownTime | airconSetHumidity =>
      cases hv
      intro z hz _
      cases hz
      exact Or.inl (by decide)
    | airconSetTemp =>
      cases hv
      exact trivial
  · intro f
    cases f <;> decide

def largePassword : Json := .object [("password", .unsigned 4294967297)]
def largeTemp : Json := .object [("aircon_set_temp", .unsigned 18446744073709551615)]

/-- A password beyond 32 bits becomes 1, a temperature beyond 63 bits becomes -1. -/
theorem large_number_cut :
    parseU32 largePassword "password" = some 1 ∧ ¬ TakesExactly largePassword ∧
      (parseI16 largeTemp "aircon_set_temp").map BitVec.toInt = some (-1) ∧
      ¬ TakesExactly largeTemp := by
  have hpassword : parseU32 largePassword "password" = some 1 := by decide
  have htemp : (parseI16 largeTemp "aircon_set_temp").map BitVec.toInt = some (-1) := by decide
  refine ⟨hpassword, ?_, htemp, ?_⟩
  · intro h
    have hone := h .password 1 (by rw [ConfigField.taken, ConfigField.key, hpassword]; rfl)
    exact absurd hone (by decide)
  · intro h
    have hone := h .airconSetTemp (-1) htemp
    exact absurd hone (by decide)

end MaintainStorage

end Maintain
end EnergyStorage
