import EnergyStorage.Bms.ProtoValidate
import EnergyStorage.Bms.TxFrame

/-! # The generator of the protocol table

The generator turns a document into arrays of the program, which the codec of the frames works
on.  Numbers and texts that it only passes on are left out. -/

namespace EnergyStorage
namespace Bms
namespace ProtoTools

open Lib (Json)
open BmsProto BmsTx

/-! ### Generation -/

/-- A name as the program may use it. -/
def ident (py : PythonText) (s : String) : String :=
  let r := s.toList.map fun c => if py.isalnum c || c = '_' then c else '_'
  match r with
  | [] => ""
  | c :: _ => String.ofList (if py.isdigit c then '_' :: r else r)

def parseKey (py : PythonText) (k : String) : Option Int :=
  let ks := py.strip k
  let base := if ks.take 2 = ['0', 'x'] ∨ ks.take 2 = ['0', 'X'] then 16 else 10
  py.int base (String.ofList ks)

structure GenSignal where
  name : String
  start : Int
  length : Int
  /-- The array of the enumerated codes, with its name. -/
  enums : Option (String × List (Int × String))

structure GenMessage where
  name : String
  id : Int
  dlc : Int
  sigArr : String
  signals : List GenSignal

def nameAt (py : PythonText) (j : Json) (dflt : String) : String :=
  ((j.find "name").map py.strOf).getD dflt

def asInt (j : Json) (key : String) (dflt : Int) : Int := (intAt j key).getD dflt

def enumName (py : PythonText) (mname sname : String) : String :=
  "kEnum_" ++ (ident py mname ++ "_" ++ ident py sname)

/-- The entries of an enumeration by their codes; none where a key is no number. -/
def enumPairs (py : PythonText) : List (String × Json) → Option (List (Int × String))
  | [] => some []
  | kv :: rest =>
    (parseKey py kv.1).bind fun raw => (enumPairs py rest).map fun ps =>
      (raw, py.strOf kv.2) :: ps

def enumOf (py : PythonText) (mname sname : String) (s : Json) :
    Option (Option (String × List (Int × String))) :=
  match s.find "val_table" with
  | some (.object (kv :: rest)) =>
    (enumPairs py (kv :: rest)).map fun ps =>
      some (enumName py mname sname, ps.mergeSort fun p q => p.1 ≤ q.1)
  | _ => some none

def genSignal (py : PythonText) (mname : String) (si : Nat) (s : Json) : Option GenSignal :=
  if !s.isObject then none
  else
    let sname := nameAt py s ("sig_" ++ toString si)
    (enumOf py mname sname s).map fun enums =>
      { name := sname, start := asInt s "startbit_lsb" 0, length := asInt s "length" 1, enums }

def genSignals (py : PythonText) (mname : String) : Nat → List Json → Option (List GenSignal)
  | _, [] => some []
  | si, s :: rest =>
    (genSignal py mname si s).bind fun g => (genSignals py mname (si + 1) rest).map (g :: ·)

def genMessage (py : PythonText) (mi : Nat) (m : Json) : Option GenMessage :=
  if !m.isObject then none
  else
    let mname := nameAt py m ("msg_" ++ toString mi)
    (intAt m "id").bind fun mid => (signalsOf m).bind fun sigs =>
      (genSignals py mname 0 sigs).map fun signals =>
        { name := mname, id := mid, dlc := asInt m "dlc" 8
          sigArr := "kSignals_" ++ ident py mname, signals }

def genMessages (py : PythonText) : Nat → List Json → Option (List GenMessage)
  | _, [] => some []
  | mi, m :: rest =>
    (genMessage py mi m).bind fun g => (genMessages py (mi + 1) rest).map (g :: ·)

/-- The table, or none where the generator raises. -/
def gen (py : PythonText) (proto : Json) : Option (List GenMessage) :=
  if !proto.isObject then none
  else
    match proto.find "messages" with
    | none => some []
    | some (.array ms) => genMessages py 0 ms
    | some _ => none

/-- The arrays that the generated file defines. -/
def identifiers (table : List GenMessage) : List String :=
  table.map GenMessage.sigArr ++
    table.flatMap fun m => m.signals.filterMap fun g => g.enums.map Prod.fst

/-! ### The table in the codec -/

/-- The position as the program holds it. -/
def uint16 (n : Int) : Nat := (BitVec.ofInt 16 n).toNat

def RoundTrips (start len : Nat) : Prop :=
  ∀ data : BitVec 64, ∀ v < 2 ^ len,
    (extractBitsLsb (packBitsLsb data start len v) start len).toNat = v

/-- What a generated table should be for the codec. -/
structure TableSound (table : List GenMessage) : Prop where
  identifiers : (identifiers table).Nodup
  roundTrips : ∀ m ∈ table, ∀ g ∈ m.signals, RoundTrips (uint16 g.start) (uint16 g.length)
  disjoint : ∀ m ∈ table, m.signals.Pairwise fun g h =>
    Lib.BitField.Disjoint (uint16 g.start) (uint16 g.length) (uint16 h.start) (uint16 h.length)

theorem roundTrips_iff {start len : Nat} (hpos : 0 < len) :
    RoundTrips start len ↔ start + len ≤ 64 := by
  constructor
  · intro h
    by_contra hlong
    have hcut : min len (64 - start) < len := by omega
    have hlt : 2 ^ min len (64 - start) < 2 ^ len := Nat.pow_lt_pow_right (by decide) hcut
    have hread := h 0 _ hlt
    rw [(extract_pack 0 start len _).1, Nat.mod_self] at hread
    exact absurd hread (Nat.ne_of_lt (Nat.two_pow_pos _))
  · intro hfits data v hv
    rw [(extract_pack data start len v).1, Nat.min_eq_left (by omega), Nat.mod_eq_of_lt hv]

theorem uint16_natCast {n : Nat} (h : n < 2 ^ 16) : uint16 (n : Int) = n := by
  rw [uint16, BitVec.ofInt_natCast, BitVec.toNat_ofNat, Nat.mod_eq_of_lt h]

/-! ### What is generated for an accepted document -/

/-- All that the codec and the compiler see of a signal: the name of its enumeration is the
only name that is made from it. -/
structure Shape where
  start : Int
  length : Int
  enumName : Option String
  deriving DecidableEq

def GenSignal.shape (g : GenSignal) : Shape := ⟨g.start, g.length, g.enums.map Prod.fst⟩

/-- The signal has enumerated codes. -/
def enumerates (s : Json) : Bool :=
  match s.find "val_table" with
  | some (.object (_ :: _)) => true
  | _ => false

def shapeOf (py : PythonText) (mname : String) (s : Json) : Shape :=
  { start := (span s).1
    length := (span s).2
    enumName := if enumerates s then some (enumName py mname (textAt s "name")) else none }

def KeysRead (py : PythonText) (s : Json) : Prop :=
  ∀ fields, s.find "val_table" = some (.object fields) →
    ∀ kv ∈ fields, (parseKey py kv.1).isSome

section

variable (py : PythonText) {bitLimit : Int} (mname : String)

theorem nameAt_eq {j : Json} (h : textAt j "name" ≠ "") (dflt : String) :
    nameAt py j dflt = textAt j "name" := by
  rw [textAt] at h ⊢
  rw [nameAt]
  cases hname : j.find "name" with
  | none =>
    rw [hname] at h
    exact absurd rfl h
  | some v =>
    rw [hname] at h
    cases v with
    | string s => rfl
    | _ => exact absurd rfl h

theorem isSome_enumPairs_iff (fields : List (String × Json)) :
    (enumPairs py fields).isSome ↔ ∀ kv ∈ fields, (parseKey py kv.1).isSome := by
  induction fields with
  | nil => exact ⟨fun _ => nofun, fun _ => rfl⟩
  | cons kv rest ih =>
    rw [enumPairs, List.forall_mem_cons, ← ih]
    cases parseKey py kv.1 with
    | none => simp
    | some raw => simp

theorem enumOf_spec (sname : String) (s : Json) :
    ((enumOf py mname sname s).isSome ↔ KeysRead py s) ∧
      ∀ e, enumOf py mname sname s = some e →
        e.map Prod.fst = if enumerates s then some (enumName py mname sname) else none := by
  rw [enumOf, KeysRead, enumerates]
  cases hvt : s.find "val_table" with
  | none => exact ⟨⟨fun _ => nofun, fun _ => rfl⟩, fun e he => by cases he; rfl⟩
  | some v =>
    cases v with
    | object fields =>
      cases fields with
      | nil =>
        refine ⟨⟨fun _ f hf => ?_, fun _ => rfl⟩, fun e he => by cases he; rfl⟩
        cases hf
        exact nofun
      | cons kv rest =>
        constructor
        · dsimp only
          rw [Option.isSome_map, isSome_enumPairs_iff]
          constructor
          · intro h f hf
            cases hf
            exact h
          · exact fun h => h _ rfl
        · intro e he
          obtain ⟨ps, -, rfl⟩ := Option.map_eq_some_iff.mp he
          rfl
    | _ => exact ⟨⟨fun _ => nofun, fun _ => rfl⟩, fun e he => by cases he; rfl⟩

theorem genSignal_spec {s : Json} (h : SignalOk bitLimit s) (si : Nat) :
    ((genSignal py mname si s).isSome ↔ KeysRead py s) ∧
      ∀ g, genSignal py mname si s = some g → g.shape = shapeOf py mname s := by
  have henum := enumOf_spec py mname (textAt s "name") s
  rw [genSignal, h.object, if_neg (by decide)]
  dsimp only
  rw [nameAt_eq py h.name, Option.isSome_map]
  refine ⟨henum.1, fun g hg => ?_⟩
  obtain ⟨e, he, rfl⟩ := Option.map_eq_some_iff.mp hg
  rw [GenSignal.shape, shapeOf, henum.2 e he]
  dsimp only
  rw [asInt, asInt, h.start, h.length]
  rfl

theorem genSignals_spec {sigs : List Json} (h : ∀ s ∈ sigs, SignalOk bitLimit s) (si : Nat) :
    ((genSignals py mname si sigs).isSome ↔ ∀ s ∈ sigs, KeysRead py s) ∧
      ∀ gs, genSignals py mname si sigs = some gs →
        gs.map GenSignal.shape = sigs.map (shapeOf py mname) := by
  induction sigs generalizing si with
  | nil => exact ⟨⟨fun _ => nofun, fun _ => rfl⟩, fun gs hgs => by cases hgs; rfl⟩
  | cons s rest ih =>
    rw [List.forall_mem_cons] at h
    have hs := genSignal_spec py mname h.1 si
    have hrest := ih h.2 (si + 1)
    rw [genSignals, List.forall_mem_cons, ← hs.1, ← hrest.1]
    constructor
    · cases genSignal py mname si s with
      | none => simp
      | some g => simp
    · intro gs hgs
      obtain ⟨g, hg, hgs⟩ := Option.bind_eq_some_iff.mp hgs
      obtain ⟨gs', hgs', rfl⟩ := Option.map_eq_some_iff.mp hgs
      rw [List.map_cons, List.map_cons, hs.2 g hg, hrest.2 gs' hgs']

def sigsOf (m : Json) : List Json := (signalsOf m).getD []

/-- A message with the shapes of its signals. -/
def outline (g : GenMessage) : String × List Shape := (g.sigArr, g.signals.map GenSignal.shape)

def outlineOf (py : PythonText) (m : Json) : String × List Shape :=
  ("kSignals_" ++ ident py (textAt m "name"), (sigsOf m).map (shapeOf py (textAt m "name")))

theorem MessageOk.sigs {m : Json} (h : MessageOk m) :
    signalsOf m = some (sigsOf m) ∧ (∀ s ∈ sigsOf m, SignalOk 512 s) ∧
      (sigsOf m).Pairwise SpansDisjoint := by
  obtain ⟨dlc, sigs, -, -, hdlc, hsigs, hall, hpair⟩ := h.signals
  have heq : sigsOf m = sigs := by
    rw [sigsOf, hsigs, Option.getD_some]
  rw [heq]
  refine ⟨hsigs, fun s hs => ?_, hpair⟩
  have hok := hall s hs
  exact { hok with fits := by have hfits := hok.fits; omega }

theorem genMessage_spec {m : Json} (h : MessageOk m) (mi : Nat) :
    ((genMessage py mi m).isSome ↔ ∀ s ∈ sigsOf m, KeysRead py s) ∧
      ∀ g, genMessage py mi m = some g → outline g = outlineOf py m := by
  obtain ⟨hsigs, hall, -⟩ := h.sigs
  obtain ⟨mid, hmid⟩ := Option.isSome_iff_exists.mp h.id
  have hspec := genSignals_spec py (textAt m "name") hall 0
  rw [genMessage, h.object, if_neg (by decide)]
  dsimp only
  rw [nameAt_eq py h.name, hmid, hsigs, Option.bind_some, Option.bind_some, Option.isSome_map]
  refine ⟨hspec.1, fun g hg => ?_⟩
  obtain ⟨gs, hgs, rfl⟩ := Option.map_eq_some_iff.mp hg
  rw [outline, outlineOf, hspec.2 gs hgs]

theorem genMessages_spec {ms : List Json} (h : ∀ m ∈ ms, MessageOk m) (mi : Nat) :
    ((genMessages py mi ms).isSome ↔ ∀ m ∈ ms, ∀ s ∈ sigsOf m, KeysRead py s) ∧
      ∀ t, genMessages py mi ms = some t → t.map outline = ms.map (outlineOf py) := by
  induction ms generalizing mi with
  | nil => exact ⟨⟨fun _ => nofun, fun _ => rfl⟩, fun t ht => by cases ht; rfl⟩
  | cons m rest ih =>
    rw [List.forall_mem_cons] at h
    have hm := genMessage_spec py h.1 mi
    have hrest := ih h.2 (mi + 1)
    rw [genMessages, List.forall_mem_cons, ← hm.1, ← hrest.1]
    constructor
    · cases genMessage py mi m with
      | none => simp
      | some g => simp
    · intro t ht
      obtain ⟨g, hg, ht⟩ := Option.bind_eq_some_iff.mp ht
      obtain ⟨t', ht', rfl⟩ := Option.map_eq_some_iff.mp ht
      rw [List.map_cons, List.map_cons, hm.2 g hg, hrest.2 t' ht']

/-! ### The table by its outlines -/

def OutlineSound (o : String × List Shape) : Prop :=
  (∀ x ∈ o.2, RoundTrips (uint16 x.start) (uint16 x.length)) ∧
    o.2.Pairwise fun x y =>
      Lib.BitField.Disjoint (uint16 x.start) (uint16 x.length) (uint16 y.start) (uint16 y.length)

theorem outlineSound_iff (g : GenMessage) :
    OutlineSound (outline g) ↔
      (∀ x ∈ g.signals, RoundTrips (uint16 x.start) (uint16 x.length)) ∧
        g.signals.Pairwise fun x y => Lib.BitField.Disjoint (uint16 x.start) (uint16 x.length)
          (uint16 y.start) (uint16 y.length) := by
  rw [OutlineSound, outline]
  dsimp only
  rw [List.forall_mem_map, List.pairwise_map]
  rfl

/-- Of an accepted message only the ends of the signals are left to check. -/
theorem outlineSound_outlineOf_iff {m : Json} (h : MessageOk m) :
    OutlineSound (outlineOf py m) ↔ ∀ s ∈ sigsOf m, (span s).1 + (span s).2 ≤ 64 := by
  obtain ⟨-, hall, hpair⟩ := h.sigs
  have hspan : ∀ s ∈ sigsOf m,
      uint16 (shapeOf py (textAt m "name") s).start = (span s).1 ∧
        uint16 (shapeOf py (textAt m "name") s).length = (span s).2 := by
    intro s hs
    have hfits := (hall s hs).fits
    exact ⟨uint16_natCast (by omega), uint16_natCast (by omega)⟩
  rw [OutlineSound, outlineOf]
  dsimp only
  rw [List.forall_mem_map, List.pairwise_map]
  constructor
  · intro hsound s hs
    have htrip := hsound.1 s hs
    rw [(hspan s hs).1, (hspan s hs).2] at htrip
    exact (roundTrips_iff (hall s hs).pos).mp htrip
  · intro hends
    constructor
    · intro s hs
      rw [(hspan s hs).1, (hspan s hs).2]
      exact (roundTrips_iff (hall s hs).pos).mpr (hends s hs)
    · refine hpair.imp_of_mem ?_
      intro s t hs ht hdisjoint
      rw [(hspan s hs).1, (hspan s hs).2, (hspan t ht).1, (hspan t ht).2]
      exact hdisjoint

def outlineIdentifiers (os : List (String × List Shape)) : List String :=
  os.map Prod.fst ++ os.flatMap fun o => o.2.filterMap Shape.enumName

theorem identifiers_eq (table : List GenMessage) :
    identifiers table = outlineIdentifiers (table.map outline) := by
  rw [identifiers, outlineIdentifiers, List.map_map, List.flatMap_map]
  congr 1
  refine List.flatMap_congr fun m _ => ?_
  rw [outline, List.filterMap_map]
  rfl

/-- The names of the enumerations behind what all of them begin with. -/
def enumIdents (py : PythonText) (m : Json) : List String :=
  ((sigsOf m).filter enumerates).map fun s =>
    ident py (textAt m "name") ++ "_" ++ ident py (textAt s "name")

theorem filterMap_outlineOf (m : Json) :
    (outlineOf py m).2.filterMap Shape.enumName = (enumIdents py m).map ("kEnum_" ++ ·) := by
  rw [outlineOf, enumIdents, List.filterMap_map, List.map_map]
  induction sigsOf m with
  | nil => rfl
  | cons s rest ih =>
    cases he : enumerates s with
    | false =>
      rw [List.filterMap_cons_none (by simp [shapeOf, he]), List.filter_cons_of_neg (by simp [he])]
      exact ih
    | true =>
      have hname : (Shape.enumName ∘ shapeOf py (textAt m "name")) s =
          some (enumName py (textAt m "name") (textAt s "name")) := by
        rw [Function.comp_apply, shapeOf, if_pos he]
      rw [List.filterMap_cons_some hname, List.filter_cons_of_pos he, List.map_cons, ih,
        Function.comp_apply, enumName, String.append_assoc]

theorem prefixed_injective (p : String) : Function.Injective (p ++ ·) := by
  intro a b h
  exact String.append_right_inj p |>.mp h

/-- The two kinds of names cannot meet. -/
theorem nodup_identifiers_iff (ms : List Json) :
    (outlineIdentifiers (ms.map (outlineOf py))).Nodup ↔
      (ms.map fun m => ident py (textAt m "name")).Nodup ∧ (ms.flatMap (enumIdents py)).Nodup := by
  have hsigs : (ms.map (outlineOf py)).map Prod.fst =
      (ms.map fun m => ident py (textAt m "name")).map ("kSignals_" ++ ·) := by
    rw [List.map_map, List.map_map]
    rfl
  have henums : ((ms.map (outlineOf py)).flatMap fun o => o.2.filterMap Shape.enumName) =
      (ms.flatMap (enumIdents py)).map ("kEnum_" ++ ·) := by
    rw [List.flatMap_map, List.map_flatMap]
    exact List.flatMap_congr fun m _ => filterMap_outlineOf py m
  have hapart : ∀ a b : String, "kSignals_" ++ a ≠ "kEnum_" ++ b := by
    intro a b h
    have hsecond := congrArg (fun s : String => s.toList[1]?) h
    simp at hsecond
  rw [outlineIdentifiers, hsigs, henums, List.nodup_append,
    List.nodup_map_iff (prefixed_injective _), List.nodup_map_iff (prefixed_injective _)]
  refine and_congr_right fun _ => and_iff_left ?_
  intro x hx y hy
  obtain ⟨a, -, rfl⟩ := List.mem_map.mp hx
  obtain ⟨b, -, rfl⟩ := List.mem_map.mp hy
  exact hapart a b

theorem tableSound_iff {table : List GenMessage} {ms : List Json} (hms : ∀ m ∈ ms, MessageOk m)
    (h : table.map outline = ms.map (outlineOf py)) :
    TableSound table ↔
      ((ms.map fun m => ident py (textAt m "name")).Nodup ∧ (ms.flatMap (enumIdents py)).Nodup) ∧
        ∀ m ∈ ms, ∀ s ∈ sigsOf m, (span s).1 + (span s).2 ≤ 64 := by
  have houtlines : (∀ g ∈ table, OutlineSound (outline g)) ↔
      ∀ m ∈ ms, ∀ s ∈ sigsOf m, (span s).1 + (span s).2 ≤ 64 := by
    rw [← List.forall_mem_map, h, List.forall_mem_map]
    exact forall₂_congr fun m hm => outlineSound_outlineOf_iff py (hms m hm)
  rw [← nodup_identifiers_iff, ← h, ← identifiers_eq, ← houtlines]
  constructor
  · intro hsound
    exact ⟨hsound.identifiers, fun g hg =>
      (outlineSound_iff g).mpr ⟨hsound.roundTrips g hg, hsound.disjoint g hg⟩⟩
  · intro ⟨hnames, hall⟩
    exact
      { identifiers := hnames
        roundTrips := fun g hg => ((outlineSound_iff g).mp (hall g hg)).1
        disjoint := fun g hg => ((outlineSound_iff g).mp (hall g hg)).2 }

end

def messagesOf (proto : Json) : List Json :=
  match proto.find "messages" with
  | some (.array ms) => ms
  | _ => []

/-- What a document needs beside the validator's consent. -/
structure Supported (py : PythonText) (proto : Json) : Prop where
  keys : ∀ m ∈ messagesOf proto, ∀ s ∈ sigsOf m, KeysRead py s
  messageNames : ((messagesOf proto).map fun m => ident py (textAt m "name")).Nodup
  enumNames : ((messagesOf proto).flatMap (enumIdents py)).Nodup
  ends : ∀ m ∈ messagesOf proto, ∀ s ∈ sigsOf m, (span s).1 + (span s).2 ≤ 64

def enumSignal (name : String) (start length : Nat) (codes : List (String × Json)) : Json :=
  .object [("name", .string name), ("startbit_lsb", .unsigned start), ("length", .unsigned length),
    ("val_table", .object codes)]

def intelMessage (name : String) (id : Nat) (sigs : List Json) : Json :=
  .object [("name", .string name), ("id", .unsigned id), ("dlc", .unsigned 8),
    ("byte_order", .string "Intel"), ("signals", .array sigs)]

def commandSignals : List Json :=
  [enumSignal "LifeSignal" 0 8 [("255", .string "Signal Invalid")],
    enumSignal "HvOnOff" 8 2 [("0x1", .string "On"), ("2", .string "Off")]]

def stateSignals : List Json :=
  [enumSignal "HvState" 4 3 [("0", .string "Off"), ("0x02", .string "On")],
    enumSignal "LifeSignal" 60 4 [("0x0F", .string "Signal Invalid")]]

/-- Two messages with two signals each, which have names in common. -/
def commandAndState : Json :=
  .object [("messages", .array [intelMessage "V2B_CMD" 0x1802F3EF commandSignals,
    intelMessage "B2V_ST1" 0x1881EFF3 stateSignals])]

theorem keysRead_enumSignal {name : String} {start length : Nat} {codes : List (String × Json)}
    (h : ∀ kv ∈ codes, (parseKey asciiText kv.1).isSome) :
    KeysRead asciiText (enumSignal name start length codes) := by
  intro fields hfields
  cases hfields
  exact h

/-- A document of one message with one signal of eight bits, whose enumeration has one key. -/
def oneSignal (key : String) : Json :=
  .object [("messages", .array [.object
    [("name", .string "V2B_CMD"), ("id", .unsigned 0x1802F3EF), ("dlc", .unsigned 8),
      ("byte_order", .string "Intel"), ("signals", .array [.object
        [("name", .string "V2B_CMD_LifeSignal"), ("startbit_lsb", .unsigned 0),
          ("length", .unsigned 8), ("val_table", .object [(key, .string "Signal Invalid")])]])]])]

end ProtoTools
end Bms
end EnergyStorage
