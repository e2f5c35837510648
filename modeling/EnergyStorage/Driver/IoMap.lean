import EnergyStorage.Driver.Manager
import EnergyStorage.Lib.Json

/-! # Loading the map of the ports

The loader drops the entries that are disabled, the driver manager numbers what is left, and
the links of the system configuration go by that number. -/

namespace EnergyStorage

open Lib (Json)

/-! ### Reading values -/

namespace JsonValue

def getString : Json → Option String
  | .string s => some s
  | _ => none

def getBool : Json → Option Bool
  | .boolean b => some b
  | _ => none

/-- As a 32-bit integer; a fraction is cut off. -/
def getInt : Json → Option Int
  | .unsigned n => some (BitVec.ofNat 32 n).toInt
  | .integer i => some (BitVec.ofInt 32 i).toInt
  | .float q => some (BitVec.ofInt 32 (q.num.tdiv q.den)).toInt
  | .boolean b => some b.toInt
  | .null | .string _ | .array _ | .object _ => none

/-- The value under a key or the default; nothing where the library throws. -/
def valueOr {α : Type} (get : Json → Option α) (j : Json) (key : String) (dflt : α) : Option α :=
  if !j.isObject then none
  else
    match j.find key with
    | none => some dflt
    | some v => get v

end JsonValue

open JsonValue

/-! ### The lists of the document -/

def CanPortCfg.kept (c : CanPortCfg) : Bool := c.ifname ≠ "" && c.enable

def SerialPortCfg.kept (p : SerialPortCfg) : Bool := p.device ≠ "" && p.enable

namespace ConfigLoader

def readCanPort (it : Json) : Option CanPortCfg := do
  let name ← valueOr getString it "name" ""
  let ifname ← valueOr getString it "ifname" "can0"
  let bitrate ← valueOr getInt it "bitrate" 500000
  let enable ← valueOr getBool it "enable" true
  pure ⟨name, ifname, bitrate, enable⟩

def readSerialPort (baud : Int) (it : Json) : Option SerialPortCfg := do
  let name ← valueOr getString it "name" ""
  let device ← valueOr getString it "device" ""
  let baudrate ← valueOr getInt it "baudrate" baud
  let enable ← valueOr getBool it "enable" true
  pure ⟨name, device, baudrate, enable⟩

def elements : Json → List Json
  | .array xs => xs
  | _ => []

/-- The links stand under `can`, or under its `links`. -/
def canLinks (j : Json) : Option (List Json) :=
  match j.find "can" with
  | some (.object fields) => (valueOr some (.object fields) "links" (.array [])).map elements
  | some (.array xs) => some xs
  | _ => some []

def serialLinks (j : Json) (key : String) : Option (List Json) := do
  let serial ← valueOr some j "serial" (.object [])
  let links ← valueOr some serial key (.array [])
  pure (elements links)

/-- Every entry of the document, in its order. -/
def listedPorts (j : Json) : Option IoMapConfig := do
  let can ← (← canLinks j).mapM readCanPort
  let rs485 ← (← serialLinks j "rs485").mapM (readSerialPort 9600)
  let rs232 ← (← serialLinks j "rs232").mapM (readSerialPort 2400)
  pure ⟨can, rs485, rs232⟩

/-- The third value of the default is its bit rate. -/
def defaultCan : CanPortCfg := ⟨"can0", "can0", 1, true⟩

def keepEnabled (io : IoMapConfig) : IoMapConfig :=
  let can := io.can.filter CanPortCfg.kept
  ⟨if can.isEmpty then [defaultCan] else can, io.rs485.filter SerialPortCfg.kept,
    io.rs232.filter SerialPortCfg.kept⟩

/-- The document read into ports, or nothing for an exception. -/
def loadIoMap (j : Json) : Option IoMapConfig := (listedPorts j).map keepEnabled

end ConfigLoader

/-! ### The port behind an index -/

namespace DriverManager

/-- The CAN port that reports and sends under an index. -/
def canAt (d : DriverManager) (k : Nat) : Option CanPortCfg :=
  (d.canThreads.getD k none).map CanThread.port

def threads (d : DriverManager) : LinkType → List SerialThread
  | .rs485 => d.serialThreads
  | .rs232 => d.rs232Threads
  | _ => []

/-- The serial port that reports under an index. -/
def serialAt (d : DriverManager) (type : LinkType) (k : Nat) : Option SerialPortCfg :=
  ((d.threads type).find? fun th => th.serialIndex = k).map SerialThread.port

end DriverManager

/-- Each index means the port at its place in the lists of the file. -/
structure InPlace (file : IoMapConfig) (up : DriverInit) (d : DriverManager) : Prop where
  can : ∀ k c q, file.can[k]? = some c → d.canAt k = some q → q.ifname = c.ifname
  serial : ∀ type k p q, (file.serial type)[k]? = some p → d.serialAt type k = some q →
    q.device = p.device
  canReached : ∀ k c, file.can[k]? = some c → c.kept = true → up.can k = true →
    (d.canAt k).isSome = true
  serialReached : ∀ type k p, (file.serial type)[k]? = some p → p.kept = true →
    up.serial type k = true → (d.serialAt type k).isSome = true

/-- The kept elements come before all others. -/
def KeptFirst {α : Type} (kept : α → Bool) (l : List α) : Prop :=
  ∀ (i j : Nat) (a b : α), i < j → l[i]? = some a → l[j]? = some b → kept b = true →
    kept a = true

/-! ### What filtering does to places -/

section Filter

variable {α : Type} {kept : α → Bool} {l : List α}

theorem getElem?_filter_of_keptFirst (h : KeptFirst kept l) (k : Nat) :
    (l.filter kept)[k]? = l[k]?.filter kept := by
  induction l generalizing k with
  | nil => rfl
  | cons a l ih =>
    have hrest : KeptFirst kept l := fun i j x y hij hi hj =>
      h (i + 1) (j + 1) x y (Nat.succ_lt_succ hij) hi hj
    cases ha : kept a with
    | true =>
      rw [List.filter_cons_of_pos ha]
      cases k with
      | zero => simp [Option.filter, ha]
      | succ k =>
        rw [List.getElem?_cons_succ, List.getElem?_cons_succ]
        exact ih hrest k
    | false =>
      -- nothing behind a dropped element is kept
      have hnone : ∀ b ∈ l, ¬ kept b = true := by
        intro b hb hkept
        obtain ⟨j, hj⟩ := List.mem_iff_getElem?.mp hb
        have hfirst := h 0 (j + 1) a b (Nat.succ_pos j) rfl hj hkept
        rw [ha] at hfirst
        cases hfirst
      rw [List.filter_cons_of_neg (by simp [ha]), List.filter_eq_nil_iff.mpr hnone]
      cases k with
      | zero => simp [Option.filter, ha]
      | succ k =>
        rw [List.getElem?_cons_succ, List.getElem?_nil]
        cases hk : l[k]? with
        | none => rfl
        | some b => simp [Option.filter, hnone b (List.mem_of_getElem? hk)]

theorem length_filter_le_of_lt {m : Nat}
    (h : ∀ (j : Nat) (b : α), l[j]? = some b → kept b = true → j < m) :
    (l.filter kept).length ≤ m := by
  have hbehind : (l.drop m).filter kept = [] := by
    rw [List.filter_eq_nil_iff]
    intro b hb hkept
    obtain ⟨j, hj⟩ := List.mem_iff_getElem?.mp hb
    rw [List.getElem?_drop] at hj
    have hlt := h _ b hj hkept
    omega
  rw [← List.take_append_drop m l, List.filter_append, hbehind, List.append_nil]
  exact Nat.le_trans (List.length_filter_le _ _) (List.length_take_le _ _)

/-- Kept elements that all still have something at their places come first. -/
theorem keptFirst_of_reached
    (h : ∀ (k : Nat) (a : α), l[k]? = some a → kept a = true →
      ((l.filter kept)[k]?).isSome = true) :
    KeptFirst kept l := by
  induction l with
  | nil =>
    intro i j a b _ hi
    cases hi
  | cons a l ih =>
    cases ha : kept a with
    | true =>
      have hrest := ih fun k b hk hb => by
        have hreached := h (k + 1) b hk hb
        rwa [List.filter_cons_of_pos ha, List.getElem?_cons_succ] at hreached
      intro i j x y hij hi hj hkept
      obtain ⟨j, rfl⟩ : ∃ j', j = j' + 1 := ⟨j - 1, by omega⟩
      cases i with
      | zero =>
        obtain rfl := Option.some_inj.mp hi
        exact ha
      | succ i => exact hrest i j x y (Nat.lt_of_succ_lt_succ hij) hi hj hkept
    | false =>
      -- each kept place is below the number of kept elements by two, so there is none
      have hlate : ∀ (j : Nat) (b : α), l[j]? = some b → kept b = true →
          j < (l.filter kept).length - 1 := by
        intro j b hj hb
        have hreached := h (j + 1) b hj hb
        rw [List.filter_cons_of_neg (by simp [ha])] at hreached
        obtain ⟨c, hc⟩ := Option.isSome_iff_exists.mp hreached
        have hlt := (List.getElem?_eq_some_iff.mp hc).1
        omega
      have hlen := length_filter_le_of_lt hlate
      intro i j x y hij hi hj hkept
      obtain ⟨j, rfl⟩ : ∃ j', j = j' + 1 := ⟨j - 1, by omega⟩
      have hlt := hlate j y hj hkept
      omega

end Filter

/-! ### The ports of the driver manager -/

namespace DriverManager

variable (io : IoMapConfig) (up : DriverInit)

theorem getElem?_addCan (cs : List CanPortCfg) (i k : Nat) :
    (addCan up.can i cs)[k]? = cs[k]?.map fun c =>
      if !c.enable then none else if !up.can (i + k) then none else some ⟨i + k, c⟩ := by
  induction cs generalizing i k with
  | nil => rfl
  | cons c cs ih =>
    cases k with
    | zero => rfl
    | succ k =>
      rw [addCan, List.getElem?_cons_succ, List.getElem?_cons_succ, ih,
        show i + 1 + k = i + (k + 1) by omega]

theorem canAt_init (k : Nat) :
    (init (some io) up).canAt k = io.can[k]?.filter fun c => c.enable && up.can k := by
  show ((addCan up.can 0 io.can).getD k none).map CanThread.port = _
  rw [List.getD_eq_getElem?_getD, getElem?_addCan, Nat.zero_add]
  cases io.can[k]? with
  | none => rfl
  | some c =>
    cases hc : c.enable with
    | false => simp [Option.filter, hc]
    | true => cases up.can k <;> simp [Option.filter, hc]

theorem threads_init (type : LinkType) :
    (init (some io) up).threads type = addSerial type (up.serial type) 0 (io.serial type) := by
  cases type <;> rfl

theorem serialAt_init (type : LinkType) (k : Nat) :
    (init (some io) up).serialAt type k =
      (io.serial type)[k]?.filter fun p => p.enable && up.serial type k := by
  unfold serialAt
  rw [threads_init]
  cases hfind : (addSerial type (up.serial type) 0 (io.serial type)).find?
      fun th => th.serialIndex = k with
  | none =>
    have habsent := List.find?_eq_none.mp hfind
    cases hp : (io.serial type)[k]? with
    | none => rfl
    | some p =>
      have hdown : ¬ (p.enable = true ∧ up.serial type k = true) := fun hup =>
        habsent ⟨type, k, p⟩ (mem_addSerial.mpr ⟨rfl, hp, hup.1, hup.2⟩) (decide_eq_true rfl)
      simp only [Option.map_none, Option.filter]
      rw [if_neg (by simpa using hdown)]
  | some th =>
    obtain ⟨-, hport, henable, hup⟩ := mem_addSerial.mp (List.mem_of_find?_eq_some hfind)
    have hk : th.serialIndex = k := by simpa using List.find?_some hfind
    rw [hk] at hport hup
    simp [hport, Option.filter, henable, hup]

end DriverManager

/-! ### Places after loading -/

namespace ConfigLoader

variable {file : IoMapConfig}

/-- A list that only loses elements behind the others keeps every port at its place. -/
theorem getElem?_filter_eq_some {α : Type} {kept : α → Bool} {l : List α}
    (h : KeptFirst kept l) {k : Nat} {a b : α} (ha : l[k]? = some a)
    (hb : (l.filter kept)[k]? = some b) : b = a := by
  rw [getElem?_filter_of_keptFirst h, ha] at hb
  exact (Option.some_inj.mp (Option.eq_some_of_filter_eq_some hb)).symm

theorem serial_keepEnabled (type : LinkType) :
    (keepEnabled file).serial type = (file.serial type).filter SerialPortCfg.kept := by
  cases type <;> rfl

theorem keepEnabled_can_of_ne_nil (h : file.can.filter CanPortCfg.kept ≠ []) :
    (keepEnabled file).can = file.can.filter CanPortCfg.kept := by
  show (if _ then _ else _) = _
  rw [if_neg (by simpa using h)]

theorem keepEnabled_can_of_eq_nil (h : file.can.filter CanPortCfg.kept = []) :
    (keepEnabled file).can = [defaultCan] := by
  show (if _ then _ else _) = _
  rw [h]
  rfl

theorem filter_ne_nil_of_kept {k : Nat} {c : CanPortCfg} (hc : file.can[k]? = some c)
    (hkept : c.kept = true) : file.can.filter CanPortCfg.kept ≠ [] :=
  List.ne_nil_of_mem (List.mem_filter.mpr ⟨List.mem_of_getElem? hc, hkept⟩)

/-- Ports that keep their places whatever drivers come up stand before the dropped ones. -/
theorem keptFirst_of_inPlace
    (h : ∀ up, InPlace file up (DriverManager.init (some (keepEnabled file)) up)) :
    KeptFirst CanPortCfg.kept file.can ∧
      ∀ type, KeptFirst SerialPortCfg.kept (file.serial type) := by
  have hall := h ⟨fun _ => true, fun _ => true, fun _ => true⟩
  constructor
  · apply keptFirst_of_reached
    intro k c hc hkept
    have hreached := hall.canReached k c hc hkept rfl
    rw [DriverManager.canAt_init, keepEnabled_can_of_ne_nil (filter_ne_nil_of_kept hc hkept)]
      at hreached
    exact Option.isSome_of_isSome_filter _ _ hreached
  · intro type
    apply keptFirst_of_reached
    intro k p hp hkept
    have hup : DriverInit.serial ⟨fun _ => true, fun _ => true, fun _ => true⟩ type k = true := by
      cases type with
      | rs485 => rfl
      | rs232 => rfl
      | _ => cases hp
    have hreached := hall.serialReached type k p hp hkept hup
    rw [DriverManager.serialAt_init, serial_keepEnabled] at hreached
    exact Option.isSome_of_isSome_filter _ _ hreached

theorem default_of_inPlace
    (h : ∀ up, InPlace file up (DriverManager.init (some (keepEnabled file)) up))
    (hnone : file.can.filter CanPortCfg.kept = []) : ∀ c ∈ file.can.head?, c.ifname = "can0" := by
  intro c hc
  rw [List.head?_eq_getElem?] at hc
  have hall := h ⟨fun _ => true, fun _ => true, fun _ => true⟩
  have hdefault : (DriverManager.init (some (keepEnabled file))
      ⟨fun _ => true, fun _ => true, fun _ => true⟩).canAt 0 = some defaultCan := by
    rw [DriverManager.canAt_init, keepEnabled_can_of_eq_nil hnone]
    rfl
  exact (hall.can 0 c defaultCan hc hdefault).symm

theorem inPlace_of_keptFirst (hcan : KeptFirst CanPortCfg.kept file.can)
    (hserial : ∀ type, KeptFirst SerialPortCfg.kept (file.serial type))
    (hdefault : file.can.filter CanPortCfg.kept = [] → ∀ c ∈ file.can.head?, c.ifname = "can0")
    (up : DriverInit) :
    InPlace file up (DriverManager.init (some (keepEnabled file)) up) where
  can k c q hc hq := by
    rw [DriverManager.canAt_init] at hq
    have hq := Option.eq_some_of_filter_eq_some hq
    by_cases hnone : file.can.filter CanPortCfg.kept = []
    · rw [keepEnabled_can_of_eq_nil hnone] at hq
      cases k with
      | zero =>
        obtain rfl := Option.some_inj.mp hq
        exact (hdefault hnone c (List.head?_eq_getElem? ▸ hc)).symm
      | succ k => cases hq
    · rw [keepEnabled_can_of_ne_nil hnone] at hq
      rw [getElem?_filter_eq_some hcan hc hq]
  serial type k p q hp hq := by
    rw [DriverManager.serialAt_init, serial_keepEnabled] at hq
    rw [getElem?_filter_eq_some (hserial type) hp (Option.eq_some_of_filter_eq_some hq)]
  canReached k c hc hkept hup := by
    have henable := (Bool.and_eq_true_iff.mp hkept).2
    rw [DriverManager.canAt_init, keepEnabled_can_of_ne_nil (filter_ne_nil_of_kept hc hkept),
      getElem?_filter_of_keptFirst hcan, hc, Option.filter_some_pos hkept,
      Option.filter_some_pos (by rw [henable, hup]; rfl)]
    rfl
  serialReached type k p hp hkept hup := by
    have henable := (Bool.and_eq_true_iff.mp hkept).2
    rw [DriverManager.serialAt_init, serial_keepEnabled,
      getElem?_filter_of_keptFirst (hserial type), hp, Option.filter_some_pos hkept,
      Option.filter_some_pos (by rw [henable, hup]; rfl)]
    rfl

/-- Every index means the port at its place in the file exactly when no list has a dropped
entry before a kept one, and a default port that stands in for dropped ones is the first of
them. -/
theorem inPlace_iff {j : Json} (hfile : listedPorts j = some file) :
    ∃ io, loadIoMap j = some io ∧
      ((∀ up, InPlace file up (DriverManager.init (some io) up)) ↔
        KeptFirst CanPortCfg.kept file.can ∧
        (file.can.filter CanPortCfg.kept = [] → ∀ c ∈ file.can.head?, c.ifname = "can0") ∧
        KeptFirst SerialPortCfg.kept file.rs485 ∧ KeptFirst SerialPortCfg.kept file.rs232) := by
  refine ⟨keepEnabled file, by rw [loadIoMap, hfile]; rfl, ?_⟩
  constructor
  · intro h
    obtain ⟨hcan, hserial⟩ := keptFirst_of_inPlace h
    exact ⟨hcan, default_of_inPlace h, hserial .rs485, hserial .rs232⟩
  · intro ⟨hcan, hdefault, hrs485, hrs232⟩
    refine inPlace_of_keptFirst hcan ?_ hdefault
    intro type
    cases type with
    | rs485 => exact hrs485
    | rs232 => exact hrs232
    | _ =>
      intro i k a b _ ha
      cases ha

/-- Two RS485 ports, the first switched off. -/
def firstOff : Json :=
  .object [("serial", .object [("rs485", .array [
    .object [("device", .string "/dev/ttyRS485-1"), ("enable", .boolean false)],
    .object [("device", .string "/dev/ttyRS485-2"), ("enable", .boolean true)]])])]

def firstOffPorts : IoMapConfig :=
  ⟨[], [⟨"", "/dev/ttyRS485-1", 9600, false⟩, ⟨"", "/dev/ttyRS485-2", 9600, true⟩], []⟩

theorem listedPorts_firstOff : listedPorts firstOff = some firstOffPorts := rfl

theorem inPlace_iff_firstOff : ∃ io, loadIoMap firstOff = some io ∧
    ((∀ up, InPlace firstOffPorts up (DriverManager.init (some io) up)) ↔
      KeptFirst CanPortCfg.kept firstOffPorts.can ∧
      (firstOffPorts.can.filter CanPortCfg.kept = [] →
        ∀ c ∈ firstOffPorts.can.head?, c.ifname = "can0") ∧
      KeptFirst SerialPortCfg.kept firstOffPorts.rs485 ∧
      KeptFirst SerialPortCfg.kept firstOffPorts.rs232) :=
  inPlace_iff listedPorts_firstOff

/-- The links of the first port reach the second, and those of the second none. -/
theorem firstOff_shifts :
    ∃ io, loadIoMap firstOff = some io ∧ listedPorts firstOff = some firstOffPorts ∧
      let up : DriverInit := ⟨fun _ => true, fun _ => true, fun _ => true⟩
      let d := DriverManager.init (some io) up
      (d.serialAt .rs485 0).map SerialPortCfg.device = some "/dev/ttyRS485-2" ∧
      (d.serialAt .rs485 1).map SerialPortCfg.device = none ∧ ¬ InPlace firstOffPorts up d := by
  refine ⟨_, rfl, rfl, rfl, rfl, ?_⟩
  intro h
  have hsame := h.serial .rs485 0 _ _ rfl rfl
  exact absurd hsame (by decide)

end ConfigLoader

end EnergyStorage
