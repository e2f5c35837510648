import Mathlib.Data.List.Basic
import EnergyStorage.Modbus.Crc

/-! # The ports that came up and the way to them

Each serial port reports what it receives under its place in the configuration; what is
sent goes to the place in the list of ports that came up. -/

namespace EnergyStorage

inductive LinkType
  | can
  | rs485
  | rs232
  | displayRs485
  | eth
  | unknown
  deriving DecidableEq

structure CanPortCfg where
  name : String
  ifname : String
  bitrate : Int
  enable : Bool

structure SerialPortCfg where
  name : String
  device : String
  baudrate : Int
  enable : Bool

structure IoMapConfig where
  can : List CanPortCfg
  rs485 : List SerialPortCfg
  rs232 : List SerialPortCfg

/-- The ports when the map cannot be loaded. -/
def fallbackIoMap : IoMapConfig where
  can := [⟨"can0", "can0", 125000, true⟩, ⟨"can1", "can1", 125000, true⟩,
    ⟨"can2", "can2", 500000, true⟩]
  rs485 := [⟨"rs485_1", "/dev/ttyRS485-1", 9600, true⟩,
    ⟨"rs485_2", "/dev/ttyRS485-2", 9600, true⟩, ⟨"rs485_3", "/dev/ttyRS485-3", 9600, true⟩,
    ⟨"rs485_4", "/dev/ttyRS485-4", 115200, true⟩]
  rs232 := [⟨"rs232_1", "/dev/ttyRS232-1", 2400, true⟩]

/-- Whether the driver of the port at each place of the map initialises. -/
structure DriverInit where
  can : Nat → Bool
  rs485 : Nat → Bool
  rs232 : Nat → Bool

structure CanThread where
  canIndex : Nat
  port : CanPortCfg

/-- A running port, with its place in the map. -/
structure SerialThread where
  type : LinkType
  serialIndex : Nat
  port : SerialPortCfg

structure SerialRxPacket where
  type : LinkType
  serialIndex : Int
  bytes : List Byte

/-- What the port reports to the parser. -/
def SerialThread.rxPacket (th : SerialThread) (bytes : List Byte) : SerialRxPacket :=
  ⟨th.type, th.serialIndex, bytes⟩

structure DriverManager where
  canThreads : List (Option CanThread)
  serialThreads : List SerialThread
  rs232Threads : List SerialThread

namespace DriverManager

/-- A place for each port of the map. -/
def addCan (up : Nat → Bool) : Nat → List CanPortCfg → List (Option CanThread)
  | _, [] => []
  | i, c :: cs =>
    (if !c.enable then none else if !up i then none else some ⟨i, c⟩) :: addCan up (i + 1) cs

/-- A port that is disabled or does not come up takes no place. -/
def addSerial (type : LinkType) (up : Nat → Bool) : Nat → List SerialPortCfg → List SerialThread
  | _, [] => []
  | i, p :: ps =>
    if !p.enable then addSerial type up (i + 1) ps
    else if !up i then addSerial type up (i + 1) ps
    else ⟨type, i, p⟩ :: addSerial type up (i + 1) ps

def init (loaded : Option IoMapConfig) (up : DriverInit) : DriverManager :=
  let io := loaded.getD fallbackIoMap
  ⟨addCan up.can 0 io.can, addSerial .rs485 up.rs485 0 io.rs485,
    addSerial .rs232 up.rs232 0 io.rs232⟩

/-- The port that a CAN frame goes to, or none for `false`. -/
def sendCan (d : DriverManager) (canIndex : Int) : Option CanThread :=
  if canIndex < 0 then none
  else if (d.canThreads.length : Int) ≤ canIndex then none
  else d.canThreads.getD canIndex.toNat none

/-- The port that the bytes go to, or none for `false`. -/
def sendSerial (d : DriverManager) (type : LinkType) (idx : Int) : Option SerialThread :=
  if idx < 0 then none
  else
    match type with
    | .rs485 =>
      if (d.serialThreads.length : Int) ≤ idx then none else d.serialThreads[idx.toNat]?
    | .rs232 =>
      if (d.rs232Threads.length : Int) ≤ idx then none else d.rs232Threads[idx.toNat]?
    | _ => none

end DriverManager

/-! ### What a consistent routing is -/

/-- The serial ports of a link type in the map. -/
def IoMapConfig.serial (io : IoMapConfig) : LinkType → List SerialPortCfg
  | .rs485 => io.rs485
  | .rs232 => io.rs232
  | _ => []

def DriverInit.serial (up : DriverInit) : LinkType → Nat → Bool
  | .rs485 => up.rs485
  | .rs232 => up.rs232
  | _ => fun _ => false

/-- The port at place `i` is enabled and has initialised. -/
def CameUp (ps : List SerialPortCfg) (up : Nat → Bool) (i : Nat) : Prop :=
  ∃ p, ps[i]? = some p ∧ p.enable = true ∧ up i = true

/-- What is sent goes to the port that reports under the same index, and no port that came
up is out of reach. -/
structure DriverManager.Routes (d : DriverManager) (io : IoMapConfig) (up : DriverInit) :
    Prop where
  sent : ∀ type k th, d.sendSerial type k = some th →
    ∀ bytes, th.rxPacket bytes = ⟨type, k, bytes⟩
  reached : ∀ type i, CameUp (io.serial type) (up.serial type) i →
    (d.sendSerial type i).isSome = true

/-- The ports that came up come before all others in the map. -/
def UpFirst (ps : List SerialPortCfg) (up : Nat → Bool) : Prop :=
  ∀ i j, i < j → CameUp ps up j → CameUp ps up i

/-! ### The list of the ports that came up -/

/-- A rising list of numbers that holds all the smaller ones counts from zero. -/
theorem getElem_of_closed {l : List Nat} (hl : l.Pairwise (· < ·))
    (hc : ∀ i j, i < j → j ∈ l → i ∈ l) {k : Nat} (hk : k < l.length) : l[k] = k := by
  induction k using Nat.strongRecOn with
  | ind k ih =>
    have hlt : ∀ m (hm : m < l.length), m < k → l[m] < l[k] := by
      intro m hm hmk
      exact List.pairwise_iff_getElem.mp hl m k hm hk hmk
    rcases Nat.lt_trichotomy l[k] k with h | h | h
    · have hsmall := hlt l[k] (by omega) h
      have hsame := ih l[k] h (by omega)
      omega
    · exact h
    · -- then `k` itself stands somewhere before
      obtain ⟨m, hm, heq⟩ := List.getElem_of_mem (hc k l[k] h (List.getElem_mem hk))
      rcases Nat.lt_trichotomy m k with hmk | hmk | hmk
      · have hsame := ih m hmk hm
        omega
      · subst hmk
        omega
      · have hrise := List.pairwise_iff_getElem.mp hl k m hk hm hmk
        omega

namespace DriverManager

/-- The ports of the list are those of the map that came up, in its order. -/
theorem addSerial_eq (type : LinkType) (up : Nat → Bool) (ps : List SerialPortCfg) (i : Nat) :
    addSerial type up i ps =
      ((ps.zipIdx i).filter fun q => q.1.enable && up q.2).map fun q => ⟨type, q.2, q.1⟩ := by
  induction ps generalizing i with
  | nil => rfl
  | cons p ps ih =>
    rw [addSerial, List.zipIdx_cons, List.filter_cons, ih]
    cases he : p.enable with
    | false => rfl
    | true =>
      cases hu : up i with
      | false => rfl
      | true => rfl

theorem mem_addSerial {type : LinkType} {up : Nat → Bool} {ps : List SerialPortCfg}
    {th : SerialThread} :
    th ∈ addSerial type up 0 ps ↔ th.type = type ∧ ps[th.serialIndex]? = some th.port ∧
      th.port.enable = true ∧ up th.serialIndex = true := by
  rw [addSerial_eq, List.mem_map]
  constructor
  · intro ⟨q, hq, hth⟩
    obtain ⟨hmem, hup⟩ := List.mem_filter.mp hq
    subst hth
    exact ⟨rfl, List.mem_zipIdx_iff_getElem?.mp hmem, (Bool.and_eq_true_iff.mp hup).1,
      (Bool.and_eq_true_iff.mp hup).2⟩
  · intro ⟨htype, hport, henable, hup⟩
    refine ⟨(th.port, th.serialIndex), ?_, by rw [← htype]⟩
    rw [List.mem_filter, henable, hup]
    exact ⟨List.mem_zipIdx_iff_getElem?.mpr hport, rfl⟩

/-- The ports keep the order of the map. -/
theorem addSerial_pairwise (type : LinkType) (up : Nat → Bool) (ps : List SerialPortCfg) :
    ((addSerial type up 0 ps).map SerialThread.serialIndex).Pairwise (· < ·) := by
  have hplaces : (ps.zipIdx.map Prod.snd).Pairwise (· < ·) := by
    rw [List.zipIdx_map_snd]
    exact List.pairwise_lt_range'
  rw [addSerial_eq, List.map_map]
  exact hplaces.sublist (List.filter_sublist.map _)

theorem cameUp_iff (type : LinkType) (ps : List SerialPortCfg) (up : Nat → Bool) (k : Nat) :
    CameUp ps up k ↔ k ∈ (addSerial type up 0 ps).map SerialThread.serialIndex := by
  rw [List.mem_map]
  constructor
  · intro ⟨p, hp, henable, hup⟩
    exact ⟨⟨type, k, p⟩, mem_addSerial.mpr ⟨rfl, hp, henable, hup⟩, rfl⟩
  · intro ⟨th, hth, hk⟩
    obtain ⟨-, hport, henable, hup⟩ := mem_addSerial.mp hth
    rw [hk] at hport hup
    exact ⟨th.port, hport, henable, hup⟩

/-- The ports stand at their own places exactly when those that came up come first. -/
theorem places_iff (type : LinkType) (ps : List SerialPortCfg) (up : Nat → Bool) :
    (∀ (k : Nat) (th : SerialThread), (addSerial type up 0 ps)[k]? = some th →
      th.serialIndex = k) ↔ UpFirst ps up := by
  constructor
  · intro h i j hij hj
    obtain ⟨th, hth, heq⟩ := List.mem_map.mp ((cameUp_iff type ps up j).mp hj)
    obtain ⟨k, hk, hget⟩ := List.getElem_of_mem hth
    have hkj : th.serialIndex = k := h k th (by rw [List.getElem?_eq_getElem hk, hget])
    have hi : i < (addSerial type up 0 ps).length := by omega
    apply (cameUp_iff type ps up i).mpr
    apply List.mem_map.mpr
    exact ⟨_, List.getElem_mem hi, h i _ (List.getElem?_eq_getElem hi)⟩
  · intro h k th hth
    obtain ⟨hk, hget⟩ := List.getElem?_eq_some_iff.mp hth
    have hsmaller : ∀ i j, i < j → j ∈ (addSerial type up 0 ps).map SerialThread.serialIndex →
        i ∈ (addSerial type up 0 ps).map SerialThread.serialIndex := by
      intro i j hij hj
      rw [← cameUp_iff] at hj ⊢
      exact h i j hij hj
    have hplace := getElem_of_closed (addSerial_pairwise type up ps) hsmaller (k := k)
      (by rw [List.length_map]; exact hk)
    rw [List.getElem_map, hget] at hplace
    exact hplace

/-! ### The routing -/

theorem sendSerial_init (loaded : Option IoMapConfig) (up : DriverInit) (type : LinkType)
    (k : Int) :
    (init loaded up).sendSerial type k =
      if k < 0 then none
      else (addSerial type (up.serial type) 0
        ((loaded.getD fallbackIoMap).serial type))[k.toNat]? := by
  unfold sendSerial
  by_cases hneg : k < 0
  · rw [if_pos hneg, if_pos hneg]
  · rw [if_neg hneg, if_neg hneg]
    have hbound : ∀ ths : List SerialThread,
        (if (ths.length : Int) ≤ k then none else ths[k.toNat]?) = ths[k.toNat]? := by
      intro ths
      split
      · exact (List.getElem?_eq_none (by omega)).symm
      · rfl
    cases type with
    | rs485 => exact hbound _
    | rs232 => exact hbound _
    | _ => rfl

/-- The routing is consistent exactly when, for both kinds of ports, those that came up
come first in the map. -/
theorem routes_iff (loaded : Option IoMapConfig) (up : DriverInit) :
    (init loaded up).Routes (loaded.getD fallbackIoMap) up ↔
      UpFirst (loaded.getD fallbackIoMap).rs485 up.rs485 ∧
        UpFirst (loaded.getD fallbackIoMap).rs232 up.rs232 := by
  constructor
  · intro h
    have hplaces : ∀ type, UpFirst ((loaded.getD fallbackIoMap).serial type)
        (up.serial type) := by
      intro type
      apply (places_iff type _ _).mp
      intro k th hth
      have hsend : (init loaded up).sendSerial type k = some th := by
        rw [sendSerial_init, if_neg (by omega), Int.toNat_natCast]
        exact hth
      have hpacket := h.sent type k th hsend []
      have hindex : (th.serialIndex : Int) = k := congrArg SerialRxPacket.serialIndex hpacket
      omega
    exact ⟨hplaces .rs485, hplaces .rs232⟩
  · intro h
    have hfirst : ∀ type, UpFirst ((loaded.getD fallbackIoMap).serial type)
        (up.serial type) := by
      intro type
      cases type with
      | rs485 => exact h.1
      | rs232 => exact h.2
      | _ =>
        intro i j hij hj
        obtain ⟨p, hp, -, -⟩ := hj
        cases hp
    have hplace := fun type => (places_iff type _ _).mpr (hfirst type)
    constructor
    · intro type k th hsend bytes
      rw [sendSerial_init] at hsend
      split_ifs at hsend with hneg
      have hindex := hplace type k.toNat th hsend
      obtain ⟨htype, -⟩ := mem_addSerial.mp (List.mem_of_getElem? hsend)
      have hk : (th.serialIndex : Int) = k := by omega
      rw [SerialThread.rxPacket, htype, hk]
    · intro type i hi
      obtain ⟨th, hth, heq⟩ := List.mem_map.mp ((cameUp_iff type _ _ i).mp hi)
      obtain ⟨k, hk, hget⟩ := List.getElem_of_mem hth
      have hki := hplace type k th (by rw [List.getElem?_eq_getElem hk, hget])
      have hik : i < (addSerial type (up.serial type) 0
          ((loaded.getD fallbackIoMap).serial type)).length := by omega
      rw [sendSerial_init, if_neg (by omega), Int.toNat_natCast, List.getElem?_eq_getElem hik]
      rfl

/-- The first of two ports is disabled: what is sent to its index goes to the second, and
the index of the second is refused. -/
theorem routes_past_disabled :
    let io : IoMapConfig := ⟨[], [⟨"a", "/dev/a", 9600, false⟩, ⟨"b", "/dev/b", 9600, true⟩], []⟩
    let up : DriverInit := ⟨fun _ => true, fun _ => true, fun _ => true⟩
    ¬ (init (some io) up).Routes io up ∧
      ((init (some io) up).sendSerial .rs485 0).map SerialThread.serialIndex = some 1 ∧
      ((init (some io) up).sendSerial .rs485 1).isSome = false := by
  intro io up
  refine ⟨?_, rfl, rfl⟩
  intro h
  have hreached := h.reached .rs485 1 ⟨_, rfl, rfl, rfl⟩
  exact absurd hreached (by decide)

end DriverManager
end EnergyStorage
