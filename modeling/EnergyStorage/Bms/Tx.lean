import EnergyStorage.Bms.Proto

/-! # Building the command frame

The command of one instance is written signal by signal into an empty frame whose
identifier is the runtime identifier of that instance. -/

namespace EnergyStorage
namespace Bms

/-- The command of one instance. -/
structure V2bCmdFields where
  instanceIndex : Nat := 1
  canIndex : Int := 2
  lifeSignal : Nat := 0
  /-- `0` reserved, `1` power on, `2` power off, `3` invalid. -/
  hvOnoff : Nat := 2
  aux1Onoff : Nat := 0
  aux2Onoff : Nat := 0
  aux3Onoff : Nat := 0
  vehicleSpeed : Nat := 0
  mainPosRelaySt : Nat := 0
  mainPosRelayFlt : Nat := 0
  mainNegRelaySt : Nat := 0
  mainNegRelayFlt : Nat := 0
  chrgPosRelaySt : Nat := 0
  chrgPosRelayFlt : Nat := 0
  heatPosRelaySt : Nat := 0
  heatPosRelayFlt : Nat := 0
  heatNegRelaySt : Nat := 0
  heatNegRelayFlt : Nat := 0
  aux1RelaySt : Nat := 0
  aux1RelayFlt : Nat := 0
  aux2RelaySt : Nat := 0
  aux2RelayFlt : Nat := 0
  aux3RelaySt : Nat := 0
  aux3RelayFlt : Nat := 0
  aux4RelaySt : Nat := 0
  aux4RelayFlt : Nat := 0
  reserved1 : Nat := 0
  reserved2 : Nat := 0
  prechgRelaySt : Nat := 0
  prechgRelayFlt : Nat := 0
  systemEnable : Nat := 0
  source : String := "logic"
  requestTsMs : Nat := 0
  valid : Bool := true

/-- The signals of the command in the order they are packed. -/
def V2bCmdFields.signals (cmd : V2bCmdFields) : List (String × Nat) :=
  [ ("V2B_CMD_LifeSignal", cmd.lifeSignal),
    ("V2B_CMD_HV_OnOff", cmd.hvOnoff),
    ("V2B_CMD_Aux1OnOff", cmd.aux1Onoff),
    ("V2B_CMD_Aux2OnOff", cmd.aux2Onoff),
    ("V2B_CMD_Aux3OnOff", cmd.aux3Onoff),
    ("V2B_CMD_VehicleSpeed", cmd.vehicleSpeed),
    ("V2B_CMD_MainPosRelayST", cmd.mainPosRelaySt),
    ("V2B_CMD_MainPosRelayFlt", cmd.mainPosRelayFlt),
    ("V2B_CMD_MainNegRelayST", cmd.mainNegRelaySt),
    ("V2B_CMD_MainNegRelayFlt", cmd.mainNegRelayFlt),
    ("V2B_CMD_ChrgPosRelayST", cmd.chrgPosRelaySt),
    ("V2B_CMD_ChrgPosRelayFlt", cmd.chrgPosRelayFlt),
    ("V2B_CMD_HeatPosRelayST", cmd.heatPosRelaySt),
    ("V2B_CMD_HeatPosRelayFlt", cmd.heatPosRelayFlt),
    ("V2B_CMD_HeatNegRelayST", cmd.heatNegRelaySt),
    ("V2B_CMD_HeatNegRelayFlt", cmd.heatNegRelayFlt),
    ("V2B_CMD_Aux1RelayST", cmd.aux1RelaySt),
    ("V2B_CMD_Aux1RelayFlt", cmd.aux1RelayFlt),
    ("V2B_CMD_Aux2RelayST", cmd.aux2RelaySt),
    ("V2B_CMD_Aux2RelayFlt", cmd.aux2RelayFlt),
    ("V2B_CMD_Aux3RelayST", cmd.aux3RelaySt),
    ("V2B_CMD_Aux3RelayFlt", cmd.aux3RelayFlt),
    ("V2B_CMD_Aux4RelayST", cmd.aux4RelaySt),
    ("V2B_CMD_Aux4RelayFlt", cmd.aux4RelayFlt),
    ("V2B_CMD_Reserved1", cmd.reserved1),
    ("V2B_CMD_Reserved2", cmd.reserved2) ]

/-- The transmitter.  The signals of its message are looked up again where the
program keeps pointers to them. -/
structure BmsTx where
  v2bCmdId29 : BitVec 32 := 0x1802F3EF#32
  v2bMsg : Option MessageDef := none
  u8Overrides : List (String × Nat) := []

namespace BmsTx

open TableRuntime FrameRouter
open Lib

/-- Binding fails without the message or its life signal. -/
def bindSignals (tx : BmsTx) : BmsTx × Bool :=
  match findMessage (normalizeToProtoId tx.v2bCmdId29) with
  | none => ({ tx with v2bMsg := none }, false)
  | some msg => ({ tx with v2bMsg := some msg }, (findSignal msg "V2B_CMD_LifeSignal").isSome)

def init (tx : BmsTx) (v2bCmdId29 : BitVec 32) : BmsTx × Bool :=
  bindSignals { tx with v2bCmdId29 := v2bCmdId29 }

def packBitsLsb (data : BitVec 64) (startLsb len value : Nat) : BitVec 64 :=
  if len = 0 ∨ 64 ≤ startLsb then data
  else
    let len := if startLsb + len > 64 then 64 - startLsb else len
    BitField.write data startLsb len value

def packSignal (msg : MessageDef) (data : BitVec 64) (nv : String × Nat) : BitVec 64 :=
  match findSignal msg nv.1 with
  | some sig => packBitsLsb data sig.startbitLsb sig.length nv.2
  | none => data

/-- Overrides are bytes: a longer signal is left alone. -/
def packOverride (msg : MessageDef) (data : BitVec 64) (nv : String × Nat) : BitVec 64 :=
  match findSignal msg nv.1 with
  | some sig => if sig.length > 8 then data else packBitsLsb data sig.startbitLsb sig.length nv.2
  | none => data

def buildFrameForInstance (tx : BmsTx) (cmd : V2bCmdFields) : Option CanFrame :=
  if ¬ cmd.valid then none
  else
    match tx.v2bMsg with
    | none => none
    | some msg =>
      if (findSignal msg "V2B_CMD_LifeSignal").isNone then none
      else some
        { canId := canEffFlag ||| rewriteRuntimeId tx.v2bCmdId29 cmd.instanceIndex
          canDlc := 8
          data := tx.u8Overrides.foldl (packOverride msg)
            (cmd.signals.foldl (packSignal msg) 0#64) }

/-! ### Reading the command back -/

theorem packBitsLsb_eq_write (data : BitVec 64) (sig : SignalDef) (value : Nat) :
    packBitsLsb data sig.startbitLsb sig.length value =
      BitField.write data sig.startbitLsb sig.length value := by
  obtain ⟨hpos, -, hend⟩ := sig.fits
  rw [packBitsLsb, if_neg (by omega)]
  simp only [if_neg (show ¬ sig.startbitLsb + sig.length > 64 by omega)]

/-- A field survives packing signals it does not overlap. -/
theorem read_foldl_packSignal {msg : MessageDef} {start len : Nat} {l : List (String × Nat)}
    (h : ∀ nv ∈ l, ∀ sig ∈ findSignal msg nv.1,
      BitField.Disjoint start len sig.startbitLsb sig.length) (data : BitVec 64) :
    BitField.read (l.foldl (packSignal msg) data) start len = BitField.read data start len := by
  induction l generalizing data with
  | nil => rfl
  | cons nv l ih =>
    rw [List.foldl_cons, ih fun nv' h' => h nv' (List.mem_cons_of_mem nv h'), packSignal]
    cases hs : findSignal msg nv.1 with
    | none => rfl
    | some sig =>
      simp only [packBitsLsb_eq_write]
      exact BitField.read_write_disjoint _ (h nv List.mem_cons_self sig hs) _

/-- A signal that the later ones leave alone is read back modulo its width. -/
theorem read_packed_signal {msg : MessageDef} {sig : SignalDef} {n : String} {v : Nat}
    (pre : List (String × Nat)) {post : List (String × Nat)} (hsig : findSignal msg n = some sig)
    (h : ∀ nv ∈ post, ∀ s ∈ findSignal msg nv.1,
      BitField.Disjoint sig.startbitLsb sig.length s.startbitLsb s.length) (data : BitVec 64) :
    BitField.read ((pre ++ (n, v) :: post).foldl (packSignal msg) data)
      sig.startbitLsb sig.length = v % 2 ^ sig.length := by
  rw [List.foldl_append, List.foldl_cons, read_foldl_packSignal h, packSignal, hsig]
  simp only [packBitsLsb_eq_write]
  exact BitField.read_write_same _ sig.fits.2.2 v

/-- The command message of the table. -/
def v2bMessage : MessageDef :=
  ⟨"V2B_CMD", 0x1802F3EF#32, 8, 0, 100, "VCU", "BMU", kSignalsV2BCMD⟩

/-- A transmitter bound to the command message under its template identifier. -/
structure Bound (tx : BmsTx) : Prop where
  id : tx.v2bCmdId29 = 0x1802F3EF#32
  msg : tx.v2bMsg = some v2bMessage
  overrides : tx.u8Overrides = []

theorem findMessage_v2b : findMessage (normalizeToProtoId 0x1802F3EF#32) = some v2bMessage := by
  decide

theorem findSignal_life : (findSignal v2bMessage "V2B_CMD_LifeSignal").isSome = true := by
  decide

/-- Initialisation with the default identifier binds. -/
theorem init_bound {tx : BmsTx} (h : tx.u8Overrides = []) :
    Bound (init tx 0x1802F3EF#32).1 ∧ (init tx 0x1802F3EF#32).2 = true := by
  simp only [init, bindSignals, findMessage_v2b]
  exact ⟨⟨rfl, rfl, h⟩, findSignal_life⟩

/-- The bits of the high-voltage command in a frame. -/
def hvOf (fr : CanFrame) : Nat := BitField.read fr.data 8 2

theorem v2bHvSignal_fits : 0 < 2 ∧ 2 < 64 ∧ 8 + 2 ≤ 64 := by decide

def v2bHvSignal : SignalDef :=
  .mk "V2B_CMD_HV_OnOff" 8 2 1 0 0 3
    [(0, "Reserved"), (1, "PowerOn"), (2, "PowerOff"), (3, "Invalid")] v2bHvSignal_fits

theorem findSignal_hv : findSignal v2bMessage "V2B_CMD_HV_OnOff" = some v2bHvSignal := by
  decide

theorem signals_after_hv_disjoint (cmd : V2bCmdFields) :
    ∀ nv ∈ cmd.signals.drop 2, ∀ s ∈ findSignal v2bMessage nv.1,
      BitField.Disjoint 8 2 s.startbitLsb s.length := by
  have hnames : ∀ n ∈ (({} : V2bCmdFields).signals.drop 2).map Prod.fst,
      ∀ s ∈ findSignal v2bMessage n, BitField.Disjoint 8 2 s.startbitLsb s.length := by
    decide
  have hmap : (cmd.signals.drop 2).map Prod.fst =
      (({} : V2bCmdFields).signals.drop 2).map Prod.fst := rfl
  intro nv hnv
  exact hnames nv.1 (hmap ▸ List.mem_map_of_mem hnv)

section Bound

variable {tx : BmsTx} (htx : Bound tx) {cmd : V2bCmdFields}

include htx

theorem Bound.build_isSome (hcmd : cmd.valid = true) :
    ∃ fr, buildFrameForInstance tx cmd = some fr := by
  have hlife : (findSignal v2bMessage "V2B_CMD_LifeSignal").isNone = false := by
    rw [← Option.not_isSome, findSignal_life]
    rfl
  simp [buildFrameForInstance, hcmd, htx.msg, hlife]

theorem Bound.hvOf_build {fr : CanFrame} (h : buildFrameForInstance tx cmd = some fr) :
    hvOf fr = cmd.hvOnoff % 4 := by
  simp only [buildFrameForInstance, htx.msg, htx.overrides, List.foldl_nil] at h
  split at h
  · cases h
  · split at h
    · cases h
    · obtain rfl := Option.some_inj.mp h
      have hsplit : cmd.signals = [("V2B_CMD_LifeSignal", cmd.lifeSignal)] ++
          ("V2B_CMD_HV_OnOff", cmd.hvOnoff) :: cmd.signals.drop 2 := rfl
      have hread := read_packed_signal (v := cmd.hvOnoff)
        [("V2B_CMD_LifeSignal", cmd.lifeSignal)] findSignal_hv (signals_after_hv_disjoint cmd) 0#64
      rw [hvOf, hsplit]
      exact hread

theorem Bound.canId_build {fr : CanFrame} (h : buildFrameForInstance tx cmd = some fr) :
    fr.canId = canEffFlag ||| rewriteRuntimeId 0x1802F3EF#32 cmd.instanceIndex := by
  simp only [buildFrameForInstance, htx.msg, htx.id] at h
  split at h
  · cases h
  · split at h
    · cases h
    · obtain rfl := Option.some_inj.mp h
      rfl

end Bound

/-- The instance a runtime identifier names. -/
def instanceOf (fr : CanFrame) : Nat := extractInstanceIndex fr.id29

theorem Bound.instanceOf_build {tx : BmsTx} (htx : Bound tx) {cmd : V2bCmdFields}
    {fr : CanFrame} (hidx : isValidInstance cmd.instanceIndex = true)
    (h : buildFrameForInstance tx cmd = some fr) : instanceOf fr = cmd.instanceIndex := by
  rw [instanceOf, CanFrame.id29, htx.canId_build h]
  exact valid_cases (P := fun i => extractInstanceIndex
    ((canEffFlag ||| rewriteRuntimeId 0x1802F3EF#32 i) &&& canEffMask) = i)
    (by decide) (by decide +kernel) (by decide +kernel) (by decide +kernel) hidx

/-- What the frame of a valid command says. -/
theorem Bound.build {tx : BmsTx} (htx : Bound tx) (cmd : V2bCmdFields)
    (hvalid : cmd.valid = true) (hidx : isValidInstance cmd.instanceIndex = true) :
    ∃ fr, buildFrameForInstance tx cmd = some fr ∧ instanceOf fr = cmd.instanceIndex ∧
      hvOf fr = cmd.hvOnoff % 4 := by
  obtain ⟨fr, hfr⟩ := htx.build_isSome hvalid
  exact ⟨fr, hfr, htx.instanceOf_build hidx hfr, htx.hvOf_build hfr⟩

end BmsTx
end Bms
end EnergyStorage
