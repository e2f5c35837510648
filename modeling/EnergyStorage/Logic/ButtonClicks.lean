import EnergyStorage.Lib.Machine
import EnergyStorage.Logic.HmiInput

/-! # Clicks of the buttons of the panel

A button is pressed by a write other than zero and released by a zero.  The release after a press
is the click; what is written to the other addresses has no part in it. -/

namespace EnergyStorage
namespace Logic

open Lib (Dict Machine)

/-- A coil write, and the time that the engine has for it. -/
structure CoilWrite where
  eventTs : Nat
  w : HmiWriteEvent

def HmiControl.button (h : HmiControl) (addr : Nat) : HmiButtonState :=
  (h.hmiButtonStates.get addr).getD {}

/-- The item at the address, if it is a button. -/
def buttonItem (map : Option HmiMapModel) (addr : Nat) : Option HmiMappedWriteItem :=
  findHmiWriteItemByAddress map addr .boolRw

/-- The item whose click a coil write raises. -/
def clickOf (map : Option HmiMapModel) (w : HmiWriteEvent) (h : HmiControl) :
    Option HmiMappedWriteItem :=
  match buttonItem map w.startAddr with
  | none => none
  | some item =>
    if w.firstBitOrZero = 0 ∧ (h.button w.startAddr).isDown ∧ (h.button w.startAddr).armed then
      some item
    else none

/-- What a coil write does apart from its click. -/
def takeCoil (map : Option HmiMapModel) (w : HmiWriteEvent) (h : HmiControl) : HmiControl :=
  let st := h.button w.startAddr
  let h := { h with
    lastHmiValue := w.firstBitOrZero
    hmiCoilState := h.hmiCoilState.insert w.startAddr w.firstBitOrZero }
  match buttonItem map w.startAddr with
  | none => h
  | some _ =>
    { h with
      hmiButtonStates := h.hmiButtonStates.insert w.startAddr
        (if w.firstBitOrZero ≠ 0 then st.press w.tsMs else st.release w.tsMs) }

/-- The handler raises the click of `clickOf`, and no other. -/
theorem handleHmiCoilWrite_eq (map : Option HmiMapModel) (eventTs : Nat) (w : HmiWriteEvent)
    (h : HmiControl) :
    handleHmiCoilWrite map eventTs w h =
      match clickOf map w h with
      | none => takeCoil map w h
      | some item => onHmiButtonClick w.startAddr item.path item.name eventTs
          (takeCoil map w h) := by
  unfold handleHmiCoilWrite clickOf takeCoil buttonItem
  dsimp only
  cases findHmiWriteItemByAddress map w.startAddr .boolRw with
  | none => rfl
  | some item =>
    dsimp only
    by_cases hbit : w.firstBitOrZero = 0
    · rw [if_neg (not_not.mpr hbit), if_neg (not_not.mpr hbit)]
      show (if ((h.button w.startAddr).isDown && (h.button w.startAddr).armed) = true then _
        else _) = _
      by_cases hclick : (h.button w.startAddr).isDown ∧ (h.button w.startAddr).armed
      · rw [if_pos (Bool.and_eq_true_iff.mpr hclick), if_pos ⟨hbit, hclick⟩]
        rfl
      · rw [if_neg fun hand => hclick (Bool.and_eq_true_iff.mp hand),
          if_neg fun hand => hclick hand.2]
        rfl
    · rw [if_pos hbit, if_pos hbit, if_neg fun hand => hbit hand.1]
      rfl

/-- The buttons are not part of what a click does. -/
theorem onHmiButtonClick_button (addr : Nat) (path name : String) (eventTs : Nat)
    (h : HmiControl) (a : Nat) :
    (onHmiButtonClick addr path name eventTs h).button a = h.button a := by
  unfold onHmiButtonClick
  dsimp only
  split
  · rfl
  · split <;> rfl

/-- A coil write changes the button at its address, if there is one, and no other. -/
theorem handleHmiCoilWrite_button (map : Option HmiMapModel) (eventTs : Nat) (w : HmiWriteEvent)
    (h : HmiControl) (a : Nat) :
    (handleHmiCoilWrite map eventTs w h).button a =
      if a = w.startAddr ∧ (buttonItem map a).isSome then
        if w.firstBitOrZero ≠ 0 then (h.button a).press w.tsMs else (h.button a).release w.tsMs
      else h.button a := by
  have htake : (takeCoil map w h).button a =
      if a = w.startAddr ∧ (buttonItem map a).isSome then
        if w.firstBitOrZero ≠ 0 then (h.button a).press w.tsMs else (h.button a).release w.tsMs
      else h.button a := by
    unfold takeCoil
    dsimp only
    cases hitem : buttonItem map w.startAddr with
    | none =>
      have hno : ¬ (a = w.startAddr ∧ (buttonItem map a).isSome = true) := by
        rintro ⟨rfl, hsome⟩
        rw [hitem] at hsome
        cases hsome
      rw [if_neg hno]
      rfl
    | some item =>
      by_cases ha : a = w.startAddr
      · subst ha
        have hyes : w.startAddr = w.startAddr ∧ (buttonItem map w.startAddr).isSome = true :=
          ⟨rfl, by rw [hitem]; rfl⟩
        rw [if_pos hyes]
        show Option.getD ((Dict.insert h.hmiButtonStates w.startAddr _).get w.startAddr)
          ({} : HmiButtonState) = _
        rw [Dict.get_insert_self]
        rfl
      · have hno : ¬ (a = w.startAddr ∧ (buttonItem map a).isSome = true) := fun hand => ha hand.1
        rw [if_neg hno]
        show Option.getD ((Dict.insert h.hmiButtonStates w.startAddr _).get a)
          ({} : HmiButtonState) = _
        rw [Dict.get_insert_of_ne _ ha]
        rfl
  rw [handleHmiCoilWrite_eq, ← htake]
  split
  · rfl
  · exact onHmiButtonClick_button _ _ _ _ _ _

/-! ### Runs of coil writes -/

/-- A click, with the address and the item it is for. -/
structure Click where
  addr : Nat
  path : String
  name : String
  deriving DecidableEq

/-- The handler of coil writes, from a state in which no button has been touched. -/
def coilWrites (map : Option HmiMapModel) (h0 : HmiControl) :
    Machine HmiControl CoilWrite Click where
  start := { h0 with hmiButtonStates := Dict.empty }
  step h x := (handleHmiCoilWrite map x.eventTs x.w h,
    (clickOf map x.w h).toList.map fun item => ⟨x.w.startAddr, item.path, item.name⟩)

/-- Since the last zero written to the address, something else was written to it. -/
def PressedSinceZero (addr : Nat) (pre : List CoilWrite) : Prop :=
  ∃ before x after, pre = before ++ x :: after ∧ x.w.startAddr = addr ∧
    x.w.firstBitOrZero ≠ 0 ∧ ∀ y ∈ after, y.w.startAddr = addr → y.w.firstBitOrZero ≠ 0

section Runs

variable {map : Option HmiMapModel} {h0 : HmiControl}

/-- The two flags of a button are the same. -/
theorem isDown_eq_armed (pre : List CoilWrite) (a : Nat) :
    (((coilWrites map h0).run pre).button a).isDown =
      (((coilWrites map h0).run pre).button a).armed := by
  have hinv : (coilWrites map h0).Invariant
      fun h => ∀ a, (h.button a).isDown = (h.button a).armed := by
    constructor
    · exact fun _ => rfl
    · intro h x hsame a
      show ((handleHmiCoilWrite map x.eventTs x.w h).button a).isDown = _
      rw [show ((coilWrites map h0).step h x).1 = handleHmiCoilWrite map x.eventTs x.w h from rfl,
        handleHmiCoilWrite_button]
      split
      · split
        · unfold HmiButtonState.press
          split
          · rfl
          · exact hsame a
        · rfl
      · exact hsame a
  exact hinv.run pre a

/-- A button is down exactly when it was pressed since the last zero. -/
theorem isDown_iff {a : Nat} (ha : (buttonItem map a).isSome) (pre : List CoilWrite) :
    (((coilWrites map h0).run pre).button a).isDown ↔ PressedSinceZero a pre := by
  have hsince := (coilWrites map h0).flag_iff_since
    (fun h => (h.button a).isDown = true)
    (fun _ x => x.w.startAddr = a ∧ x.w.firstBitOrZero ≠ 0)
    (fun _ x => x.w.startAddr = a ∧ x.w.firstBitOrZero = 0) Bool.false_ne_true ?_ pre
  · rw [hsince]
    unfold Machine.Since PressedSinceZero
    refine exists_congr fun before => exists_congr fun x => exists_congr fun after => ?_
    rw [and_assoc]
    refine and_congr_right fun _ => and_congr_right fun _ => and_congr_right fun _ => ?_
    constructor
    · intro hquiet y hy hya hzero
      obtain ⟨mid, rest, hsplit⟩ := List.append_of_mem hy
      exact hquiet mid y rest hsplit ⟨hya, hzero⟩
    · rintro hquiet mid y rest hsplit ⟨hya, hzero⟩
      refine hquiet y ?_ hya hzero
      rw [hsplit]
      exact List.mem_append_right _ List.mem_cons_self
  · intro before x
    show ((handleHmiCoilWrite map x.eventTs x.w _).button a).isDown = true ↔ _
    rw [handleHmiCoilWrite_button]
    by_cases haddr : a = x.w.startAddr
    · rw [if_pos ⟨haddr, ha⟩]
      by_cases hbit : x.w.firstBitOrZero = 0
      · rw [if_neg (not_not.mpr hbit)]
        simp [HmiButtonState.release, haddr, hbit]
      · rw [if_pos hbit]
        unfold HmiButtonState.press
        split
        · simp [haddr, hbit]
        · rename_i hdown
          have hstays := not_not.mp hdown
          rw [haddr] at hstays ⊢
          simp [hbit, hstays]
    · rw [if_neg fun hand => haddr hand.1]
      simp [Ne.symm haddr]

end Runs

/-- A map with the two buttons of the high voltage. -/
def hvButtonMap : HmiMapModel where
  items := [{ type := .boolRw, hasAddr := true, addr := 0x10, path := hvOnPath, name := "hv on" },
    { type := .boolRw, hasAddr := true, addr := 0x11, path := hvOffPath, name := "hv off" }]
  rwItems := [0, 1]
  byAddr := (Dict.empty.insert 0x10 [0]).insert 0x11 [1]

def coilWrite (addr bit : Nat) : CoilWrite where
  eventTs := 5
  w := { startAddr := addr, bits := [bit], tsMs := 5 }

end Logic
end EnergyStorage
