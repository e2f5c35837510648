import EnergyStorage.Maintain.Service

/-! # Settings, file and commands stay together

Whatever is written on the panel, and whichever saves fail: the settings in memory are the ones
saved last, a command repeats a setting that has just been saved, and a new password is put
together from two words that were written as such. -/

namespace EnergyStorage
namespace Maintain

open Lib (Machine)

namespace MaintainService

/-- The settings that are in the file after the effects, none if it is left as it was. -/
def savedIn (effects : List Effect) : Option MaintainConfig :=
  effects.findSome? fun
    | .save cfg true => some cfg
    | _ => none

/-- The command tells a device a setting of `cfg`. -/
def Carries (links : MaintainLinkState) (cfg : MaintainConfig) (cmd : SendSerialRawCmd) : Prop :=
  cmd = { linkType := .rs232
          index := links.upsRs232Index
          bytes := buildShutdownCmd (formatUpsShutdownDelay cfg.upsShutdownTime) } ∨
  cmd = { linkType := .rs485
          index := links.airRs485Index
          bytes := buildWriteSingleLoHi links.airSlaveId kAirRegCoolPointC cfg.airconSetTemp } ∨
  cmd = { linkType := .rs485
          index := links.airRs485Index
          bytes := buildWriteSingleLoHi links.airSlaveId kAirRegHighHumPct cfg.airconSetHumidity }

/-! ### What one write does -/

/-- Memory and file agree again, a save is told as it ended, and a command follows the save of its
setting. -/
structure Keeps (s : MaintainService) (saves : Bool) (r : MaintainService × List Effect) :
    Prop where
  told : ∀ cfg ok, .save cfg ok ∈ r.2 → ok = saves
  saved : ∀ cfg ∈ savedIn r.2, makeConfigFromContext r.1.storage = cfg
  restored : savedIn r.2 = none → r.1.storage = s.storage
  queued : ∀ cmd, .queue cmd ∈ r.2 →
    ∃ cfg, r.2 = [.save cfg true, .queue cmd] ∧ Carries s.links cfg cmd
  links : r.1.links = s.links
  map : r.1.map = s.map

/-- Effects that neither save nor queue. -/
def Quiet (effects : List Effect) : Prop := ∀ e ∈ effects, ∃ addr value, e = .setIntRw addr value

theorem Quiet.savedIn {effects : List Effect} (h : Quiet effects) : savedIn effects = none := by
  rw [MaintainService.savedIn, List.findSome?_eq_none_iff]
  intro e he
  obtain ⟨addr, value, rfl⟩ := h e he
  rfl

theorem Quiet.not_queue {effects : List Effect} (h : Quiet effects) (cmd : SendSerialRawCmd) :
    Effect.queue cmd ∉ effects := by
  intro hmem
  obtain ⟨_, _, he⟩ := h _ hmem
  cases he

theorem Quiet.not_save {effects : List Effect} (h : Quiet effects) (cfg : MaintainConfig)
    (ok : Bool) : Effect.save cfg ok ∉ effects := by
  intro hmem
  obtain ⟨_, _, he⟩ := h _ hmem
  cases he

theorem quiet_nil : Quiet [] := by
  intro e he
  cases he

theorem quiet_syncPasswordToHmi (s : MaintainService) : Quiet (syncPasswordToHmi s) := by
  rw [syncPasswordToHmi]
  split
  · exact quiet_nil
  split
  · exact quiet_nil
  split
  · exact quiet_nil
  intro e he
  obtain rfl | he := List.mem_cons.mp he
  · exact ⟨_, _, rfl⟩
  · exact ⟨_, _, List.mem_singleton.mp he⟩

theorem keeps_of_quiet {s s' : MaintainService} {saves : Bool} {effects : List Effect}
    (h : Quiet effects) (hstorage : s'.storage = s.storage) (hlinks : s'.links = s.links)
    (hmap : s'.map = s.map) : Keeps s saves (s', effects) where
  told cfg ok hmem := absurd hmem (h.not_save cfg ok)
  saved cfg hcfg := by
    rw [h.savedIn] at hcfg
    cases hcfg
  restored _ := hstorage
  queued cmd hmem := absurd hmem (h.not_queue cmd)
  links := hlinks
  map := hmap

variable {set : MaintainStorageState → MaintainStorageState}
  {after failed : MaintainService → List Effect} {tsMs : Nat} {saves : Bool} {s : MaintainService}

/-- What may follow a save: at most a command that carries a setting of what has been saved. -/
def Follows (after : MaintainService → List Effect) (s : MaintainService) : Prop :=
  Quiet (after s) ∨
    ∃ cmd, after s = [.queue cmd] ∧ Carries s.links (makeConfigFromContext s.storage) cmd

theorem Follows.not_save (h : Follows after s) (cfg : MaintainConfig) (ok : Bool) :
    Effect.save cfg ok ∉ after s := by
  rcases h with hquiet | ⟨cmd, hcmd, -⟩
  · exact hquiet.not_save cfg ok
  · rw [hcmd, List.mem_singleton]
    exact Effect.noConfusion

theorem applySetting_keeps (hafter : ∀ s', s'.links = s.links → s'.storage =
      { set s.storage with lastUpdateTsMs := tsMs, loadedFromFile := true } → Follows after s')
    (hfailed : Quiet (failed s)) :
    Keeps s saves (applySetting set after failed tsMs saves s) := by
  rw [applySetting]
  dsimp only
  split
  · exact keeps_of_quiet hfailed rfl rfl rfl
  by_cases hsaves : saves = true
  · rw [if_pos hsaves]
    have hfollows := hafter { s with storage :=
      { set s.storage with lastUpdateTsMs := tsMs, loadedFromFile := true } } rfl rfl
    refine ⟨fun cfg ok hmem => ?_, fun cfg hcfg => ?_, fun h => ?_, fun cmd hmem => ?_, rfl, rfl⟩
    · rcases List.mem_cons.mp hmem with he | hmem
      · cases he
        exact hsaves.symm
      · exact absurd hmem (hfollows.not_save cfg ok)
    · exact Option.some_inj.mp hcfg
    · cases h
    · obtain he | hmem := List.mem_cons.mp hmem
      · cases he
      obtain hquiet | ⟨cmd', hcmd, hcarries⟩ := hfollows
      · exact absurd hmem (hquiet.not_queue cmd)
      · rw [hcmd] at hmem ⊢
        obtain he := List.mem_singleton.mp hmem
        cases he
        exact ⟨_, rfl, hcarries⟩
  · rw [if_neg hsaves]
    have hsaved : savedIn (.save (makeConfigFromContext
        { set s.storage with lastUpdateTsMs := tsMs }) false :: failed s) = none := hfailed.savedIn
    refine ⟨fun cfg ok hmem => ?_, fun cfg hcfg => ?_, fun _ => rfl, fun cmd hmem => ?_, rfl, rfl⟩
    · rcases List.mem_cons.mp hmem with he | hmem
      · cases he
        exact (Bool.eq_false_iff.mpr hsaves).symm
      · exact absurd hmem (hfailed.not_save cfg ok)
    · rw [hsaved] at hcfg
      cases hcfg
    · obtain he | hmem := List.mem_cons.mp hmem
      · cases he
      · exact absurd hmem (hfailed.not_queue cmd)

theorem follows_emitAirconWriteSingle {reg value : Word}
    (h : ∀ bytes, bytes = buildWriteSingleLoHi s.links.airSlaveId reg value →
      Carries s.links (makeConfigFromContext s.storage)
        { linkType := .rs485, index := s.links.airRs485Index, bytes }) :
    Follows (fun s => emitAirconWriteSingle s.links reg value) s := by
  unfold Follows emitAirconWriteSingle
  dsimp only
  split
  · exact Or.inl quiet_nil
  split
  · exact Or.inl quiet_nil
  · exact Or.inr ⟨_, rfl, h _ rfl⟩

theorem follows_emitUpsShutdownCommand {minutes : Word}
    (h : ∀ bytes, bytes = buildShutdownCmd (formatUpsShutdownDelay minutes) →
      Carries s.links (makeConfigFromContext s.storage)
        { linkType := .rs232, index := s.links.upsRs232Index, bytes }) :
    Follows (fun s => emitUpsShutdownCommand s.links minutes) s := by
  unfold Follows emitUpsShutdownCommand
  dsimp only
  split
  · exact Or.inl quiet_nil
  split
  · exact Or.inl quiet_nil
  split
  · exact Or.inl quiet_nil
  split
  · exact Or.inl quiet_nil
  · exact Or.inr ⟨_, rfl, h _ rfl⟩

theorem applyNewPassword_keeps (s : MaintainService) (newPassword : BitVec 32) (tsMs : Nat)
    (saves : Bool) : Keeps s saves (applyNewPassword newPassword tsMs saves s) :=
  applySetting_keeps (fun s' _ _ => Or.inl (quiet_syncPasswordToHmi s'))
    (quiet_syncPasswordToHmi s)

/-- A handler of one setting keeps the settings in step, and leaves the password alone. -/
def SettingOnly (apply : Word → Nat → Bool → MaintainService → MaintainService × List Effect) :
    Prop :=
  ∀ value tsMs saves s, Keeps s saves (apply value tsMs saves s) ∧
    (apply value tsMs saves s).1.storage.currentPassword = s.storage.currentPassword ∧
    (apply value tsMs saves s).1.passwordWrite = s.passwordWrite

theorem applySetting_passwordWrite (set : MaintainStorageState → MaintainStorageState)
    (after failed : MaintainService → List Effect) (tsMs : Nat) (saves : Bool)
    (s : MaintainService) :
    (applySetting set after failed tsMs saves s).1.passwordWrite = s.passwordWrite := by
  rw [applySetting]
  dsimp only
  split
  · rfl
  split <;> rfl

/-- The settings are as they were or as the change makes them. -/
theorem applySetting_storage (set : MaintainStorageState → MaintainStorageState)
    (after failed : MaintainService → List Effect) (tsMs : Nat) (saves : Bool)
    (s : MaintainService) :
    (applySetting set after failed tsMs saves s).1.storage = s.storage ∨
      (applySetting set after failed tsMs saves s).1.storage =
        { set s.storage with lastUpdateTsMs := tsMs, loadedFromFile := true } := by
  rw [applySetting]
  dsimp only
  split
  · exact Or.inl rfl
  split
  · exact Or.inr rfl
  · exact Or.inl rfl

theorem applySetting_password (h : ∀ st, (set st).currentPassword = st.currentPassword) :
    (applySetting set after failed tsMs saves s).1.storage.currentPassword =
      s.storage.currentPassword := by
  obtain hsame | hset := applySetting_storage set after failed tsMs saves s
  · rw [hsame]
  · rw [hset]
    exact h s.storage

theorem applyBoxId_settingOnly : SettingOnly applyBoxId := fun _ _ _ _ =>
  ⟨applySetting_keeps (fun _ _ _ => Or.inl quiet_nil) quiet_nil,
    applySetting_password fun _ => rfl, applySetting_passwordWrite _ _ _ _ _ _⟩

theorem applyUpsShutdownTime_settingOnly : SettingOnly applyUpsShutdownTime := by
  intro minutes tsMs saves s
  refine ⟨applySetting_keeps ?_ quiet_nil, applySetting_password fun _ => rfl,
    applySetting_passwordWrite _ _ _ _ _ _⟩
  intro s' _ hstorage
  refine follows_emitUpsShutdownCommand fun bytes hbytes => Or.inl ?_
  rw [hbytes, hstorage]
  rfl

theorem applyAirconTemp_settingOnly : SettingOnly applyAirconTemp := by
  intro tempC tsMs saves s
  refine ⟨applySetting_keeps ?_ quiet_nil, applySetting_password fun _ => rfl,
    applySetting_passwordWrite _ _ _ _ _ _⟩
  intro s' _ hstorage
  refine follows_emitAirconWriteSingle fun bytes hbytes => Or.inr (Or.inl ?_)
  rw [hbytes, hstorage]
  rfl

theorem applyAirconHumidity_settingOnly : SettingOnly applyAirconHumidity := by
  intro humidityPct tsMs saves s
  refine ⟨applySetting_keeps ?_ quiet_nil, applySetting_password fun _ => rfl,
    applySetting_passwordWrite _ _ _ _ _ _⟩
  intro s' _ hstorage
  refine follows_emitAirconWriteSingle fun bytes hbytes => Or.inr (Or.inr ?_)
  rw [hbytes, hstorage]
  rfl

/-! ### The words of the password -/

/-- What a write tells of a new password. -/
inductive PasswordPart
  | pair (hi lo : Word)
  | high (hi : Word)
  | low (lo : Word)

def passwordPart (ep : MaintainEndpoint) (w : HmiWriteEvent) : Option PasswordPart :=
  if ¬ isAddrInEndpoint ep w.startAddr ∨ ¬ isRegWrite w ∨ ep.words < 2 then none
  else if w.startAddr = ep.addr ∧ 2 ≤ w.regs.length then
    some (.pair (w.regs.getD 0 0) (w.regs.getD 1 0))
  else if w.startAddr = ep.addr then some (.high (firstRegOrZero w))
  else if w.startAddr = ep.addr + 1 then some (.low (firstRegOrZero w))
  else none

def takePart (s : MaintainService) (tsMs : Nat) (saves : Bool) :
    PasswordPart → MaintainService × List Effect
  | .pair hi lo =>
    applyNewPassword (joinWordsHiLo hi lo) tsMs saves
      { s with passwordWrite := s.passwordWrite.clearPending }
  | .high hi =>
    ({ s with passwordWrite := { s.passwordWrite with
        pendingHiValid := true, pendingHi := hi, pendingHiTsMs := tsMs } }, [])
  | .low lo =>
    let pending := s.passwordWrite
    if ¬ pending.pendingHiValid then (s, [])
    else
      let s := { s with passwordWrite := pending.clearPending }
      if pending.pendingHiTsMs ≤ tsMs ∧ pending.pendingTimeoutMs < tsMs - pending.pendingHiTsMs then
        (s, [])
      else applyNewPassword (joinWordsHiLo pending.pendingHi lo) tsMs saves s

theorem valid_of_isAddrInEndpoint {ep : MaintainEndpoint} {addr : Word}
    (h : isAddrInEndpoint ep addr) : ep.valid := by
  rw [isAddrInEndpoint, Bool.and_eq_true, Bool.and_eq_true] at h
  exact h.1.1

theorem handlePasswordSetWrite_eq (s : MaintainService) (w : HmiWriteEvent) (saves : Bool) :
    handlePasswordSetWrite s w saves =
      match passwordPart s.map.passwordNew1 w with
      | some part => some (takePart s w.tsMs saves part)
      | none =>
        if isAddrInEndpoint s.map.passwordNew1 w.startAddr then some (s, []) else none := by
  unfold handlePasswordSetWrite passwordPart
  dsimp only
  by_cases hin : isAddrInEndpoint s.map.passwordNew1 w.startAddr = true
  · rw [if_neg (not_not.mpr (valid_of_isAddrInEndpoint hin)), if_neg (not_not.mpr hin)]
    by_cases hreg : isRegWrite w = true
    · rw [if_neg (not_not.mpr hreg)]
      by_cases hwords : s.map.passwordNew1.words < 2
      · rw [if_pos hwords, if_pos (Or.inr (Or.inr hwords)), if_pos hin]
      · rw [if_neg hwords,
          if_neg (not_or.mpr ⟨not_not.mpr hin, not_or.mpr ⟨not_not.mpr hreg, hwords⟩⟩)]
        by_cases hpair : w.startAddr = s.map.passwordNew1.addr ∧ 2 ≤ w.regs.length
        · rw [if_pos hpair, if_pos hpair]
          rfl
        rw [if_neg hpair, if_neg hpair]
        by_cases hhigh : w.startAddr = s.map.passwordNew1.addr
        · rw [if_pos hhigh, if_pos hhigh]
          rfl
        rw [if_neg hhigh, if_neg hhigh]
        by_cases hlow : w.startAddr = s.map.passwordNew1.addr + 1
        · rw [if_pos hlow, if_pos hlow]
          dsimp only [takePart]
          split
          · rfl
          split <;> rfl
        · rw [if_neg hlow, if_neg hlow, if_pos hin]
    · rw [if_pos hreg, if_pos (Or.inr (Or.inl hreg)), if_pos hin]
  · rw [if_pos (Or.inl hin), if_neg hin, if_pos hin]
    split <;> rfl

/-- The high word that waits for its low word, with the time of its write. -/
def pendingHigh (p : MaintainPasswordWriteState) : Option (Word × Nat) :=
  if p.pendingHiValid then some (p.pendingHi, p.pendingHiTsMs) else none

/-- The high word that waits after a write. -/
def nextPending (tsMs : Nat) (before : Option (Word × Nat)) :
    Option PasswordPart → Option (Word × Nat)
  | some (.high hi) => some (hi, tsMs)
  | some _ => none
  | none => before

/-- What a write may do to the password. -/
structure PasswordStep (part : Option PasswordPart) (tsMs : Nat) (s s' : MaintainService) :
    Prop where
  pending : pendingHigh s'.passwordWrite = nextPending tsMs (pendingHigh s.passwordWrite) part
  timeout : s'.passwordWrite.pendingTimeoutMs = s.passwordWrite.pendingTimeoutMs
  changed : s'.storage.currentPassword ≠ s.storage.currentPassword →
    (∃ hi lo, part = some (.pair hi lo) ∧ s'.storage.currentPassword = joinWordsHiLo hi lo) ∨
      ∃ hi ts lo, pendingHigh s.passwordWrite = some (hi, ts) ∧ part = some (.low lo) ∧
        tsMs ≤ ts + s.passwordWrite.pendingTimeoutMs ∧
        s'.storage.currentPassword = joinWordsHiLo hi lo

theorem passwordStep_of_same {part : Option PasswordPart} {tsMs : Nat} {s s' : MaintainService}
    (hpending : pendingHigh s'.passwordWrite =
      nextPending tsMs (pendingHigh s.passwordWrite) part)
    (htimeout : s'.passwordWrite.pendingTimeoutMs = s.passwordWrite.pendingTimeoutMs)
    (hsame : s'.storage.currentPassword = s.storage.currentPassword) :
    PasswordStep part tsMs s s' :=
  ⟨hpending, htimeout, fun hne => absurd hsame hne⟩

theorem applyNewPassword_changed {newPassword : BitVec 32} {tsMs : Nat} {saves : Bool}
    {s : MaintainService}
    (h : (applyNewPassword newPassword tsMs saves s).1.storage.currentPassword ≠
      s.storage.currentPassword) :
    (applyNewPassword newPassword tsMs saves s).1.storage.currentPassword = newPassword := by
  obtain hsame | hset := applySetting_storage (fun st => { st with currentPassword := newPassword })
    syncPasswordToHmi syncPasswordToHmi tsMs saves s
  · exact absurd (congrArg MaintainStorageState.currentPassword hsame) h
  · exact congrArg MaintainStorageState.currentPassword hset

theorem takePart_passwordStep (s : MaintainService) (tsMs : Nat) (saves : Bool)
    (part : PasswordPart) : PasswordStep (some part) tsMs s (takePart s tsMs saves part).1 := by
  have hkept : ∀ newPassword, (applyNewPassword newPassword tsMs saves
      { s with passwordWrite := s.passwordWrite.clearPending }).1.passwordWrite =
        s.passwordWrite.clearPending := fun _ => applySetting_passwordWrite _ _ _ _ _ _
  cases part with
  | pair hi lo =>
    refine ⟨?_, ?_, fun hne => Or.inl ⟨hi, lo, rfl, applyNewPassword_changed hne⟩⟩
    · rw [takePart, hkept]
      rfl
    · rw [takePart, hkept]
      rfl
  | high hi => exact passwordStep_of_same rfl rfl rfl
  | low lo =>
    rw [takePart]
    dsimp only
    by_cases hvalid : s.passwordWrite.pendingHiValid = true
    · have hpending : pendingHigh s.passwordWrite =
          some (s.passwordWrite.pendingHi, s.passwordWrite.pendingHiTsMs) := if_pos hvalid
      rw [if_neg (not_not.mpr hvalid)]
      split
      · exact passwordStep_of_same rfl rfl rfl
      · rename_i hlate
        refine ⟨?_, ?_, fun hne => Or.inr ⟨_, _, lo, hpending, rfl, ?_,
          applyNewPassword_changed hne⟩⟩
        · rw [hkept]
          rfl
        · rw [hkept]
          rfl
        · omega
    · rw [if_pos hvalid]
      exact passwordStep_of_same (if_neg hvalid) rfl rfl

theorem takePart_keeps (s : MaintainService) (tsMs : Nat) (saves : Bool) (part : PasswordPart) :
    Keeps s saves (takePart s tsMs saves part) := by
  have happly : ∀ newPassword, Keeps s saves (applyNewPassword newPassword tsMs saves
      { s with passwordWrite := s.passwordWrite.clearPending }) := fun newPassword =>
    let hkeeps := applyNewPassword_keeps
      { s with passwordWrite := s.passwordWrite.clearPending } newPassword tsMs saves
    ⟨hkeeps.told, hkeeps.saved, hkeeps.restored, hkeeps.queued, hkeeps.links, hkeeps.map⟩
  cases part with
  | pair hi lo => exact happly _
  | high hi => exact keeps_of_quiet quiet_nil rfl rfl rfl
  | low lo =>
    rw [takePart]
    dsimp only
    split
    · exact keeps_of_quiet quiet_nil rfl rfl rfl
    split
    · exact keeps_of_quiet quiet_nil rfl rfl rfl
    · exact happly _

/-! ### The other writes -/

theorem handleBaseWrite_settingOnly {ep : MaintainEndpoint}
    {apply : Word → Nat → Bool → MaintainService → MaintainService × List Effect}
    (h : SettingOnly apply) {s : MaintainService} {w : HmiWriteEvent} {saves : Bool}
    {r : MaintainService × List Effect} (hr : handleBaseWrite ep apply s w saves = some r) :
    Keeps s saves r ∧ r.1.storage.currentPassword = s.storage.currentPassword ∧
      r.1.passwordWrite = s.passwordWrite := by
  unfold handleBaseWrite at hr
  split at hr
  · cases hr
  · rw [← Option.some_inj.mp hr]
    exact h _ _ _ _

def step (s : MaintainService) (e : HmiWriteEvent × Bool) : MaintainService × List Effect :=
  (onHmiWrite s e.1 e.2).getD (s, [])

theorem step_sound (s : MaintainService) (e : HmiWriteEvent × Bool) :
    Keeps s e.2 (step s e) ∧
      PasswordStep (passwordPart s.map.passwordNew1 e.1) e.1.tsMs s (step s e).1 := by
  obtain ⟨w, saves⟩ := e
  have hnothing : passwordPart s.map.passwordNew1 w = none →
      Keeps s saves (s, []) ∧
        PasswordStep (passwordPart s.map.passwordNew1 w) w.tsMs s s := fun hnone =>
    ⟨keeps_of_quiet quiet_nil rfl rfl rfl, passwordStep_of_same (by rw [hnone]; rfl) rfl rfl⟩
  unfold step
  cases hwrite : onHmiWrite s w saves with
  | none =>
    refine hnothing ?_
    rw [onHmiWrite, handlePasswordSetWrite_eq] at hwrite
    cases hpart : passwordPart s.map.passwordNew1 w with
    | none => rfl
    | some part =>
      rw [hpart] at hwrite
      cases hwrite
  | some r =>
    show Keeps s saves r ∧ PasswordStep _ _ s r.1
    rw [onHmiWrite, handlePasswordSetWrite_eq] at hwrite
    cases hpart : passwordPart s.map.passwordNew1 w with
    | some part =>
      rw [hpart] at hwrite
      rw [← Option.some_inj.mp hwrite]
      exact ⟨takePart_keeps s w.tsMs saves part, takePart_passwordStep s w.tsMs saves part⟩
    | none =>
      rw [hpart] at hwrite
      have hsetting : Keeps s saves r ∧ r.1.storage.currentPassword = s.storage.currentPassword ∧
          r.1.passwordWrite = s.passwordWrite := by
        simp only [Option.orElse_eq_some] at hwrite
        obtain hin | ⟨-, hbox | ⟨-, hups | ⟨-, htemp | ⟨-, hhumidity⟩⟩⟩⟩ := hwrite
        · split at hin
          · rw [← Option.some_inj.mp hin]
            exact ⟨(hnothing hpart).1, rfl, rfl⟩
          · cases hin
        · exact handleBaseWrite_settingOnly applyBoxId_settingOnly hbox
        · exact handleBaseWrite_settingOnly applyUpsShutdownTime_settingOnly hups
        · exact handleBaseWrite_settingOnly applyAirconTemp_settingOnly htemp
        · exact handleBaseWrite_settingOnly applyAirconHumidity_settingOnly hhumidity
      obtain ⟨hkeeps, hpassword, hpending⟩ := hsetting
      exact ⟨hkeeps, passwordStep_of_same (by rw [hpending]; rfl) (by rw [hpending]) hpassword⟩

/-! ### Runs -/

/-- The writes of the panel, each with what the file operations of its save come to. -/
def maintenance (s : MaintainService) : Machine MaintainService (HmiWriteEvent × Bool) Effect :=
  ⟨s, step⟩

variable {s₀ : MaintainService}

theorem run_links (es : List (HmiWriteEvent × Bool)) :
    ((maintenance s₀).run es).links = s₀.links ∧ ((maintenance s₀).run es).map = s₀.map ∧
      ((maintenance s₀).run es).passwordWrite.pendingTimeoutMs =
        s₀.passwordWrite.pendingTimeoutMs := by
  refine Machine.Invariant.run (M := maintenance s₀) (I := fun s => s.links = s₀.links ∧
    s.map = s₀.map ∧ s.passwordWrite.pendingTimeoutMs = s₀.passwordWrite.pendingTimeoutMs)
    ⟨⟨rfl, rfl, rfl⟩, ?_⟩ es
  rintro s e ⟨hlinks, hmap, htimeout⟩
  obtain ⟨hkeeps, hpassword⟩ := step_sound s e
  exact ⟨hkeeps.links.trans hlinks, hkeeps.map.trans hmap, hpassword.timeout.trans htimeout⟩

/-- What a write leaves in the file, none if nothing. -/
def savedBy (s : MaintainService) (e : HmiWriteEvent × Bool) : Option MaintainConfig :=
  savedIn (step s e).2

theorem run_config (es : List (HmiWriteEvent × Bool)) :
    makeConfigFromContext ((maintenance s₀).run es).storage =
      ((maintenance s₀).latest savedBy es).getD (makeConfigFromContext s₀.storage) := by
  refine (maintenance s₀).register_eq_latest (fun s => makeConfigFromContext s.storage) ?_ es
  intro pre e
  obtain ⟨hkeeps, -⟩ := step_sound ((maintenance s₀).run pre) e
  show makeConfigFromContext (step _ e).1.storage = (savedIn (step _ e).2).getD _
  cases hsaved : savedIn (step ((maintenance s₀).run pre) e).2 with
  | none => rw [hkeeps.restored hsaved, Option.getD_none]
  | some cfg => exact hkeeps.saved cfg hsaved

/-- The write at `j` is the latest that tells of a password, and its high word waits. -/
structure Waits (ep : MaintainEndpoint) (es : List (HmiWriteEvent × Bool)) (j : Nat) (hi : Word)
    (ts : Nat) : Prop where
  written : ∃ e, es[j]? = some e ∧ passwordPart ep e.1 = some (.high hi) ∧ e.1.tsMs = ts
  latest : ∀ i e, j < i → es[i]? = some e → passwordPart ep e.1 = none

theorem Waits.snoc {ep : MaintainEndpoint} {es : List (HmiWriteEvent × Bool)} {j : Nat} {hi : Word}
    {ts : Nat} (h : Waits ep es j hi ts) {e : HmiWriteEvent × Bool}
    (he : passwordPart ep e.1 = none) : Waits ep (es ++ [e]) j hi ts := by
  obtain ⟨x, hx, hpart, hts⟩ := h.written
  refine ⟨⟨x, ?_, hpart, hts⟩, ?_⟩
  · rw [List.getElem?_append_left (List.getElem?_eq_some_iff.mp hx).1]
    exact hx
  · intro i y hij hy
    obtain hlt | hge := Nat.lt_or_ge i es.length
    · rw [List.getElem?_append_left hlt] at hy
      exact h.latest i y hij hy
    · rw [List.getElem?_append_right hge] at hy
      rw [List.mem_singleton.mp (List.mem_of_getElem? hy)]
      exact he

theorem run_waits (hnone : pendingHigh s₀.passwordWrite = none)
    (es : List (HmiWriteEvent × Bool)) :
    ∀ hi ts, pendingHigh ((maintenance s₀).run es).passwordWrite = some (hi, ts) →
      ∃ j, Waits s₀.map.passwordNew1 es j hi ts := by
  refine (maintenance s₀).run_induction (R := fun es s => ∀ hi ts,
    pendingHigh s.passwordWrite = some (hi, ts) → ∃ j, Waits s₀.map.passwordNew1 es j hi ts)
    ?_ ?_ es
  · intro hi ts h
    exact absurd (hnone.symm.trans h) (Option.some_ne_none _).symm
  · intro pre e ih hi ts h
    obtain ⟨-, hmap, -⟩ := @run_links s₀ pre
    obtain ⟨-, hpassword⟩ := step_sound ((maintenance s₀).run pre) e
    have hpending := hpassword.pending.symm.trans h
    rw [hmap] at hpending
    cases hpart : passwordPart s₀.map.passwordNew1 e.1 with
    | none =>
      rw [hpart] at hpending
      obtain ⟨j, hwaits⟩ := ih hi ts hpending
      exact ⟨j, hwaits.snoc hpart⟩
    | some part =>
      rw [hpart] at hpending
      cases part with
      | pair _ _ => cases hpending
      | low _ => cases hpending
      | high word =>
        obtain ⟨rfl, rfl⟩ := Prod.mk.inj (Option.some_inj.mp hpending)
        refine ⟨pre.length, ⟨e, List.getElem?_concat_length, hpart, rfl⟩, ?_⟩
        intro i x hi hx
        rw [List.getElem?_eq_none (by rw [List.length_append]; exact hi)] at hx
        cases hx

/-- The low word at `k` is the first after the high word at `j`, with no other write of the
password in between, and in time. -/
structure HighUsedBy (ep : MaintainEndpoint) (es : List (HmiWriteEvent × Bool)) (j k : Nat)
    (hi lo : Word) : Prop where
  before : j < k
  high : ∃ e, es[j]? = some e ∧ passwordPart ep e.1 = some (.high hi) ∧
    ∃ e', es[k]? = some e' ∧ passwordPart ep e'.1 = some (.low lo) ∧ e'.1.tsMs ≤ e.1.tsMs + 2000
  next : ∀ i e, j < i → i < k → es[i]? = some e → passwordPart ep e.1 = none

/-- A high word is used at most once. -/
theorem HighUsedBy.unique {ep : MaintainEndpoint} {es : List (HmiWriteEvent × Bool)} {j k k' : Nat}
    {hi hi' lo lo' : Word} (h : HighUsedBy ep es j k hi lo) (h' : HighUsedBy ep es j k' hi' lo') :
    k = k' := by
  obtain ⟨-, -, -, e, he, hlow, -⟩ := h.high
  obtain ⟨-, -, -, e', he', hlow', -⟩ := h'.high
  obtain hlt | heq | hgt := Nat.lt_trichotomy k k'
  · rw [h'.next k e h.before hlt he] at hlow
    cases hlow
  · exact heq
  · rw [h.next k' e' h'.before hgt he'] at hlow'
    cases hlow'

/-- Whatever is written, and whichever saves fail: after each write the settings in memory are the
ones that were saved last, a save is told as its file operations ended, a failed one leaves nothing
behind, a command carries a setting that the same write has saved, and the password changes only to
two words of one write, or to a high word and the next low word in time.  No high word is used
twice. -/
theorem onHmiWrite_run (storage : MaintainStorageState) (links : MaintainLinkState)
    (map : MaintainMapState) (hmi : Bool) (es : List (HmiWriteEvent × Bool)) :
    let M := maintenance { storage, links, map, hmi }
    (∀ k e, es[k]? = some e →
      let s := M.run (es.take k)
      let s' := M.run (es.take (k + 1))
      let effects := M.emitted (es.take k) e
      makeConfigFromContext s'.storage =
        (M.latest savedBy (es.take (k + 1))).getD (makeConfigFromContext storage) ∧
      (∀ cfg ok, .save cfg ok ∈ effects → ok = e.2) ∧
      (savedIn effects = none → s'.storage = s.storage) ∧
      (∀ cmd, .queue cmd ∈ effects →
        ∃ cfg, effects = [.save cfg true, .queue cmd] ∧ Carries links cfg cmd) ∧
      (s'.storage.currentPassword ≠ s.storage.currentPassword →
        (∃ hi lo, passwordPart map.passwordNew1 e.1 = some (.pair hi lo) ∧
          s'.storage.currentPassword = joinWordsHiLo hi lo) ∨
        ∃ j hi lo, HighUsedBy map.passwordNew1 es j k hi lo ∧
          s'.storage.currentPassword = joinWordsHiLo hi lo)) ∧
    ∀ j k k' hi hi' lo lo', HighUsedBy map.passwordNew1 es j k hi lo →
      HighUsedBy map.passwordNew1 es j k' hi' lo' → k = k' := by
  intro M
  refine ⟨?_, fun _ _ _ _ _ _ _ h h' => h.unique h'⟩
  intro k e he s s' effects
  have htake : es.take (k + 1) = es.take k ++ [e] := by
    rw [List.take_add_one, he, Option.toList_some]
  have hs' : s' = (step s e).1 := by
    show M.run (es.take (k + 1)) = _
    rw [htake, Machine.run_snoc]
    rfl
  obtain ⟨hlinks, hmap, htimeout⟩ := @run_links { storage, links, map, hmi } (es.take k)
  obtain ⟨hkeeps, hpassword⟩ := step_sound s e
  have hmap' : s.map = map := hmap
  rw [← hs', hmap'] at hpassword
  refine ⟨run_config _, hkeeps.told, fun hnone => ?_, fun cmd hcmd => ?_, fun hne => ?_⟩
  · rw [hs']
    exact hkeeps.restored hnone
  · obtain ⟨cfg, hcfg, hcarries⟩ := hkeeps.queued cmd hcmd
    refine ⟨cfg, hcfg, ?_⟩
    have hlinks' : s.links = links := hlinks
    rw [← hlinks']
    exact hcarries
  · obtain hpair | ⟨hi, ts, lo, hpending, hlow, hts, hjoin⟩ := hpassword.changed hne
    · exact Or.inl hpair
    · obtain ⟨j, hwaits⟩ := run_waits rfl (es.take k) hi ts hpending
      obtain ⟨x, hx, hhigh, rfl⟩ := hwaits.written
      rw [List.getElem?_take] at hx
      split at hx
      · rename_i hjk
        refine Or.inr ⟨j, hi, lo, ⟨hjk, ⟨x, hx, hhigh, e, he, hlow, ?_⟩, ?_⟩, hjoin⟩
        · rw [← show s.passwordWrite.pendingTimeoutMs = 2000 from htimeout]
          exact hts
        · intro i y hji hik hy
          exact hwaits.latest i y hji (by rw [List.getElem?_take, if_pos hik, hy])
      · cases hx

def temperatureMap : MaintainMapState where
  airconSetTemp := { valid := true, addr := 0x2110 }

def temperatureWrite (tempC : Word) : HmiWriteEvent where
  startAddr := 0x2110
  regs := [tempC]
  tsMs := 1000

/-- The save of 40 degrees fails behind one of 30: the settings are those of 30, and the device is
not told. -/
theorem onHmiWrite_run_failed_save :
    let storage : MaintainStorageState := { configPath := "maintain.json" }
    let M := maintenance { storage, links := { airRs485Index := 2 }, map := temperatureMap,
                           hmi := true }
    let es := [(temperatureWrite 30, true), (temperatureWrite 40, false)]
    (M.run es).storage = (M.run (es.take 1)).storage ∧
      makeConfigFromContext (M.run es).storage =
        { makeConfigFromContext storage with airconSetTemp := 30 } ∧
      M.emitted (es.take 1) (temperatureWrite 40, false) =
        [.save { makeConfigFromContext storage with airconSetTemp := 40 } false] := by
  intro storage M es
  obtain ⟨hsaved, -, hrestored, -⟩ :=
    (onHmiWrite_run storage { airRs485Index := 2 } temperatureMap true es).1 1 _ rfl
  exact ⟨hrestored rfl, hsaved, rfl⟩

end MaintainService

end Maintain
end EnergyStorage
