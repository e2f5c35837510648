import EnergyStorage.Lib.Dict
import EnergyStorage.Lib.Json
import Mathlib.Data.List.TakeDrop

/-! # The file of the maintenance settings

The new text goes to a temporary file, which is then renamed.  What has been written is looked at
while it may still be in the buffer of the stream. -/

namespace EnergyStorage
namespace Maintain

open Lib (Dict Json)

structure MaintainConfig where
  version : BitVec 32 := 1
  password : BitVec 32 := 123456
  boxId : BitVec 16 := 0
  upsShutdownTime : BitVec 16 := 0
  /-- Signed. -/
  airconSetTemp : BitVec 16 := 25
  airconSetHumidity : BitVec 16 := 60
  deriving DecidableEq

def MaintainConfig.toJson (cfg : MaintainConfig) : Json :=
  .object [
    ("version", .unsigned cfg.version.toNat),
    ("password", .unsigned cfg.password.toNat),
    ("box_id", .unsigned cfg.boxId.toNat),
    ("ups_shutdown_time", .unsigned cfg.upsShutdownTime.toNat),
    ("aircon_set_temp", .integer cfg.airconSetTemp.toInt),
    ("aircon_set_humidity", .unsigned cfg.airconSetHumidity.toNat)]

/-- The files, under their paths. -/
abbrev Files := Dict String (List Char)

/-- What the file operations of a save come to. -/
structure SaveOutcome where
  opens : Bool := true
  /-- The stream reports no error after the writing. -/
  good : Bool := true
  /-- How much of the text is in the file once the stream is closed. -/
  kept : Nat
  renames : Bool := true
  /-- The number of an error and its text. -/
  errno : String := ""

namespace MaintainStorage

-- how a JSON value is written out, with indentation
variable (dump : Json → String)

def document (cfg : MaintainConfig) : List Char := (dump cfg.toJson ++ "\n").toList

/-- The error of a save, none if it reports success. -/
def saveAtomic (path : String) (cfg : MaintainConfig) (o : SaveOutcome) (files : Files) :
    Option String × Files :=
  let tmpPath := path ++ ".tmp"
  if ¬ o.opens then (some ("open tmp failed: " ++ tmpPath ++ ", errno=" ++ o.errno), files)
  else
    -- the stream is closed at the end of its scope, and what that comes to is not looked at
    let text := (document dump cfg).take o.kept
    let files := files.insert tmpPath text
    if ¬ o.good then (some ("write tmp failed: " ++ tmpPath), files)
    else if ¬ o.renames then
      (some ("rename failed: " ++ tmpPath ++ " -> " ++ path ++ ", errno=" ++ o.errno),
        files.erase tmpPath)
    else (none, (files.erase tmpPath).insert path text)

/-! ### What is left of a save -/

theorem tmpPath_ne (path : String) : path ≠ path ++ ".tmp" := by
  intro h
  have hlen := congrArg String.length h
  rw [String.length_append] at hlen
  exact absurd hlen (Nat.ne_of_lt (Nat.lt_add_of_pos_right (by decide)))

variable {dump} {path : String} {cfg : MaintainConfig} {o : SaveOutcome} {files : Files}

/-- The save goes through to the renaming. -/
def Replaces (o : SaveOutcome) : Prop := o.opens ∧ o.good ∧ o.renames

theorem saveAtomic_of_replaces (h : Replaces o) :
    (saveAtomic dump path cfg o files).1 = none ∧
      (saveAtomic dump path cfg o files).2.get path = some ((document dump cfg).take o.kept) := by
  obtain ⟨hopens, hgood, hrenames⟩ := h
  unfold saveAtomic
  dsimp only
  rw [if_neg (not_not.mpr hopens), if_neg (not_not.mpr hgood), if_neg (not_not.mpr hrenames)]
  exact ⟨rfl, Dict.get_insert_self _ _ _⟩

/-- Otherwise the target is left alone, and an error reported. -/
theorem saveAtomic_of_not_replaces (h : ¬ Replaces o) :
    (saveAtomic dump path cfg o files).1 ≠ none ∧
      (saveAtomic dump path cfg o files).2.get path = files.get path := by
  have htarget : ∀ text, (files.insert (path ++ ".tmp") text).get path = files.get path :=
    fun text => Dict.get_insert_of_ne _ (tmpPath_ne path) text
  unfold saveAtomic
  dsimp only
  by_cases hopens : o.opens = true
  · rw [if_neg (not_not.mpr hopens)]
    by_cases hgood : o.good = true
    · rw [if_neg (not_not.mpr hgood)]
      by_cases hrenames : o.renames = true
      · exact absurd ⟨hopens, hgood, hrenames⟩ h
      · rw [if_pos hrenames]
        refine ⟨Option.some_ne_none _, ?_⟩
        rw [Dict.get_erase, if_neg (tmpPath_ne path)]
        exact htarget _
    · rw [if_pos hgood]
      exact ⟨Option.some_ne_none _, htarget _⟩
  · rw [if_pos hopens]
    exact ⟨Option.some_ne_none _, rfl⟩

/-- The target holds its old content or the whole new document, and the result tells which. -/
def Atomic (path : String) (doc : List Char) (before : Files) (result : Option String × Files) :
    Prop :=
  (result.1 = none ∧ result.2.get path = some doc) ∨
    (result.1 ≠ none ∧ result.2.get path = before.get path)

/-- A save is atomic unless the closing of the stream loses a part of the text that the file is
then replaced by. -/
theorem saveAtomic_atomic_iff (dump : Json → String) (path : String) (cfg : MaintainConfig)
    (o : SaveOutcome) (files : Files) :
    Atomic path (document dump cfg) files (saveAtomic dump path cfg o files) ↔
      (o.opens ∧ o.good ∧ o.renames → (document dump cfg).length ≤ o.kept) := by
  by_cases hreplaces : Replaces o
  · obtain ⟨hnone, htarget⟩ := @saveAtomic_of_replaces dump path cfg o files hreplaces
    rw [Atomic, hnone, htarget]
    constructor
    · rintro (⟨-, hdoc⟩ | ⟨hne, -⟩) _
      · exact (List.take_eq_self_iff _).mp (Option.some_inj.mp hdoc)
      · exact absurd rfl hne
    · intro hkept
      exact Or.inl ⟨rfl, congrArg some (List.take_of_length_le (hkept hreplaces))⟩
  · obtain ⟨hne, htarget⟩ := @saveAtomic_of_not_replaces dump path cfg o files hreplaces
    exact ⟨fun _ h => absurd h hreplaces, fun _ => Or.inr ⟨hne, htarget⟩⟩

/-- The text of the default settings. -/
def defaultText : Json → String := fun _ =>
  "\x7b\n    \"aircon_set_humidity\": 60,\n    \"aircon_set_temp\": 25,\n" ++
    "    \"box_id\": 0,\n    \"password\": 123456,\n    \"ups_shutdown_time\": 0,\n" ++
    "    \"version\": 1\n\x7d"

/-- A full disk: the text stays in the buffer, the stream reports no error, and the closing writes
nothing.  The settings are replaced by an empty file, and the save reports success. -/
theorem settings_truncated :
    let files : Files := Dict.empty.insert "maintain.json" ['\x7b', '\x7d']
    let result := saveAtomic defaultText "maintain.json" {} { kept := 0 } files
    result.1 = none ∧ result.2.get "maintain.json" = some [] ∧
      ¬ Atomic "maintain.json" (document defaultText {}) files result := by
  intro files result
  obtain ⟨hnone, htarget⟩ := @saveAtomic_of_replaces defaultText "maintain.json" {} { kept := 0 }
    files ⟨rfl, rfl, rfl⟩
  have hdoc : document defaultText {} ≠ [] := by
    rw [Ne, document, String.toList_eq_nil_iff]
    decide
  refine ⟨hnone, htarget, ?_⟩
  rintro (⟨-, hwhole⟩ | ⟨hne, -⟩)
  · exact hdoc (Option.some_inj.mp (hwhole.symm.trans htarget))
  · exact hne hnone

end MaintainStorage

end Maintain
end EnergyStorage
