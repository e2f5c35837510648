import EnergyStorage.Fault.Tokens

/-! # The names of sources and signals

One table of other names for the sources and one for the signals of all sources together. -/

namespace EnergyStorage
namespace Fault

/-- The name of the first row that lists `t`, or `t` itself. -/
def renameBy (table : List (List String × String)) (t : String) : String :=
  match table.find? fun row => decide (t ∈ row.1) with
  | some row => row.2
  | none => t

def sourceAliases : List (List String × String) :=
  [ (["bms"], "bms"),
    (["pcu", "pcu1", "pcu2"], "pcu"),
    (["ups", "ups232", "ups_ascii", "rs232_ups"], "ups"),
    (["smoke", "smokesensor", "smoke_sensor", "tss", "tss_smoke", "tss_sensor"], "smoke"),
    (["gas", "gasdetector", "gas_detector", "cgs", "cgs_sensor"], "gas"),
    (["air", "aircon", "air_conditioner", "airconditioner", "ac"], "air"),
    (["logic", "vcu", "system"], "logic"),
    -- system and link sources all belong to the logic layer
    (["hmi", "screen", "display"], "logic"),
    (["remote", "remoteio", "remote_io"], "logic"),
    (["sd", "sdcard", "tf", "tfcard"], "logic") ]

def normalizeSource (s : String) : String := renameBy sourceAliases (normalizeToken s)

def signalAliases : List (List String × String) :=
  [ (["offline", "runtime_offline"], "offline"),
    (["online", "runtime_online"], "online"),
    -- PCU1 outside is PCU_0 inside
    (["pcu1_comm_fault", "pcu_1_comm_fault"], "pcu0_offline"),
    (["pcu2_comm_fault", "pcu_2_comm_fault"], "pcu1_offline"),
    (["ups_comm_fault", "ups_offline", "ups_runtime_offline"], "ups_offline"),
    (["tss_offline", "tss_comm_fault", "smoke_offline", "smoke_comm_fault",
      "smokesensor_comm_fault", "smoke_sensor_comm_fault"], "tss_offline"),
    (["gas_offline", "gas_comm_fault", "cgs_comm_fault", "gasdetector_comm_fault",
      "gas_detector_comm_fault"], "gas_offline"),
    (["air_offline", "air_comm_fault", "aircon_comm_fault", "airconditioner_comm_fault",
      "air_conditioner_comm_fault"], "air_offline"),
    (["hmi_comm_fault", "screen_comm_fault", "display_comm_fault"], "hmi_comm_fault"),
    (["remote_comm_fault", "remoteio_comm_fault", "remote_io_comm_fault"], "remote_comm_fault"),
    (["sdcard_fault", "sd_fault", "tfcard_fault", "tf_fault"], "sdcard_fault"),
    (["alarm_any", "env_alarm_any"], "alarm_any"),
    (["fault_any"], "fault_any"),
    (["logic_any_fault"], "any_fault"),
    (["env_any_alarm"], "env_any_alarm"),
    (["system_estop", "estop"], "system_estop"),
    (["ups_alarm_any"], "alarm_any"),
    (["ups_fault_any"], "fault_any"),
    (["ups_fault_code_nonzero"], "fault_code_nonzero"),
    (["ups_battery_low"], "battery_low"),
    (["ups_bypass", "ups_bypass_active"], "bypass_active"),
    (["tss_smoke_alarm"], "tss_smoke_alarm"),
    (["tss_temp_alarm"], "tss_temp_alarm"),
    (["tss_ss_alarm"], "tss_ss_alarm"),
    (["tss_spollution_alarm", "tss_pollution_alarm", "tss_s_pollution_alarm"],
      "tss_spollution_alarm"),
    (["tss_temp_fault"], "tss_temp_fault"),
    (["gas_alarm_any"], "gas_alarm_any"),
    (["gas_fault_any"], "gas_fault_any"),
    (["gas_sensor_fault"], "gas_sensor_fault"),
    (["gas_low_alarm"], "gas_low_alarm"),
    (["gas_high_alarm"], "gas_high_alarm"),
    (["gas_status_nonzero"], "gas_status_nonzero"),
    (["air_alarm_any", "aircon_alarm_any"], "alarm_any"),
    (["air_fault_any", "aircon_fault_any"], "fault_any") ]

def normalizeSignal (s : String) : String := renameBy signalAliases (normalizeToken s)

/-- `t.find(part) != npos`. -/
def contains (t part : String) : Bool := decide (part.toList <:+: t.toList)

/-- The number a signal text carries.  PCU number 1 is PCU_0 inside. -/
def tryParseInstanceFromSignal (signal : String) : Option Nat :=
  let t := normalizeToken signal
  if contains t "bms1" || contains t "bms_1" then some 1
  else if contains t "bms2" || contains t "bms_2" then some 2
  else if contains t "bms3" || contains t "bms_3" then some 3
  else if contains t "bms4" || contains t "bms_4" then some 4
  else if contains t "pcu1commfault" || contains t "pcu_1_comm_fault" then some 1
  else if contains t "pcu2commfault" || contains t "pcu_2_comm_fault" then some 2
  else if t = "pcu0offline" || t = "pcu_0_offline" then some 1
  else if t = "pcu1offline" || t = "pcu_1_offline" then some 2
  else if contains t "pcu1offline" || contains t "pcu_1_offline" then some 1
  else if contains t "pcu2offline" || contains t "pcu_2_offline" then some 2
  else none

/-! ### Renaming -/

theorem renameBy_cases (table : List (List String × String)) (t : String) :
    renameBy table t = t ∨ ∃ row ∈ table, renameBy table t = row.2 := by
  unfold renameBy
  split
  · rename_i row hrow
    exact .inr ⟨row, List.mem_of_find?_eq_some hrow, rfl⟩
  · exact .inl rfl

/-- The names a table changes others to are tokens, and are not changed again. -/
def FixedNames (table : List (List String × String)) : Prop :=
  ∀ row ∈ table, normalizeToken row.2 = row.2 ∧ renameBy table row.2 = row.2

section

variable {table : List (List String × String)}

theorem normalizeToken_renameBy (h : FixedNames table) (s : String) :
    normalizeToken (renameBy table (normalizeToken s)) = renameBy table (normalizeToken s) := by
  obtain hsame | ⟨row, hrow, he⟩ := renameBy_cases table (normalizeToken s)
  · rw [hsame]
    exact normalizeToken_idem s
  · rw [he]
    exact (h row hrow).1

theorem renameBy_renameBy (h : FixedNames table) (t : String) :
    renameBy table (renameBy table t) = renameBy table t := by
  obtain hsame | ⟨row, hrow, he⟩ := renameBy_cases table t
  · rw [hsame, hsame]
  · rw [he]
    exact (h row hrow).2

end

theorem sourceAliases_fixed : FixedNames sourceAliases := by
  show ∀ row ∈ sourceAliases, _
  decide +kernel

theorem signalAliases_fixed : FixedNames signalAliases := by
  show ∀ row ∈ signalAliases, _
  decide +kernel

theorem normalizeToken_normalizeSignal (s : String) :
    normalizeToken (normalizeSignal s) = normalizeSignal s :=
  normalizeToken_renameBy signalAliases_fixed s

theorem normalizeSignal_idem (s : String) :
    normalizeSignal (normalizeSignal s) = normalizeSignal s := by
  have htoken := normalizeToken_normalizeSignal s
  rw [normalizeSignal, htoken]
  exact renameBy_renameBy signalAliases_fixed (normalizeToken s)

theorem normalizeSource_idem (s : String) :
    normalizeSource (normalizeSource s) = normalizeSource s := by
  have htoken : normalizeToken (normalizeSource s) = normalizeSource s :=
    normalizeToken_renameBy sourceAliases_fixed s
  rw [normalizeSource, htoken]
  exact renameBy_renameBy sourceAliases_fixed (normalizeToken s)

/-- A name may be normalised any number of times. -/
theorem normalize_stable (s : String) :
    normalizeToken (normalizeToken s) = normalizeToken s ∧ IsToken (normalizeToken s).toList ∧
      normalizeSource (normalizeSource s) = normalizeSource s ∧
      normalizeSource (normalizeToken s) = normalizeSource s ∧
      normalizeSignal (normalizeSignal s) = normalizeSignal s ∧
      normalizeSignal (normalizeToken s) = normalizeSignal s := by
  have htoken := normalizeToken_idem s
  refine ⟨htoken, isToken_normalizeToken s, normalizeSource_idem s, ?_, normalizeSignal_idem s, ?_⟩
  · rw [normalizeSource, normalizeSource, htoken]
  · rw [normalizeSignal, normalizeSignal, htoken]

theorem normalizeSignal_trim (s : String) : normalizeSignal (trim s) = normalizeSignal s := by
  rw [normalizeSignal, normalizeToken_trim, normalizeSignal]

end Fault
end EnergyStorage
