import EnergyStorage.Fault.RuntimeMapper

/-! # The other names of signals

One table renames the signals of all sources before the evaluator of the rule's own source
reads them.  A name that an evaluator knows should come out as one that it reads the same
way. -/

namespace EnergyStorage
namespace Fault

/-- The signal a token stands for. -/
abbrev aliasOf (t : String) : String := renameBy signalAliases t

theorem normalizeSignal_eq (s : String) : normalizeSignal s = aliasOf (normalizeToken s) := rfl

/-! ### Tables of signals -/

namespace SignalTable

variable {σ : Type} (T : SignalTable σ)

/-- The rows that answer a name. -/
def place (s : String) : Option Nat × Option Nat :=
  (T.link.findIdx? fun row => decide (s ∈ row.1), T.inner.findIdx? fun row => decide (s ∈ row.1))

theorem reading_eq (rows : Readings σ) (s : String) :
    reading rows s =
      (rows.findIdx? fun row => decide (s ∈ row.1)).bind fun i => rows[i]?.map (·.2) := by
  induction rows with
  | nil => rfl
  | cons row rows ih =>
    rw [reading, List.find?_cons, List.findIdx?_cons]
    by_cases hs : s ∈ row.1
    · simp [hs]
    · simp only [hs, decide_false, Bool.false_eq_true, if_false]
      show reading rows s = _
      rw [ih, Option.bind_map]
      rfl

variable {T}

/-- Names answered by the same rows are read the same way. -/
theorem eval_of_place {s s' : String} (h : T.place s = T.place s') (x : σ) :
    T.eval x s = T.eval x s' := by
  obtain ⟨hlink, hinner⟩ := Prod.mk.inj h
  have hlink' : reading T.link s = reading T.link s' := by
    rw [reading_eq, reading_eq, hlink]
  have hinner' : reading T.inner s = reading T.inner s' := by
    rw [reading_eq, reading_eq, hinner]
  unfold eval
  rw [hlink', hinner']

/-- A name no row lists is never active. -/
theorem eval_of_notMem {s : String} (h : s ∉ T.names) (x : σ) : T.eval x s = false := by
  have hnone : ∀ rows : Readings σ, (∀ row ∈ rows, row ∈ T.link ++ T.inner) →
      reading rows s = none := by
    intro rows hrows
    rw [reading, Option.map_eq_none_iff, List.find?_eq_none]
    intro row hrow hs
    exact h (List.mem_flatMap.mpr ⟨row, hrows row hrow, of_decide_eq_true hs⟩)
  have hlink := hnone T.link fun row hrow => List.mem_append_left _ hrow
  have hinner := hnone T.inner fun row hrow => List.mem_append_right _ hrow
  unfold eval
  rw [hlink, hinner]
  exact ite_self _

theorem reading_of_mem {rows : Readings σ} {s : String} (h : ∃ row ∈ rows, s ∈ row.1) :
    ∃ row ∈ rows, reading rows s = some row.2 := by
  have hsome : (rows.find? fun row => decide (s ∈ row.1)).isSome = true := by
    obtain ⟨row, hrow, hs⟩ := h
    exact List.find?_isSome.mpr ⟨row, hrow, decide_eq_true hs⟩
  obtain ⟨row, hrow⟩ := Option.isSome_iff_exists.mp hsome
  exact ⟨row, List.mem_of_find?_eq_some hrow, by rw [reading, hrow, Option.map_some]⟩

/-- Where every row is true of some state, no name of the table is constantly inactive. -/
theorem exists_eval (hlink : ∀ row ∈ T.link, ∃ x, row.2 x = true)
    (hinner : ∀ row ∈ T.inner, ∃ x, T.online x = true ∧ row.2 x = true) {s : String}
    (hs : s ∈ T.names) : ∃ x, T.eval x s = true := by
  obtain ⟨row, hrow, hmem⟩ := List.mem_flatMap.mp hs
  by_cases hanswer : ∃ row ∈ T.link, s ∈ row.1
  · obtain ⟨row, hrow, hread⟩ := reading_of_mem hanswer
    obtain ⟨x, hx⟩ := hlink row hrow
    refine ⟨x, ?_⟩
    rw [eval, hread]
    exact hx
  · have hnone : reading T.link s = none := by
      rw [reading, Option.map_eq_none_iff, List.find?_eq_none]
      intro row hrow hs
      exact hanswer ⟨row, hrow, of_decide_eq_true hs⟩
    have hrow' : row ∈ T.inner := by
      obtain hlinked | hinnered := List.mem_append.mp hrow
      · exact absurd ⟨row, hlinked, hmem⟩ hanswer
      · exact hinnered
    obtain ⟨row, hrow, hread⟩ := reading_of_mem ⟨row, hrow', hmem⟩
    obtain ⟨x, honline, hx⟩ := hinner row hrow
    refine ⟨x, ?_⟩
    simp only [eval, hnone, honline, hread, Bool.not_true, Bool.false_eq_true, if_false]
    exact hx

end SignalTable

/-- The names the table of signals changes or keeps by a row of its own. -/
def aliasKeys : List String := signalAliases.flatMap (·.1)

theorem aliasOf_of_notMem {t : String} (h : t ∉ aliasKeys) : aliasOf t = t := by
  have hnone : (signalAliases.find? fun row => decide (t ∈ row.1)) = none := by
    rw [List.find?_eq_none]
    intro row hrow ht
    exact h (List.mem_flatMap.mpr ⟨row, hrow, of_decide_eq_true ht⟩)
  rw [aliasOf, renameBy, hnone]

/-! ### What each evaluator knows -/

namespace SourceKind

def signals : (k : SourceKind) → SignalTable k.State
  | .pcu => pcuSignals
  | .ups => upsSignals
  | .smoke => smokeSignals
  | .gas => gasSignals
  | .air => airSignals
  | .logic => logicSignals

/-- The evaluator of the source compares the signal with this text. -/
def Recognises (k : SourceKind) (signal : String) : Prop :=
  normalizeToken signal ∈ k.signals.names

/-- The names that the table changes into one the evaluator does not know. -/
def lostNames : SourceKind → List String
  | .pcu => ["pcu1_comm_fault", "pcu2_comm_fault", "estop"]
  | .logic => ["smoke_offline", "tss_comm_fault", "smoke_comm_fault"]
  | _ => []

/-- The names of the source that are also names of the table. -/
def aliasedNames : SourceKind → List String
  | .pcu => ["offline", "runtime_offline", "pcu1_comm_fault", "pcu2_comm_fault", "online",
      "runtime_online", "estop"]
  | .ups => ["offline", "runtime_offline", "ups_offline", "ups_comm_fault", "online",
      "runtime_online", "alarm_any", "fault_any"]
  | .smoke => ["tss_offline", "smoke_offline", "tss_comm_fault", "smoke_comm_fault",
      "tss_smoke_alarm", "tss_temp_alarm", "tss_ss_alarm", "tss_spollution_alarm",
      "tss_temp_fault", "alarm_any", "fault_any"]
  | .gas => ["gas_offline", "cgs_comm_fault", "gas_comm_fault", "gas_alarm_any", "alarm_any",
      "gas_sensor_fault", "gas_fault_any", "fault_any", "gas_status_nonzero", "gas_low_alarm",
      "gas_high_alarm"]
  | .air => ["offline", "runtime_offline", "air_offline", "aircon_comm_fault",
      "air_comm_fault", "online", "runtime_online", "alarm_any", "fault_any"]
  | .logic => ["ups_offline", "smoke_offline", "gas_offline", "air_offline", "env_any_alarm",
      "system_estop", "hmi_comm_fault", "remote_comm_fault", "sdcard_fault",
      "pcu1_comm_fault", "pcu2_comm_fault", "ups_comm_fault", "tss_comm_fault",
      "smoke_comm_fault", "cgs_comm_fault", "gas_comm_fault", "aircon_comm_fault",
      "air_comm_fault"]

theorem aliasOf_of_not_aliased {k : SourceKind} {n : String} (hn : n ∈ k.signals.names)
    (h : n ∉ k.aliasedNames) : aliasOf n = n := by
  have hkeys : ∀ n ∈ k.signals.names, n ∈ k.aliasedNames ∨ n ∉ aliasKeys := by
    cases k <;> decide +kernel
  exact aliasOf_of_notMem ((hkeys n hn).resolve_left h)

theorem lostNames_subset (k : SourceKind) : ∀ n ∈ k.lostNames, n ∈ k.aliasedNames := by
  cases k <;> decide

/-- A lost name is changed into one that the evaluator does not know, every other into one
that it knows. -/
theorem aliasOf_mem_names_iff {k : SourceKind} {n : String} (hn : n ∈ k.signals.names) :
    aliasOf n ∈ k.signals.names ↔ n ∉ k.lostNames := by
  by_cases h : n ∈ k.aliasedNames
  · have hall : ∀ n ∈ k.aliasedNames, aliasOf n ∈ k.signals.names ↔ n ∉ k.lostNames := by
      cases k <;> decide
    exact hall n h
  · rw [aliasOf_of_not_aliased hn h]
    exact ⟨fun _ hlost => h (k.lostNames_subset n hlost), fun _ => hn⟩

/-- An evaluator that does not rename the signal itself reads both names in one place. -/
theorem place_aliasOf {k : SourceKind} (hk : k ≠ .logic) {n : String}
    (hn : n ∈ k.signals.names) (hkept : n ∉ k.lostNames) :
    k.signals.place (aliasOf n) = k.signals.place n := by
  by_cases h : n ∈ k.aliasedNames
  · have hall : ∀ n ∈ k.aliasedNames, n ∉ k.lostNames →
        k.signals.place (aliasOf n) = k.signals.place n := by
      cases k with
      | logic => exact absurd rfl hk
      | pcu => decide
      | ups => decide
      | smoke => decide
      | gas => decide
      | air => decide
    exact hall n h hkept
  · rw [aliasOf_of_not_aliased hn h]

/-- States that make every signal of the source active: one without a link, one with every
flag set, and for a PCU those that its link signals ask for. -/
def samples : (k : SourceKind) → List k.State
  | .pcu => [{}, { online := true, estop := true }, { seenOnce := true },
      { seenOnce := true, rxAlive := true }]
  | .ups => [{}, by constructor <;> first | exact true | exact 1]
  | .smoke => [{}, by constructor <;> first | exact true | exact 1]
  | .gas => [{}, by constructor <;> first | exact true | exact 1]
  | .air => [{}, by constructor <;> first | exact true | exact 0]
  | .logic => [⟨by constructor <;> exact true, true⟩]

/-- No name that an evaluator knows is constantly inactive. -/
theorem exists_eval {k : SourceKind} {n : String} (hn : n ∈ k.signals.names) :
    ∃ x, k.signals.eval x n = true := by
  have hlink : ∀ row ∈ k.signals.link, ∃ x ∈ k.samples, row.2 x = true := by
    cases k <;> decide
  have hinner : ∀ row ∈ k.signals.inner,
      ∃ x ∈ k.samples, k.signals.online x = true ∧ row.2 x = true := by
    cases k <;> decide
  apply SignalTable.exists_eval _ _ hn
  · intro row hrow
    obtain ⟨x, -, hx⟩ := hlink row hrow
    exact ⟨x, hx⟩
  · intro row hrow
    obtain ⟨x, -, hx⟩ := hinner row hrow
    exact ⟨x, hx⟩

theorem evalSignal_eq (k : SourceKind) (x : k.State) (signal : String) :
    k.evalSignal x signal = k.signals.eval x
      (if k = .logic then normalizeSignal signal else normalizeToken signal) := by
  by_cases hk : k = .logic
  · rw [if_pos hk]
    subst hk
    rfl
  · rw [if_neg hk]
    cases k with
    | logic => exact absurd rfl hk
    | _ => rfl

/-- The evaluator reads the renamed signal at its alias. -/
theorem evalSignal_normalizeSignal (k : SourceKind) (x : k.State) (signal : String) :
    k.evalSignal x (normalizeSignal signal) =
      k.signals.eval x (aliasOf (normalizeToken signal)) := by
  rw [evalSignal_eq, normalizeSignal_idem, normalizeToken_normalizeSignal, ite_self,
    normalizeSignal_eq]

/-- Renaming keeps what a signal says, unless it loses the name. -/
theorem evalSignal_renamed {k : SourceKind} {signal : String} (h : k.Recognises signal)
    (hkept : normalizeToken signal ∉ k.lostNames) (x : k.State) :
    k.evalSignal x (normalizeSignal signal) = k.evalSignal x signal := by
  rw [evalSignal_normalizeSignal, evalSignal_eq]
  by_cases hk : k = .logic
  · rw [if_pos hk, normalizeSignal_eq]
  · rw [if_neg hk]
    exact SignalTable.eval_of_place (place_aliasOf hk h hkept) x

/-- A renamed signal is constantly inactive exactly when its name is lost. -/
theorem constant_renamed_iff {k : SourceKind} {signal : String} (h : k.Recognises signal) :
    (∀ x, k.evalSignal x (normalizeSignal signal) = false) ↔
      normalizeToken signal ∈ k.lostNames := by
  have hnames := aliasOf_mem_names_iff h
  constructor
  · intro hconst
    by_contra hkept
    obtain ⟨x, hx⟩ := exists_eval (hnames.mpr hkept)
    have hfalse := hconst x
    rw [evalSignal_normalizeSignal, hx] at hfalse
    cases hfalse
  · intro hlost x
    rw [evalSignal_normalizeSignal]
    exact SignalTable.eval_of_notMem (fun hmem => hnames.mp hmem hlost) x

end SourceKind

/-! ### A loaded rule -/

/-- The rule says of every state what the text of the item says, on the same instance, and is
not constantly inactive. -/
structure KeepsMeaning (it : FaultItem) (rule : Rule) : Prop where
  value : ∀ x, rule.sourceNorm.evalSignal x rule.signalNorm =
    rule.sourceNorm.evalSignal x it.signal
  inst : rule.instance = instanceFor rule.sourceNorm it.inst it.signal
  alive : ¬ ∀ x, rule.sourceNorm.evalSignal x rule.signalNorm = false

theorem loadItem_spec {it : FaultItem} {rule : Rule} (h : loadItem it = some rule) :
    SourceKind.ofNorm (normalizeSource it.source) = some rule.sourceNorm ∧
      rule.signalNorm = normalizeSignal it.signal ∧
      rule.inst = instanceFor rule.sourceNorm it.inst (normalizeSignal it.signal) := by
  unfold loadItem at h
  simp only [normalizeSignal_trim] at h
  split at h
  · cases h
  · have hsource : normalizeSource (trim it.source) = normalizeSource it.source := by
      rw [normalizeSource, normalizeToken_trim, normalizeSource]
    rw [hsource] at h
    cases hkind : SourceKind.ofNorm (normalizeSource it.source) with
    | none =>
      rw [hkind] at h
      cases h
    | some kind =>
      rw [hkind] at h
      have hrule := Option.some_inj.mp h
      subst hrule
      exact ⟨rfl, by dsimp only, by dsimp only⟩

theorem tryParseInstance_token (signal : String) :
    tryParseInstanceFromSignal (normalizeToken signal) = tryParseInstanceFromSignal signal := by
  unfold tryParseInstanceFromSignal
  rw [normalizeToken_idem]

/-- No name of a PCU signal carries an instance, before or after the renaming. -/
theorem tryParseInstance_pcu : ∀ n ∈ pcuSignals.names,
    tryParseInstanceFromSignal n = none ∧ tryParseInstanceFromSignal (aliasOf n) = none := by
  have hnames : ∀ n ∈ pcuSignals.names, tryParseInstanceFromSignal n = none := by
    decide
  have haliased : ∀ n ∈ SourceKind.aliasedNames .pcu,
      tryParseInstanceFromSignal (aliasOf n) = none := by
    decide
  intro n hn
  refine ⟨hnames n hn, ?_⟩
  by_cases h : n ∈ SourceKind.aliasedNames .pcu
  · exact haliased n h
  · rw [SourceKind.aliasOf_of_not_aliased (k := .pcu) hn h]
    exact hnames n hn

/-- The instance is the same before and after the renaming. -/
theorem instanceFor_renamed {k : SourceKind} {signal : String} (h : k.Recognises signal)
    (inst : Nat) : instanceFor k inst (normalizeSignal signal) = instanceFor k inst signal := by
  unfold instanceFor
  by_cases hpcu : k = .pcu ∧ inst = 0
  · obtain ⟨hk, hinst⟩ := hpcu
    subst hk
    obtain ⟨htoken, halias⟩ := tryParseInstance_pcu _ h
    rw [tryParseInstance_token] at htoken
    rw [normalizeSignal_eq, halias, htoken]
  · rw [if_neg hpcu, if_neg hpcu]

/-- What is inferred when the rule is loaded is not inferred again. -/
theorem instanceFor_instanceFor (k : SourceKind) (inst : Nat) (signal : String) :
    instanceFor k (instanceFor k inst signal) signal = instanceFor k inst signal := by
  unfold instanceFor
  by_cases hpcu : k = .pcu ∧ inst = 0
  · rw [if_pos hpcu]
    split
    · rfl
    · rfl
  · rw [if_neg hpcu, if_neg hpcu]

/-- A rule loaded from an item whose signal its source knows keeps the meaning of the text
exactly when the table does not lose the name. -/
theorem keepsMeaning_iff {it : FaultItem} {rule : Rule} (hload : loadItem it = some rule)
    (hknown : rule.sourceNorm.Recognises it.signal) :
    KeepsMeaning it rule ↔ normalizeToken it.signal ∉ rule.sourceNorm.lostNames := by
  obtain ⟨-, hsignal, hinst⟩ := loadItem_spec hload
  constructor
  · intro hkeeps hlost
    apply hkeeps.alive
    rw [hsignal]
    exact (SourceKind.constant_renamed_iff hknown).mpr hlost
  · intro hkept
    have hsame : instanceFor rule.sourceNorm it.inst (normalizeSignal it.signal) =
        instanceFor rule.sourceNorm it.inst it.signal := instanceFor_renamed hknown it.inst
    constructor
    · rw [hsignal]
      exact SourceKind.evalSignal_renamed hknown hkept
    · rw [Rule.instance, hsignal, hinst, instanceFor_instanceFor, hsame]
    · rw [hsignal]
      exact fun hconst => hkept ((SourceKind.constant_renamed_iff hknown).mp hconst)

def batteryLowItem : FaultItem := ⟨0x3001, "UPS", " Battery Low", 0⟩

def batteryLowRule : Rule := ⟨0x3001, .ups, "battery_low", 0⟩

theorem keepsMeaning_batteryLow :
    KeepsMeaning batteryLowItem batteryLowRule ↔
      normalizeToken batteryLowItem.signal ∉ batteryLowRule.sourceNorm.lostNames :=
  keepsMeaning_iff (by decide)
    (show normalizeToken batteryLowItem.signal ∈ upsSignals.names by decide)

def estopItem : FaultItem := ⟨0x10BA, "PCU", "estop", 1⟩

def estopRule : Rule := ⟨0x10BA, .pcu, "system_estop", 1⟩

/-- The text means the e-stop of the PCU; the rule loaded from it is never active. -/
theorem estop_lost :
    loadItem estopItem = some estopRule ∧ SourceKind.Recognises .pcu estopItem.signal ∧
      evalPcuSignal { online := true, estop := true } estopItem.signal = true ∧
      (∀ x, evalPcuSignal x estopRule.signalNorm = false) ∧ ¬ KeepsMeaning estopItem estopRule := by
  have hload : loadItem estopItem = some estopRule := by decide
  have hknown : normalizeToken estopItem.signal ∈ pcuSignals.names := by decide
  have hon : evalPcuSignal { online := true, estop := true } estopItem.signal = true := by
    decide
  have hoff : ∀ x, evalPcuSignal x estopRule.signalNorm = false := by
    intro x
    have hunknown : normalizeToken estopRule.signalNorm ∉ pcuSignals.names := by decide
    exact SignalTable.eval_of_notMem hunknown x
  exact ⟨hload, hknown, hon, hoff, fun hkeeps => hkeeps.alive hoff⟩

end Fault
end EnergyStorage
