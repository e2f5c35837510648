import EnergyStorage.Fault.Catalog
import EnergyStorage.Fault.RuntimeMapper

/-! # The two readers of the fault map

The catalogue and the rules are read from one file, each by a loop of its own.  The loops differ
in what they do with the blanks around a line, with comments, and in the texts that they read of
an item. -/

namespace EnergyStorage
namespace Fault

open Lib (Json BestOf)
open Lib.Numeral (strtoul)

/-! ### The reader of the rules -/

def parseU32Loose (v : Json) (defv : BitVec 32) : BitVec 32 :=
  match v with
  | .unsigned n => BitVec.ofNat 32 n
  | .integer x => if 0 ≤ x then BitVec.ofInt 32 x else defv
  | .string s =>
    if s = "" then defv
    else ((strtoul (s.toList.dropWhile isSpace)).map fun r => BitVec.ofNat 32 r.1).getD defv
  | .null | .boolean _ | .float _ | .array _ | .object _ => defv

structure LoadStats where
  totalItems : Nat := 0
  acceptedRules : Nat := 0
  skippedNoSourceOrSignal : Nat := 0
  skippedUnsupportedSource : Nat := 0
  deriving DecidableEq, Repr

structure RuleReading where
  rules : List Rule := []
  stats : LoadStats := {}

namespace RuleReading

def counted (r : RuleReading) : RuleReading :=
  { r with stats := { r.stats with totalItems := r.stats.totalItems + 1 } }

def add (r : RuleReading) (it : FaultItem) : RuleReading :=
  match loadItem it with
  | some rule =>
    ⟨r.rules ++ [rule], { r.stats with acceptedRules := r.stats.acceptedRules + 1 }⟩
  | none =>
    if normalizeSource (trim it.source) = "" ∨ normalizeSignal (trim it.signal) = "" then
      { r with stats := { r.stats with
          skippedNoSourceOrSignal := r.stats.skippedNoSourceOrSignal + 1 } }
    else
      { r with stats := { r.stats with
          skippedUnsupportedSource := r.stats.skippedUnsupportedSource + 1 } }

end RuleReading

/-- The parts of an item whose code was read; none where `value` throws. -/
def readFaultItem (code : BitVec 16) (codeS : String) (it : Json) : Option FaultItem := do
  let _codeHex ← textAt it "code_hex" codeS
  let _name ← textAt it "name" ""
  let source ← textAt it "source" ""
  let signal ← textAt it "signal" ""
  some
    { code, source, signal
      inst := (((it.find "instance").map (parseU32Loose · 0)).getD 0).toNat }

/-- The items of a line, up to one that throws, and whether there is one. -/
def readRuleItems : List Json → RuleReading → RuleReading × Bool
  | [], r => (r, false)
  | it :: rest, r =>
    if !it.isObject then readRuleItems rest r
    else
      match codeText it with
      | none => (r, true)
      | some codeS =>
        if codeS = "" then readRuleItems rest r
        else
          match parseCode codeS with
          | none => readRuleItems rest r
          | some code =>
            match readFaultItem code codeS it with
            | none => (r.counted, true)
            | some item => readRuleItems rest (r.counted.add item)

/-- A line is trimmed; what is blank then or begins with `#` is passed over. -/
def PassedOver (line : String) : Prop := trim line = "" ∨ (trim line).toList.head? = some '#'

instance (line : String) : Decidable (PassedOver line) :=
  inferInstanceAs (Decidable (_ ∨ _))

def readRuleLines (parse : String → Except String Json) :
    Nat → List String → RuleReading → LoadResult × RuleReading
  | _, [], r => (.done, r)
  | lineNo, line :: rest, r =>
    if PassedOver line then readRuleLines parse (lineNo + 1) rest r
    else
      match parse (trim line) with
      | .error what =>
        (.failed ("jsonl parse error at line " ++ toString lineNo ++ ": " ++ what), r)
      | .ok j =>
        match readRuleItems (itemsOf j) r with
        | (r, true) => (.threw, r)
        | (r, false) => readRuleLines parse (lineNo + 1) rest r

/-- `file` holds the lines, if it can be opened. -/
def FaultRuntimeMapper.loadJsonl (parse : String → Except String Json) (path : String)
    (file : Option (List String)) : LoadResult × FaultRuntimeMapper × LoadStats :=
  match file with
  | none => (.failed ("open failed: " ++ path), {}, {})
  | some lines =>
    let out := readRuleLines parse 1 lines {}
    (out.1, { rules := out.2.rules }, out.2.stats)

/-! ### What they refuse -/

/-- The code is read as a text, and the texts under the keys where there is one. -/
def KeysFit (keys : List String) (it : Json) : Prop :=
  (codeText it).isSome ∧ ((itemCode it).isSome → ∀ key ∈ keys, TextOrAbsent it key)

/-- Where a line parses, it begins with what JSON allows, and still parses trimmed. -/
def TrimParses (parse : String → Except String Json) : Prop :=
  ∀ line j, parse line = .ok j → ¬ PassedOver line ∧ parse (trim line) = .ok j

def itemsIn (parse : String → Except String Json) (line : String) : List Json :=
  match parse (trim line) with
  | .error _ => []
  | .ok j => (itemsOf j).filter Json.isObject

variable (parse : String → Except String Json)

/-- Neither reader goes on behind the line: no JSON, or an item whose code or name is no text. -/
def BothRefuse (line : String) : Prop :=
  ¬ PassedOver line ∧
    ((∃ what, parse (trim line) = .error what) ∨ ∃ it ∈ itemsIn parse line, ¬ KeysFit ["name"] it)

/-- The line is not blank to the catalogue, and it is no JSON untrimmed, or it has an item whose
type, level or classification is no text. -/
def CatalogRefuses (line : String) : Prop :=
  line ≠ "" ∧
    ((∃ what, parse line = .error what) ∨
      ∃ it ∈ itemsIn parse line,
        (itemCode it).isSome ∧
          ∃ key ∈ ["fault_type", "fault_level", "classification"], ¬ TextOrAbsent it key)

/-- The line has an item whose source or signal is no text. -/
def MapperRefuses (line : String) : Prop :=
  ¬ PassedOver line ∧
    ∃ it ∈ itemsIn parse line,
      (itemCode it).isSome ∧ ∃ key ∈ ["source", "signal"], ¬ TextOrAbsent it key

/-! ### Items -/

theorem keysFit_append (xs ys : List String) (it : Json) :
    KeysFit (xs ++ ys) it ↔ KeysFit xs it ∧ KeysFit ys it := by
  unfold KeysFit
  simp only [List.forall_mem_append]
  tauto

theorem not_keysFit_iff {keys : List String} {it : Json} (h : KeysFit ["name"] it) :
    ¬ KeysFit keys it ↔ (itemCode it).isSome ∧ ∃ key ∈ keys, ¬ TextOrAbsent it key := by
  unfold KeysFit
  rw [not_and, Classical.not_imp, not_forall]
  simp only [Classical.not_imp]
  exact ⟨fun hfit => hfit h.1, fun hbad _ => hbad⟩

theorem textsFit_iff (it : Json) :
    TextsFit it ↔
      KeysFit ["name"] it ∧ KeysFit ["fault_type", "fault_level", "classification"] it := by
  rw [← keysFit_append, KeysFit, isSome_codeText_iff]
  exact ⟨fun h => ⟨⟨h.codeHex, h.path⟩, h.others⟩, fun h => ⟨h.1.1, h.1.2, h.2⟩⟩

theorem isSome_readFaultItem_iff (code : BitVec 16) (codeS : String) (it : Json) :
    (readFaultItem code codeS it).isSome ↔
      TextOrAbsent it "code_hex" ∧ ∀ key ∈ ["name", "source", "signal"], TextOrAbsent it key := by
  simp only [List.forall_mem_cons, ← isSome_textAt_iff it "code_hex" codeS,
    ← isSome_textAt_iff it _ ""]
  exact isSome_bind_iff fun _ => isSome_bind_iff fun _ => isSome_bind_iff fun _ =>
    isSome_bind_iff fun _ => by simp

theorem code_of_readFaultItem {code : BitVec 16} {codeS : String} {it : Json} {item : FaultItem}
    (h : readFaultItem code codeS it = some item) : item.code = code := by
  simp only [readFaultItem, Option.bind_eq_bind, Option.bind_eq_some_iff] at h
  obtain ⟨_, _, _, _, _, _, _, _, hitem⟩ := h
  exact congrArg FaultItem.code (Option.some.inj hitem).symm

theorem code_of_loadItem {it : FaultItem} {rule : Rule} (h : loadItem it = some rule) :
    rule.code = it.code := by
  unfold loadItem at h
  dsimp only at h
  split at h
  · cases h
  split at h
  · cases h
  exact congrArg Rule.code (Option.some.inj h).symm

/-- What one item does to the rules. -/
theorem readRuleItems_cons {it : Json} (hobj : it.isObject = true) (rest : List Json)
    (r : RuleReading) :
    (¬ KeysFit ["name", "source", "signal"] it ∧
      ∃ r', readRuleItems (it :: rest) r = (r', true) ∧ r'.rules = r.rules) ∨
    KeysFit ["name", "source", "signal"] it ∧
      ∃ r', readRuleItems (it :: rest) r = readRuleItems rest r' ∧
        ∀ rule ∈ r'.rules, rule ∈ r.rules ∨ itemCode it = some rule.code := by
  rw [readRuleItems, if_neg (by simp [hobj]), KeysFit, itemCode]
  cases htext : codeText it with
  | none => exact Or.inl ⟨by simp, r, rfl, rfl⟩
  | some codeS =>
    have hhex : TextOrAbsent it "code_hex" :=
      (isSome_codeText_iff.mp (htext ▸ Option.isSome_some)).1
    rw [Option.bind_some]
    dsimp only
    by_cases hempty : codeS = ""
    · rw [if_pos hempty, hempty, parseCode_empty]
      exact Or.inr ⟨⟨rfl, (fun h => by cases h)⟩, r, rfl, fun rule hrule => Or.inl hrule⟩
    rw [if_neg hempty]
    cases hcode : parseCode codeS with
    | none =>
      exact Or.inr ⟨⟨rfl, (fun h => by cases h)⟩, r, rfl, fun rule hrule => Or.inl hrule⟩
    | some code =>
      have hitem := isSome_readFaultItem_iff code codeS it
      dsimp only
      cases hread : readFaultItem code codeS it with
      | none =>
        rw [hread] at hitem
        refine Or.inl ⟨fun hfit => ?_, r.counted, rfl, rfl⟩
        exact Bool.false_ne_true (hitem.mpr ⟨hhex, hfit.2 rfl⟩)
      | some item =>
        rw [hread] at hitem
        refine Or.inr ⟨⟨rfl, fun _ => (hitem.mp rfl).2⟩, r.counted.add item, rfl, ?_⟩
        intro rule hrule
        unfold RuleReading.add at hrule
        cases hload : loadItem item with
        | none =>
          rw [hload] at hrule
          dsimp only at hrule
          split at hrule
          · exact Or.inl hrule
          · exact Or.inl hrule
        | some made =>
          rw [hload] at hrule
          obtain hold | hnew := List.mem_append.mp hrule
          · exact Or.inl hold
          · right
            rw [List.mem_singleton.mp hnew, code_of_loadItem hload, code_of_readFaultItem hread]

/-! ### Lines -/

section Lines

variable {parse}

theorem readItems_threw_iff (items : List Json) (r : CatalogReading) :
    (readItems items r).2 = true ↔ ∃ it ∈ items.filter Json.isObject, ¬ TextsFit it := by
  refine ⟨fun h => ?_, readItems_of_unfit⟩
  by_contra hfit
  push Not at hfit
  rw [readItems_of_fit hfit] at h
  exact Bool.false_ne_true h

theorem readRuleItems_spec (items : List Json) (r : RuleReading) :
    ((readRuleItems items r).2 = true ↔
      ∃ it ∈ items.filter Json.isObject, ¬ KeysFit ["name", "source", "signal"] it) ∧
    ∀ rule ∈ (readRuleItems items r).1.rules, rule ∈ r.rules ∨
      ∃ it ∈ items.filter Json.isObject, itemCode it = some rule.code := by
  induction items generalizing r with
  | nil => exact ⟨by simp [readRuleItems], fun rule hrule => Or.inl hrule⟩
  | cons it rest ih =>
    cases hobj : it.isObject with
    | false =>
      rw [List.filter_cons_of_neg (by simp [hobj]), readRuleItems, if_pos (by simp [hobj])]
      exact ih r
    | true =>
      rw [List.filter_cons_of_pos hobj]
      simp only [List.mem_cons, exists_eq_or_imp]
      obtain ⟨hunfit, r', hstop, hrules⟩ | ⟨hfit, r', hgo, hrules⟩ := readRuleItems_cons hobj rest r
      · rw [hstop]
        refine ⟨⟨fun _ => Or.inl hunfit, fun _ => rfl⟩, fun rule hrule => Or.inl ?_⟩
        exact hrules ▸ hrule
      · rw [hgo]
        refine ⟨?_, fun rule hrule => ?_⟩
        · rw [(ih r').1]
          exact ⟨Or.inr, fun h => h.resolve_left fun hunfit => hunfit hfit⟩
        · obtain hmem | hrest := (ih r').2 rule hrule
          · obtain hold | hnew := hrules rule hmem
            · exact Or.inl hold
            · exact Or.inr (Or.inl hnew)
          · exact Or.inr (Or.inr hrest)

theorem itemsIn_of_ok {line : String} {j : Json} (h : parse (trim line) = .ok j) :
    itemsIn parse line = (itemsOf j).filter Json.isObject := by
  rw [itemsIn, h]

/-- The catalogue goes on behind a line that neither it nor both refuse. -/
theorem readLines_done_iff (hparse : TrimParses parse) (lines : List String) (lineNo : Nat)
    (r : CatalogReading) :
    (readLines parse lineNo lines r).1 = .done ↔
      ∀ line ∈ lines, ¬ BothRefuse parse line ∧ ¬ CatalogRefuses parse line := by
  induction lines generalizing lineNo r with
  | nil => exact ⟨(fun _ _ hline => by cases hline), fun _ => rfl⟩
  | cons line rest ih =>
    rw [readLines, List.forall_mem_cons]
    by_cases hempty : line = ""
    · have hpassed : PassedOver line := by
        rw [hempty]
        exact Or.inl rfl
      have hline : ¬ BothRefuse parse line ∧ ¬ CatalogRefuses parse line :=
        ⟨fun h => h.1 hpassed, fun h => h.1 hempty⟩
      rw [if_pos hempty, ih]
      exact (and_iff_right hline).symm
    rw [if_neg hempty]
    cases hj : parse line with
    | error what =>
      exact ⟨(fun h => by cases h), fun h => absurd ⟨hempty, Or.inl ⟨what, hj⟩⟩ h.1.2⟩
    | ok j =>
      obtain ⟨hpassed, htrim⟩ := hparse line j hj
      have hitems := itemsIn_of_ok htrim
      have hthrew := readItems_threw_iff (itemsOf j) r
      rw [← hitems] at hthrew
      dsimp only
      cases hread : readItems (itemsOf j) r with
      | mk r' threw =>
        rw [hread] at hthrew
        cases threw with
        | true =>
          refine ⟨(fun h => by cases h), fun h => ?_⟩
          obtain ⟨it, hit, hunfit⟩ := hthrew.mp rfl
          have hname : KeysFit ["name"] it := by
            by_contra hname
            exact h.1.1 ⟨hpassed, Or.inr ⟨it, hit, hname⟩⟩
          rw [textsFit_iff, not_and] at hunfit
          refine absurd ⟨hempty, Or.inr ⟨it, hit, ?_⟩⟩ h.1.2
          exact (not_keysFit_iff hname).mp (hunfit hname)
        | false =>
          have hfit : ∀ it ∈ itemsIn parse line, TextsFit it := by
            intro it hit
            by_contra hunfit
            exact Bool.false_ne_true (hthrew.mpr ⟨it, hit, hunfit⟩)
          have hline : ¬ BothRefuse parse line ∧ ¬ CatalogRefuses parse line := by
            constructor
            · intro h
              rcases h with ⟨-, ⟨what, herror⟩ | ⟨it, hit, hname⟩⟩
              · rw [htrim] at herror
                cases herror
              · exact hname ((textsFit_iff it).mp (hfit it hit)).1
            · intro h
              rcases h with ⟨-, ⟨what, herror⟩ | ⟨it, hit, hbad⟩⟩
              · rw [hj] at herror
                cases herror
              · obtain ⟨hname, hothers⟩ := (textsFit_iff it).mp (hfit it hit)
                exact (not_keysFit_iff hname).mpr hbad hothers
          exact (ih (lineNo + 1) r').trans (and_iff_right hline).symm

/-- The rules go on behind a line that neither they nor both refuse; a code that they have found
stands in an item of the lines. -/
theorem readRuleLines_spec (lines : List String) (lineNo : Nat) (r : RuleReading) :
    ((readRuleLines parse lineNo lines r).1 = .done ↔
      ∀ line ∈ lines, ¬ BothRefuse parse line ∧ ¬ MapperRefuses parse line) ∧
    ∀ rule ∈ (readRuleLines parse lineNo lines r).2.rules, rule ∈ r.rules ∨
      ∃ line ∈ lines, ¬ PassedOver line ∧ ∃ it ∈ itemsIn parse line,
        itemCode it = some rule.code := by
  induction lines generalizing lineNo r with
  | nil => exact ⟨⟨fun _ => nofun, fun _ => rfl⟩, fun rule hrule => Or.inl hrule⟩
  | cons line rest ih =>
    rw [readRuleLines, List.forall_mem_cons]
    simp only [List.mem_cons, exists_eq_or_imp]
    by_cases hpassed : PassedOver line
    · have hline : ¬ BothRefuse parse line ∧ ¬ MapperRefuses parse line :=
        ⟨fun h => h.1 hpassed, fun h => h.1 hpassed⟩
      rw [if_pos hpassed]
      obtain ⟨hdone, hrules⟩ := ih (lineNo + 1) r
      exact ⟨hdone.trans (and_iff_right hline).symm,
        fun rule hrule => (hrules rule hrule).imp_right Or.inr⟩
    rw [if_neg hpassed]
    cases hj : parse (trim line) with
    | error what =>
      refine ⟨⟨nofun, fun h => absurd ⟨hpassed, Or.inl ⟨what, hj⟩⟩ h.1.1⟩, ?_⟩
      exact fun rule hrule => Or.inl hrule
    | ok j =>
      obtain ⟨hthrew, hfound⟩ := readRuleItems_spec (itemsOf j) r
      rw [← itemsIn_of_ok hj] at hthrew hfound
      dsimp only
      cases hread : readRuleItems (itemsOf j) r with
      | mk r' threw =>
        rw [hread] at hthrew hfound
        cases threw with
        | true =>
          refine ⟨⟨nofun, fun h => ?_⟩, fun rule hrule => (hfound rule hrule).imp_right fun hit =>
            Or.inl ⟨hpassed, hit⟩⟩
          obtain ⟨it, hit, hunfit⟩ := hthrew.mp rfl
          have hname : KeysFit ["name"] it := by
            by_contra hname
            exact h.1.1 ⟨hpassed, Or.inr ⟨it, hit, hname⟩⟩
          have hothers : ¬ KeysFit ["source", "signal"] it := fun hothers =>
            hunfit ((keysFit_append ["name"] _ it).mpr ⟨hname, hothers⟩)
          exact absurd ⟨hpassed, it, hit, (not_keysFit_iff hname).mp hothers⟩ h.1.2
        | false =>
          have hfit : ∀ it ∈ itemsIn parse line,
              KeysFit ["name"] it ∧ KeysFit ["source", "signal"] it := by
            intro it hit
            rw [← keysFit_append]
            by_contra hunfit
            exact Bool.false_ne_true (hthrew.mpr ⟨it, hit, hunfit⟩)
          have hline : ¬ BothRefuse parse line ∧ ¬ MapperRefuses parse line := by
            constructor
            · intro h
              rcases h with ⟨-, ⟨what, herror⟩ | ⟨it, hit, hname⟩⟩
              · rw [hj] at herror
                cases herror
              · exact hname (hfit it hit).1
            · intro ⟨_, it, hit, hbad⟩
              exact (not_keysFit_iff (hfit it hit).1).mpr hbad (hfit it hit).2
          obtain ⟨hdone, hrules⟩ := ih (lineNo + 1) r'
          refine ⟨hdone.trans (and_iff_right hline).symm, fun rule hrule => ?_⟩
          obtain hmem | hlater := hrules rule hrule
          · exact (hfound rule hmem).imp_right fun hit => Or.inl ⟨hpassed, hit⟩
          · exact Or.inr (Or.inr hlater)

theorem exists_mem_entries {items : List Json} (h : ∀ it ∈ items, TextsFit it) (n : Nat) {it : Json}
    (hit : it ∈ items) {code : BitVec 16} (hcode : itemCode it = some code) :
    ∃ m ∈ entries n items, m.code = code := by
  induction items generalizing n with
  | nil => exact absurd hit List.not_mem_nil
  | cons x rest ih =>
    obtain ⟨o, ho⟩ := Option.isSome_iff_exists.mp
      (isSome_readItem_iff.mpr (h x List.mem_cons_self) : (readItem n x).isSome)
    have hrest := ih fun y hy => h y (List.mem_cons_of_mem x hy)
    rw [entries, ho]
    obtain rfl | hmem := List.mem_cons.mp hit
    · rw [itemCode_of_readItem ho] at hcode
      obtain ⟨m, rfl, hm⟩ := Option.map_eq_some_iff.mp hcode
      exact ⟨m, List.mem_cons_self, hm⟩
    · cases o with
      | none => exact hrest n hmem
      | some m =>
        obtain ⟨m', hm', hcode'⟩ := hrest (n + 1) hmem
        exact ⟨m', List.mem_cons_of_mem m hm', hcode'⟩

theorem mem_itemsReached {lines : List String} (hgood : ¬ HasBadLine parse lines) {line : String}
    (hline : line ∈ lines) (hempty : line ≠ "") {j : Json} (hj : parse line = .ok j) {it : Json}
    (hit : it ∈ (itemsOf j).filter Json.isObject) : it ∈ itemsReached parse lines := by
  induction lines with
  | nil => exact absurd hline List.not_mem_nil
  | cons x rest ih =>
    rw [hasBadLine_cons, not_or] at hgood
    rw [itemsReached]
    by_cases hx : x = ""
    · rw [if_pos hx]
      refine ih hgood.2 ((List.mem_cons.mp hline).resolve_left fun heq => hempty ?_)
      rw [heq, hx]
    · rw [if_neg hx]
      obtain rfl | hmem := List.mem_cons.mp hline
      · rw [hj]
        exact List.mem_append_left _ hit
      · cases hparse : parse x with
        | error what => exact absurd ⟨hx, what, hparse⟩ hgood.1
        | ok jx => exact List.mem_append_right _ (ih hgood.2 hmem)

/-- A catalogue that was read has an entry for every code in the lines. -/
theorem isSome_metaOf (hparse : TrimParses parse) (path : String) {lines : List String}
    (hdone : (LoadedCatalog.loadJsonl parse path (some lines)).1 = .done) {line : String}
    (hline : line ∈ lines) (hpassed : ¬ PassedOver line) {it : Json}
    (hit : it ∈ itemsIn parse line) {code : BitVec 16} (hcode : itemCode it = some code) :
    ((LoadedCatalog.loadJsonl parse path (some lines)).2.metaOf code).isSome := by
  have hread : (readLines parse 1 lines {}).1 = .done := by
    rw [LoadedCatalog.loadJsonl] at hdone
    cases hlines : readLines parse 1 lines {} with
    | mk result r =>
      rw [hlines] at hdone
      cases result with
      | done => rfl
      | failed err => cases hdone
      | threw => cases hdone
  have hfit : ∀ it ∈ itemsReached parse lines, TextsFit it := by
    by_contra hunfit
    push Not at hunfit
    rw [readLines_of_unfit 1 hunfit] at hread
    cases hread
  have hgood := (readLines_of_fit 1 hfit).2.2.mp hread
  have hempty : line ≠ "" := by
    intro heq
    rw [heq] at hpassed
    exact hpassed (Or.inl rfl)
  cases hj : parse line with
  | error what => exact absurd ⟨line, hline, hempty, what, hj⟩ hgood
  | ok j =>
    rw [itemsIn_of_ok (hparse line j hj).2] at hit
    obtain ⟨m, hm, rfl⟩ := exists_mem_entries hfit 0 (mem_itemsReached hgood hline hempty hj hit)
      hcode
    rw [LoadedCatalog.loadJsonl_of_fit path hfit, if_pos hread]
    exact LoadedCatalog.isSome_get_run hm

end Lines

/-! ### One file, two readers -/

/-- The readers take the file or neither does, and what the rules set the catalogue knows. -/
structure ReadersAgree (path : String) (file : Option (List String)) : Prop where
  same : (LoadedCatalog.loadJsonl parse path file).1 = .done ↔
    (FaultRuntimeMapper.loadJsonl parse path file).1 = .done
  covered : (LoadedCatalog.loadJsonl parse path file).1 = .done →
    (FaultRuntimeMapper.loadJsonl parse path file).1 = .done →
      ∀ rule ∈ (FaultRuntimeMapper.loadJsonl parse path file).2.1.rules,
        ((LoadedCatalog.loadJsonl parse path file).2.metaOf rule.code).isSome

/-- Both stop at one line of the file, or both readers or none have a line that they alone
refuse. -/
def SameDefects (lines : List String) : Prop :=
  (∃ line ∈ lines, BothRefuse parse line) ∨
    ((∃ line ∈ lines, CatalogRefuses parse line) ↔ ∃ line ∈ lines, MapperRefuses parse line)

theorem catalog_done_iff (path : String) (lines : List String) :
    (LoadedCatalog.loadJsonl parse path (some lines)).1 = .done ↔
      (readLines parse 1 lines {}).1 = .done := by
  rw [LoadedCatalog.loadJsonl]
  cases readLines parse 1 lines {} with
  | mk result r => cases result <;> simp

/-- The readers agree on a file exactly if its defects are theirs together. -/
theorem readersAgree_iff {parse : String → Except String Json} (hparse : TrimParses parse)
    (path : String) (file : Option (List String)) :
    ReadersAgree parse path file ↔ ∀ lines, file = some lines → SameDefects parse lines := by
  cases file with
  | none => exact ⟨fun _ => nofun, fun _ => ⟨⟨nofun, nofun⟩, nofun⟩⟩
  | some lines =>
    have hcatalog :=
      (catalog_done_iff parse path lines).trans (readLines_done_iff hparse lines 1 {})
    obtain ⟨hmapper, hrules⟩ := @readRuleLines_spec parse lines 1 {}
    have hcovered : (LoadedCatalog.loadJsonl parse path (some lines)).1 = .done →
        ∀ rule ∈ (FaultRuntimeMapper.loadJsonl parse path (some lines)).2.1.rules,
          ((LoadedCatalog.loadJsonl parse path (some lines)).2.metaOf rule.code).isSome := by
      intro hdone rule hrule
      obtain hnone | ⟨line, hline, hpassed, it, hit, hcode⟩ := hrules rule hrule
      · exact absurd hnone List.not_mem_nil
      · exact isSome_metaOf hparse path hdone hline hpassed hit hcode
    have hsame : ReadersAgree parse path (some lines) ↔
        ((∀ line ∈ lines, ¬ BothRefuse parse line ∧ ¬ CatalogRefuses parse line) ↔
          ∀ line ∈ lines, ¬ BothRefuse parse line ∧ ¬ MapperRefuses parse line) := by
      rw [← hcatalog, ← hmapper]
      exact ⟨fun h => h.same, fun h => ⟨h, fun hdone _ => hcovered hdone⟩⟩
    have hsplit : ∀ p q : String → Prop, (∀ line ∈ lines, ¬ p line ∧ ¬ q line) ↔
        ¬ (∃ line ∈ lines, p line) ∧ ¬ ∃ line ∈ lines, q line := by
      intro p q
      push Not
      exact ⟨fun h => ⟨fun line hline => (h line hline).1, fun line hline => (h line hline).2⟩,
        fun h line hline => ⟨h.1 line hline, h.2 line hline⟩⟩
    rw [hsame, hsplit, hsplit]
    simp only [Option.some.injEq, forall_eq', SameDefects]
    by_cases hboth : ∃ line ∈ lines, BothRefuse parse line
    · simp only [hboth, not_true_eq_false, false_and, true_or]
    · simp only [hboth, not_false_eq_true, true_and, false_or, not_iff_not]

open LoadedCatalog (parseLine gasLine numberLine)

theorem parseLine_trims : TrimParses parseLine := by
  intro line j h
  have hline : line = gasLine ∨ line = numberLine := by
    unfold parseLine at h
    by_contra hneither
    rw [not_or] at hneither
    rw [if_neg hneither.1, if_neg hneither.2] at h
    cases h
  have htrim : trim line = line ∧ ¬ PassedOver line := by
    rcases hline with rfl | rfl <;> decide +kernel
  exact ⟨htrim.2, htrim.1.symm ▸ h⟩

theorem gas_readersAgree :
    ReadersAgree parseLine "fault_map.jsonl" (some [gasLine, ""]) := by
  refine (readersAgree_iff parseLine_trims _ _).mpr ?_
  intro lines hlines
  cases hlines
  have hitems : itemsIn parseLine gasLine = [.object [("code_hex", .string "0x0081")]] := by
    have htrim : trim gasLine = gasLine := by decide +kernel
    rw [itemsIn, htrim]
    rfl
  have habsent : ∀ keys : List String, "code_hex" ∉ keys →
      ¬ ∃ it ∈ itemsIn parseLine gasLine, (itemCode it).isSome ∧
        ∃ key ∈ keys, ¬ TextOrAbsent it key := by
    intro keys hkeys ⟨it, hit, _, key, hkey, hbad⟩
    rw [hitems, List.mem_singleton] at hit
    rw [hit] at hbad
    refine hbad fun v hv => ?_
    have hne : (key == "code_hex") = false :=
      beq_eq_false_iff_ne.mpr fun heq => hkeys (heq ▸ hkey)
    simp [Json.find, List.lookup, hne] at hv
  refine Or.inr ⟨?_, ?_⟩
  · intro ⟨line, hline, hempty, hrefused⟩
    obtain rfl : line = gasLine := by simpa [hempty] using hline
    obtain ⟨what, herror⟩ | hbad := hrefused
    · cases herror
    · exact absurd hbad (habsent _ (by decide))
  · intro ⟨line, hline, hpassed, hbad⟩
    obtain rfl : line = gasLine := by
      have hempty : line ≠ "" := fun heq => hpassed (heq ▸ Or.inl rfl)
      simpa [hempty] using hline
    exact absurd hbad (habsent _ (by decide))

/-- A comment ends the catalogue and is passed over by the rules. -/
theorem comment_splits_readers :
    ¬ ReadersAgree parseLine "fault_map.jsonl" (some ["# gas", gasLine]) := by
  intro h
  have hcatalog : (LoadedCatalog.loadJsonl parseLine "fault_map.jsonl"
      (some ["# gas", gasLine])).1 ≠ .done := by decide
  have hmapper : (FaultRuntimeMapper.loadJsonl parseLine "fault_map.jsonl"
      (some ["# gas", gasLine])).1 = .done := by decide
  exact hcatalog (h.same.mpr hmapper)

end Fault
end EnergyStorage
