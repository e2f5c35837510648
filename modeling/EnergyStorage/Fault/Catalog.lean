import EnergyStorage.Fault.Center
import EnergyStorage.Fault.Tokens
import EnergyStorage.Lib.Best
import EnergyStorage.Lib.Json
import EnergyStorage.Lib.Numeral

/-! # Loading the catalogue of faults

Each line of the file is a block of items.  Of the items with one code the one of the best rank
is kept.  The lists of codes are made at the end of the file, from what is kept then. -/

namespace EnergyStorage
namespace Fault

open Lib (Json BestOf FirstLeast)
open Lib.Numeral (stoul stoi)

/-! ### Reading values -/

def to16 (v : Nat) : Option (BitVec 16) := if 0xFFFF < v then none else some (BitVec.ofNat 16 v)

def parseHexU16 (s : String) : Option (BitVec 16) :=
  let cs := s.toList
  let t := if cs.take 2 = ['0', 'x'] ∨ cs.take 2 = ['0', 'X'] then cs.drop 2 else cs
  if t = [] then none else (stoul 16 (t.dropWhile isSpace)).bind to16

/-- What does not read as a hexadecimal number is read as a decimal one. -/
def parseCode (s : String) : Option (BitVec 16) :=
  (parseHexU16 s).or ((stoul 10 (s.toList.dropWhile isSpace)).bind to16)

example : parseCode "0x0081" = some 0x81 ∧ parseCode "1001" = some 0x1001 ∧
    parseCode "0x12345" = some 0 ∧ parseCode "" = none := by decide

def parseBoolLoose (v : Json) (defv : Bool) : Bool :=
  match v with
  | .boolean b => b
  | .unsigned n => n ≠ 0
  | .integer i => i ≠ 0
  | .string s =>
    let t := String.ofList (s.toList.map Char.toLower)
    if t ∈ ["1", "true", "yes", "y"] then true
    else if t ∈ ["0", "false", "no", "n"] then false
    else defv
  | .null | .float _ | .array _ | .object _ => defv

def parseIntLoose (v : Json) (defv : Int) : Int :=
  match v with
  | .unsigned n => (BitVec.ofNat 32 n).toInt
  | .integer i => (BitVec.ofInt 32 i).toInt
  | .string s => (stoi (s.toList.dropWhile isSpace)).getD defv
  | .null | .boolean _ | .float _ | .array _ | .object _ => defv

/-- Whether a fault is shown among the current ones and in the history. -/
def parseClassificationFlags (classification : String) : Bool × Bool :=
  if classification = "A1" ∨ classification = "B1" then (true, true)
  else if classification = "C1" then (false, true)
  else (false, false)

/-! ### Items -/

structure CatalogMeta extends FaultMeta where
  code : BitVec 16
  codeHex : String
  faultType : String
  faultLevel : String
  reserved : Bool
  showHmiCurrent : Bool
  showHmiHistory : Bool
  sourceOrder : Int

/-- `value` with a text as default; none where it throws, at a value of another kind. -/
def textAt (it : Json) (key dflt : String) : Option String :=
  match it.find key with
  | none => some dflt
  | some (.string s) => some s
  | some _ => none

def codeText (it : Json) : Option String :=
  (textAt it "code_hex" "").bind fun s => if s = "" then textAt it "path" "" else some s

def shownFlags (it : Json) (classification : String) : Bool × Bool :=
  match it.find "show_hmi_current", it.find "show_hmi_history" with
  | none, none => parseClassificationFlags classification
  | cur, his => ((cur.map (parseBoolLoose · false)).getD false,
      (his.map (parseBoolLoose · false)).getD false)

def readMeta (sourceOrder : Nat) (code : BitVec 16) (codeS : String) (it : Json) :
    Option CatalogMeta := do
  let codeHex ← textAt it "code_hex" codeS
  let name ← textAt it "name" ""
  let faultType ← textAt it "fault_type" ""
  let faultLevel ← textAt it "fault_level" ""
  let classification ← textAt it "classification" ""
  let shown := shownFlags it classification
  some
    { code, codeHex, name, faultType, faultLevel, classification
      recordDb := parseBoolLoose ((it.find "record_db").getD .null) true
      reserved := parseBoolLoose ((it.find "reserved").getD .null) false
      priorityRank := parseIntLoose ((it.find "priority_rank").getD .null) 9999
      sourceOrder := parseIntLoose ((it.find "source_order").getD .null) sourceOrder
      showHmiCurrent := shown.1
      showHmiHistory := shown.2 }

/-- One item, after as many others as `sourceOrder` says: none where it throws, no entry where it
is passed over. -/
def readItem (sourceOrder : Nat) (it : Json) : Option (Option CatalogMeta) :=
  (codeText it).bind fun codeS =>
    if codeS = "" then some none
    else
      match parseCode codeS with
      | none => some none
      | some code => (readMeta sourceOrder code codeS it).map some

/-! ### The lines of the file -/

def better (m old : CatalogMeta) : Bool :=
  decide (m.priorityRank < old.priorityRank) ||
    (decide (m.priorityRank = old.priorityRank) && decide (m.sourceOrder < old.sourceOrder))

structure CatalogReading where
  sourceOrder : Nat := 0
  metaByCode : BestOf CatalogMeta.code := .empty

def CatalogReading.add (r : CatalogReading) (m : CatalogMeta) : CatalogReading :=
  ⟨r.sourceOrder + 1, r.metaByCode.offer better m⟩

def itemsOf (j : Json) : List Json :=
  match j.find "items" with
  | some (.array arr) => arr
  | _ => []

/-- The items of a line, up to one that throws, and whether there is one. -/
def readItems : List Json → CatalogReading → CatalogReading × Bool
  | [], r => (r, false)
  | it :: rest, r =>
    if !it.isObject then readItems rest r
    else
      match readItem r.sourceOrder it with
      | none => (r, true)
      | some none => readItems rest r
      | some (some m) => readItems rest (r.add m)

inductive LoadResult where
  | done
  | failed (err : String)
  | threw
  deriving DecidableEq, Repr

/-- The lines from number `lineNo` on; `parse` is the JSON parser, with the text of its error. -/
def readLines (parse : String → Except String Json) :
    Nat → List String → CatalogReading → LoadResult × CatalogReading
  | _, [], r => (.done, r)
  | lineNo, line :: rest, r =>
    if line = "" then readLines parse (lineNo + 1) rest r
    else
      match parse line with
      | .error what =>
        (.failed ("json parse failed at line " ++ toString lineNo ++ ": " ++ what), r)
      | .ok j =>
        match readItems (itemsOf j) r with
        | (r, true) => (.threw, r)
        | (r, false) => readLines parse (lineNo + 1) rest r

/-! ### The catalogue -/

structure LoadedCatalog where
  metaByCode : BestOf CatalogMeta.code := .empty
  allCodes : List (BitVec 16) := []
  currentCodes : List (BitVec 16) := []
  historyCodes : List (BitVec 16) := []

def before (a b : CatalogMeta) : Bool :=
  if a.priorityRank ≠ b.priorityRank then decide (a.priorityRank < b.priorityRank)
  else if a.sourceOrder ≠ b.sourceOrder then decide (a.sourceOrder < b.sourceOrder)
  else decide (a.code < b.code)

namespace LoadedCatalog

def metaOf (c : LoadedCatalog) (code : BitVec 16) : Option CatalogMeta := c.metaByCode.get code

def showInCurrent (c : LoadedCatalog) (code : BitVec 16) : Bool :=
  ((c.metaOf code).map CatalogMeta.showHmiCurrent).getD false

def showInHistory (c : LoadedCatalog) (code : BitVec 16) : Bool :=
  ((c.metaOf code).map CatalogMeta.showHmiHistory).getD false

/-- What the fault center looks up. -/
def toCatalog (c : LoadedCatalog) : FaultCatalog := fun code => (c.metaOf code).map (·.toFaultMeta)

def index (metaByCode : BestOf CatalogMeta.code) : LoadedCatalog :=
  let metas := metaByCode.items.mergeSort fun a b => !before b a
  { metaByCode
    allCodes := metas.map CatalogMeta.code
    currentCodes := (metas.filter CatalogMeta.showHmiCurrent).map CatalogMeta.code
    historyCodes := (metas.filter CatalogMeta.showHmiHistory).map CatalogMeta.code }

/-- `file` holds the lines, if it can be opened. -/
def loadJsonl (parse : String → Except String Json) (path : String)
    (file : Option (List String)) : LoadResult × LoadedCatalog :=
  match file with
  | none => (.failed ("open failed: " ++ path), {})
  | some lines =>
    match readLines parse 1 lines {} with
    | (.done, r) => (.done, index r.metaByCode)
    | (result, r) => (result, { metaByCode := r.metaByCode })

end LoadedCatalog

/-! ### What an item gives -/

def TextOrAbsent (it : Json) (key : String) : Prop := ∀ v, it.find key = some v → ∃ s, v = .string s

def itemCode (it : Json) : Option (BitVec 16) := (codeText it).bind parseCode

/-- The values that are read as texts are texts.  The path is read where there is no code, the
rest where a code was found. -/
structure TextsFit (it : Json) : Prop where
  codeHex : TextOrAbsent it "code_hex"
  path : textAt it "code_hex" "" = some "" → TextOrAbsent it "path"
  others : (itemCode it).isSome →
    ∀ key ∈ ["name", "fault_type", "fault_level", "classification"], TextOrAbsent it key

section Items

variable {it : Json} {n : Nat} {m : CatalogMeta}

theorem isSome_textAt_iff (it : Json) (key dflt : String) :
    (textAt it key dflt).isSome ↔ TextOrAbsent it key := by
  rw [textAt, TextOrAbsent]
  cases hv : it.find key with
  | none => simp
  | some v => cases v <;> simp

theorem isSome_bind_iff {α β : Type*} {o : Option α} {f : α → Option β} {p : Prop}
    (h : ∀ a, (f a).isSome ↔ p) : (o.bind f).isSome ↔ o.isSome ∧ p := by
  cases o with
  | none => simp
  | some a => simp [h a]

theorem isSome_readMeta_iff (sourceOrder : Nat) (code : BitVec 16) (codeS : String) (it : Json) :
    (readMeta sourceOrder code codeS it).isSome ↔
      TextOrAbsent it "code_hex" ∧
        ∀ key ∈ ["name", "fault_type", "fault_level", "classification"], TextOrAbsent it key := by
  simp only [List.forall_mem_cons, ← isSome_textAt_iff it "code_hex" codeS,
    ← isSome_textAt_iff it _ ""]
  exact isSome_bind_iff fun _ => isSome_bind_iff fun _ => isSome_bind_iff fun _ =>
    isSome_bind_iff fun _ => isSome_bind_iff fun _ => by simp

theorem isSome_codeText_iff :
    (codeText it).isSome ↔ TextOrAbsent it "code_hex" ∧
      (textAt it "code_hex" "" = some "" → TextOrAbsent it "path") := by
  rw [codeText, ← isSome_textAt_iff it "code_hex" "", ← isSome_textAt_iff it "path" ""]
  cases textAt it "code_hex" "" with
  | none => simp
  | some s =>
    by_cases hs : s = ""
    · simp [hs]
    · simp [hs]

theorem parseCode_empty : parseCode "" = none := by decide

theorem readItem_eq (n : Nat) (it : Json) :
    readItem n it = (codeText it).bind fun codeS =>
      match parseCode codeS with
      | none => some none
      | some code => (readMeta n code codeS it).map some := by
  rw [readItem]
  congr 1
  funext codeS
  by_cases hs : codeS = ""
  · rw [if_pos hs, hs, parseCode_empty]
  · rw [if_neg hs]

theorem isSome_readItem_iff : (readItem n it).isSome ↔ TextsFit it := by
  have hfit : TextsFit it ↔ (codeText it).isSome ∧ ((itemCode it).isSome →
      ∀ key ∈ ["name", "fault_type", "fault_level", "classification"], TextOrAbsent it key) := by
    rw [isSome_codeText_iff]
    exact ⟨fun h => ⟨⟨h.codeHex, h.path⟩, h.others⟩, fun h => ⟨h.1.1, h.1.2, h.2⟩⟩
  rw [hfit, readItem_eq, itemCode]
  cases htext : codeText it with
  | none => simp
  | some codeS =>
    have hhex : TextOrAbsent it "code_hex" :=
      (isSome_codeText_iff.mp (htext ▸ Option.isSome_some)).1
    rw [Option.bind_some, Option.bind_some]
    cases parseCode codeS with
    | none => simp
    | some code => simp [isSome_readMeta_iff, hhex]

theorem code_of_readMeta {code : BitVec 16} {codeS : String}
    (h : readMeta n code codeS it = some m) : m.code = code := by
  simp only [readMeta, Option.bind_eq_bind, Option.bind_eq_some_iff] at h
  obtain ⟨_, _, _, _, _, _, _, _, _, _, hm⟩ := h
  exact congrArg CatalogMeta.code (Option.some.inj hm).symm

/-- An item that does not throw is taken if it has a code, and under that code. -/
theorem itemCode_of_readItem {o : Option CatalogMeta} (h : readItem n it = some o) :
    itemCode it = o.map CatalogMeta.code := by
  rw [readItem_eq] at h
  obtain ⟨codeS, htext, h⟩ := Option.bind_eq_some_iff.mp h
  rw [itemCode, htext, Option.bind_some]
  cases hcode : parseCode codeS with
  | none =>
    rw [hcode] at h
    rw [← Option.some.inj h]
    rfl
  | some code =>
    rw [hcode] at h
    obtain ⟨m, hm, rfl⟩ := Option.map_eq_some_iff.mp h
    rw [Option.map_some, code_of_readMeta hm]

end Items

/-! ### What the lines give -/

/-- The entries of the items, in the order of the file. -/
def entries : Nat → List Json → List CatalogMeta
  | _, [] => []
  | n, it :: rest =>
    match readItem n it with
    | some (some m) => m :: entries (n + 1) rest
    | _ => entries n rest

/-- The items up to the first line that does not parse. -/
def itemsReached (parse : String → Except String Json) : List String → List Json
  | [] => []
  | line :: rest =>
    if line = "" then itemsReached parse rest
    else
      match parse line with
      | .error _ => []
      | .ok j => (itemsOf j).filter Json.isObject ++ itemsReached parse rest

def HasBadLine (parse : String → Except String Json) (lines : List String) : Prop :=
  ∃ line ∈ lines, line ≠ "" ∧ ∃ what, parse line = .error what

namespace CatalogReading

def addAll (r : CatalogReading) (ms : List CatalogMeta) : CatalogReading := ms.foldl add r

theorem sourceOrder_addAll (r : CatalogReading) (ms : List CatalogMeta) :
    (r.addAll ms).sourceOrder = r.sourceOrder + ms.length := by
  induction ms generalizing r with
  | nil => rfl
  | cons m ms ih =>
    have hadd : (r.add m).sourceOrder = r.sourceOrder + 1 := rfl
    rw [addAll, List.foldl_cons, ← addAll, ih, hadd, List.length_cons]
    omega

theorem metaByCode_addAll (r : CatalogReading) (ms : List CatalogMeta) :
    (r.addAll ms).metaByCode = ms.foldl (BestOf.offer better) r.metaByCode := by
  induction ms generalizing r with
  | nil => rfl
  | cons m ms ih => exact ih (r.add m)

theorem addAll_append (r : CatalogReading) (ms ns : List CatalogMeta) :
    r.addAll (ms ++ ns) = (r.addAll ms).addAll ns :=
  List.foldl_append

end CatalogReading

theorem entries_append (n : Nat) (xs ys : List Json) :
    entries n (xs ++ ys) = entries n xs ++ entries (n + (entries n xs).length) ys := by
  induction xs generalizing n with
  | nil => rfl
  | cons it xs ih =>
    rw [List.cons_append, entries, entries]
    split
    · rw [ih, List.cons_append, List.length_cons]
      congr 3
      omega
    · exact ih n

variable {parse : String → Except String Json} {items : List Json} {r : CatalogReading}

theorem readItems_of_fit (h : ∀ it ∈ items.filter Json.isObject, TextsFit it) :
    readItems items r =
      (r.addAll (entries r.sourceOrder (items.filter Json.isObject)), false) := by
  induction items generalizing r with
  | nil => rfl
  | cons it rest ih =>
    rw [readItems]
    cases hobj : it.isObject with
    | false =>
      rw [List.filter_cons_of_neg (by simp [hobj])] at h ⊢
      exact ih h
    | true =>
      rw [List.filter_cons_of_pos hobj] at h ⊢
      obtain ⟨o, ho⟩ := Option.isSome_iff_exists.mp
        (isSome_readItem_iff.mpr (h it List.mem_cons_self) : (readItem r.sourceOrder it).isSome)
      have hrest := fun r => ih (r := r) fun x hx => h x (List.mem_cons_of_mem it hx)
      rw [if_neg (by decide), entries, ho]
      cases o with
      | none => exact hrest r
      | some m => exact hrest (r.add m)

theorem readItems_of_unfit (h : ∃ it ∈ items.filter Json.isObject, ¬ TextsFit it) :
    (readItems items r).2 = true := by
  induction items generalizing r with
  | nil => exact absurd h (by simp)
  | cons it rest ih =>
    rw [readItems]
    cases hobj : it.isObject with
    | false =>
      rw [List.filter_cons_of_neg (by simp [hobj])] at h
      exact ih h
    | true =>
      rw [List.filter_cons_of_pos hobj] at h
      simp only [List.mem_cons, exists_eq_or_imp] at h
      rw [if_neg (by decide)]
      cases ho : readItem r.sourceOrder it with
      | none => rfl
      | some o =>
        have hfit : TextsFit it := isSome_readItem_iff.mp (ho ▸ Option.isSome_some)
        have hrest := h.resolve_left fun hn => hn hfit
        cases o with
        | none => exact ih hrest
        | some m => exact ih hrest

theorem hasBadLine_cons (line : String) (rest : List String) :
    HasBadLine parse (line :: rest) ↔
      (line ≠ "" ∧ ∃ what, parse line = .error what) ∨ HasBadLine parse rest := by
  simp only [HasBadLine, List.mem_cons, exists_eq_or_imp]

theorem readLines_of_fit {lines : List String} (lineNo : Nat)
    (h : ∀ it ∈ itemsReached parse lines, TextsFit it) :
    (readLines parse lineNo lines r).2 =
        r.addAll (entries r.sourceOrder (itemsReached parse lines)) ∧
      (readLines parse lineNo lines r).1 ≠ .threw ∧
      ((readLines parse lineNo lines r).1 = .done ↔ ¬ HasBadLine parse lines) := by
  induction lines generalizing lineNo r with
  | nil => exact ⟨rfl, nofun, fun _ => by simp [HasBadLine], fun _ => rfl⟩
  | cons line rest ih =>
    rw [hasBadLine_cons, readLines]
    rw [itemsReached] at h ⊢
    by_cases hline : line = ""
    · rw [if_pos hline] at h ⊢
      rw [if_pos hline]
      simpa [hline] using ih (lineNo + 1) h
    · rw [if_neg hline] at h ⊢
      rw [if_neg hline]
      cases hparse : parse line with
      | error what => exact ⟨rfl, nofun, nofun, fun hbad => absurd (.inl ⟨hline, what, rfl⟩) hbad⟩
      | ok j =>
        rw [hparse] at h
        have hitems := readItems_of_fit (r := r) fun it hit => h it (List.mem_append_left _ hit)
        have hrest := ih (lineNo + 1)
          (r := r.addAll (entries r.sourceOrder ((itemsOf j).filter Json.isObject)))
          fun it hit => h it (List.mem_append_right _ hit)
        dsimp only
        rw [hitems]
        dsimp only
        rw [entries_append, CatalogReading.addAll_append, ← CatalogReading.sourceOrder_addAll]
        simpa using hrest

theorem readLines_of_unfit {lines : List String} (lineNo : Nat)
    (h : ∃ it ∈ itemsReached parse lines, ¬ TextsFit it) :
    (readLines parse lineNo lines r).1 = .threw := by
  induction lines generalizing lineNo r with
  | nil => exact absurd h (by simp [itemsReached])
  | cons line rest ih =>
    rw [readLines]
    rw [itemsReached] at h
    by_cases hline : line = ""
    · rw [if_pos hline] at h ⊢
      exact ih (lineNo + 1) h
    · rw [if_neg hline] at h ⊢
      cases hparse : parse line with
      | error what =>
        rw [hparse] at h
        exact absurd h (by simp)
      | ok j =>
        rw [hparse] at h
        dsimp only at h ⊢
        simp only [List.mem_append, or_and_right, exists_or] at h
        cases hitems : readItems (itemsOf j) r with
        | mk r' b =>
          cases b with
          | true => rfl
          | false =>
            refine ih (lineNo + 1) (h.resolve_left fun hunfit => ?_)
            have hthrew := readItems_of_unfit (r := r) hunfit
            rw [hitems] at hthrew
            exact Bool.false_ne_true hthrew

/-! ### The lists of codes -/

/-- Of items with one code the least by this is kept. -/
def rank (m : CatalogMeta) : ℤ ×ₗ ℤ := toLex (m.priorityRank, m.sourceOrder)

def sortKey (m : CatalogMeta) : (ℤ ×ₗ ℤ) ×ₗ ℕ := toLex (rank m, m.code.toNat)

theorem better_iff (a b : CatalogMeta) : better a b = true ↔ rank a < rank b := by
  rw [rank, rank, Prod.Lex.toLex_lt_toLex]
  simp [better]

theorem before_iff (a b : CatalogMeta) : before a b = true ↔ sortKey a < sortKey b := by
  have hrank : rank a = rank b ↔
      a.priorityRank = b.priorityRank ∧ a.sourceOrder = b.sourceOrder := by
    simp [rank]
  rw [sortKey, sortKey, Prod.Lex.toLex_lt_toLex]
  dsimp only
  rw [← better_iff, hrank, better, before, ← BitVec.lt_def]
  by_cases hp : a.priorityRank = b.priorityRank
  · by_cases ho : a.sourceOrder = b.sourceOrder
    · simp [hp, ho]
    · simp [hp, ho]
  · simp [hp]

namespace LoadedCatalog

/-- The indexes say the same. -/
structure Agrees (c : LoadedCatalog) : Prop where
  codes : ∀ code, code ∈ c.allCodes ↔ (c.metaOf code).isSome
  nodup : c.allCodes.Nodup
  sorted : c.allCodes.Pairwise fun a b =>
    ∀ m ∈ c.metaOf a, ∀ n ∈ c.metaOf b, sortKey m < sortKey n
  current : c.currentCodes = c.allCodes.filter c.showInCurrent
  history : c.historyCodes = c.allCodes.filter c.showInHistory

section Index

variable (b : BestOf CatalogMeta.code)

def sortedItems : List CatalogMeta := b.items.mergeSort fun a b => !before b a

theorem mem_sortedItems (m : CatalogMeta) : m ∈ sortedItems b ↔ m ∈ b.items :=
  (List.mergeSort_perm _ _).mem_iff

theorem nodup_sortedItems : ((sortedItems b).map CatalogMeta.code).Nodup :=
  ((List.mergeSort_perm _ _).map _).nodup_iff.mpr b.nodup

theorem get_of_mem {m : CatalogMeta} (h : m ∈ sortedItems b) : b.get m.code = some m :=
  (b.get_eq_some_iff m.code m).mpr ⟨(mem_sortedItems b m).mp h, rfl⟩

theorem pairwise_sortedItems : (sortedItems b).Pairwise fun m n => sortKey m < sortKey n := by
  have hle : ∀ m n, (!before n m) = true ↔ sortKey m ≤ sortKey n := by
    intro m n
    rw [Bool.not_eq_true', ← Bool.not_eq_true, before_iff, not_lt]
  have hsorted : (sortedItems b).Pairwise fun m n => (!before n m) = true := by
    refine List.pairwise_mergeSort ?_ ?_ _
    · intro x y z hxy hyz
      exact (hle x z).mpr (le_trans ((hle x y).mp hxy) ((hle y z).mp hyz))
    · intro x y
      rw [Bool.or_eq_true, hle, hle]
      exact le_total _ _
  refine (hsorted.and (List.pairwise_map.mp (nodup_sortedItems b))).imp ?_
  intro m n ⟨h, hne⟩
  refine lt_of_le_of_ne ((hle m n).mp h) fun heq => hne ?_
  exact BitVec.eq_of_toNat_eq (congrArg (fun k => (ofLex k).2) heq)

theorem filter_codes (p : CatalogMeta → Bool) :
    ((sortedItems b).filter p).map CatalogMeta.code =
      ((sortedItems b).map CatalogMeta.code).filter fun code =>
        ((b.get code).map p).getD false := by
  rw [List.filter_map]
  congr 1
  refine List.filter_congr fun m hm => ?_
  rw [Function.comp_apply, get_of_mem b hm]
  rfl

theorem index_agrees : (index b).Agrees where
  codes code := by
    have hmem : code ∈ (sortedItems b).map CatalogMeta.code ↔ code ∈ b.items.map CatalogMeta.code :=
      ((List.mergeSort_perm _ _).map _).mem_iff
    exact hmem.trans (b.isSome_get_iff code).symm
  nodup := nodup_sortedItems b
  sorted := by
    refine List.pairwise_map.mpr ((pairwise_sortedItems b).imp_of_mem ?_)
    intro x y hx hy hlt m hm n hn
    have hm : m = x := Option.some.inj (hm.symm.trans (get_of_mem b hx))
    have hn : n = y := Option.some.inj (hn.symm.trans (get_of_mem b hy))
    rw [hm, hn]
    exact hlt
  current := filter_codes b CatalogMeta.showHmiCurrent
  history := filter_codes b CatalogMeta.showHmiHistory

end Index

/-- Without the lists the indexes agree only if nothing was read. -/
theorem agrees_unlisted_iff : ({ metaByCode := b } : LoadedCatalog).Agrees ↔ b.items = [] := by
  constructor
  · intro h
    rw [List.eq_nil_iff_forall_not_mem]
    intro m hm
    have hget : (b.get m.code).isSome := (b.isSome_get_iff m.code).mpr (List.mem_map_of_mem hm)
    exact absurd ((h.codes m.code).mpr hget) List.not_mem_nil
  · intro h
    exact
      { codes := fun code => by
          refine ⟨fun hc => absurd hc List.not_mem_nil, fun hget => ?_⟩
          have hmem := (b.isSome_get_iff code).mp hget
          rw [h] at hmem
          exact hmem
        nodup := List.nodup_nil
        sorted := List.Pairwise.nil
        current := rfl
        history := rfl }

/-- What a load should leave, whether it succeeds or fails. -/
structure LoadSound (parse : String → Except String Json) (path : String)
    (file : Option (List String)) : Prop where
  returns : (loadJsonl parse path file).1 ≠ .threw
  agrees : (loadJsonl parse path file).2.Agrees
  least : (loadJsonl parse path file).1 = .done → ∀ code m,
    (loadJsonl parse path file).2.metaOf code = some m →
      FirstLeast rank
        ((entries 0 (itemsReached parse (file.getD []))).filter fun x => x.code = code) m
  whole : (loadJsonl parse path file).1 = .done →
    ∀ m ∈ entries 0 (itemsReached parse (file.getD [])),
      ((loadJsonl parse path file).2.metaOf m.code).isSome

theorem entries_eq_nil_iff {items : List Json} (h : ∀ it ∈ items, TextsFit it) (n : Nat) :
    entries n items = [] ↔ ∀ it ∈ items, itemCode it = none := by
  induction items generalizing n with
  | nil => simp [entries]
  | cons it rest ih =>
    obtain ⟨o, ho⟩ := Option.isSome_iff_exists.mp
      (isSome_readItem_iff.mpr (h it List.mem_cons_self) : (readItem n it).isSome)
    have hcode := itemCode_of_readItem ho
    have hrest := ih fun x hx => h x (List.mem_cons_of_mem it hx)
    rw [entries, ho, List.forall_mem_cons, hcode]
    cases o with
    | none => simpa using hrest n
    | some m => simp

/-- What was read is the best of the entries. -/
theorem loadJsonl_of_fit {lines : List String} (path : String)
    (h : ∀ it ∈ itemsReached parse lines, TextsFit it) :
    let b : BestOf CatalogMeta.code := .run better (entries 0 (itemsReached parse lines))
    loadJsonl parse path (some lines) =
        ((readLines parse 1 lines {}).1,
          if (readLines parse 1 lines {}).1 = .done then index b else { metaByCode := b }) := by
  intro b
  have hread : (readLines parse 1 lines {}).2.metaByCode = b := by
    rw [(readLines_of_fit 1 h).1, CatalogReading.metaByCode_addAll]
    rfl
  rw [loadJsonl, ← hread]
  cases hlines : readLines parse 1 lines {} with
  | mk result r =>
    cases result <;> rfl

theorem isSome_get_run {ms : List CatalogMeta} {m : CatalogMeta} (h : m ∈ ms) :
    ((BestOf.run better ms : BestOf CatalogMeta.code).get m.code).isSome := by
  obtain ⟨hnil, -⟩ | ⟨x, hx, -⟩ := BestOf.run_get better_iff ms m.code
  · exact absurd hnil (List.ne_nil_of_mem (List.mem_filter.mpr ⟨h, decide_eq_true rfl⟩))
  · exact Option.isSome_of_eq_some hx

/-- A load is sound if no value of a wrong kind is read as a text, and no item with a code comes
before a line that does not parse. -/
theorem loadJsonl_sound_iff (parse : String → Except String Json) (path : String)
    (file : Option (List String)) :
    LoadSound parse path file ↔
      (∀ it ∈ itemsReached parse (file.getD []), TextsFit it) ∧
        (HasBadLine parse (file.getD []) →
          ∀ it ∈ itemsReached parse (file.getD []), itemCode it = none) := by
  cases file with
  | none =>
    have hagrees : ({} : LoadedCatalog).Agrees := agrees_unlisted_iff.mpr rfl
    exact ⟨fun _ => ⟨nofun, fun _ => nofun⟩, fun _ => ⟨nofun, hagrees, nofun, nofun⟩⟩
  | some lines =>
    rw [Option.getD_some]
    constructor
    · intro h
      have hfit : ∀ it ∈ itemsReached parse lines, TextsFit it := by
        by_contra hunfit
        push Not at hunfit
        refine h.returns ?_
        have hthrew := readLines_of_unfit (r := {}) 1 hunfit
        rw [loadJsonl]
        cases hlines : readLines parse 1 lines {} with
        | mk result r =>
          rw [hlines] at hthrew
          cases hthrew
          rfl
      refine ⟨hfit, fun hbad => ?_⟩
      have hagrees := h.agrees
      have hfailed : (readLines parse 1 lines {}).1 ≠ .done :=
        fun hdone => (readLines_of_fit 1 hfit).2.2.mp hdone hbad
      rw [loadJsonl_of_fit path hfit, if_neg hfailed, agrees_unlisted_iff,
        BestOf.items_run_eq_nil_iff, entries_eq_nil_iff hfit] at hagrees
      exact hagrees
    · intro ⟨hfit, hbad⟩
      have hread := readLines_of_fit (r := {}) 1 hfit
      have hload := loadJsonl_of_fit path hfit
      refine ⟨?_, ?_, ?_, ?_⟩
      · rw [hload]
        exact hread.2.1
      · rw [hload]
        split
        · exact index_agrees _
        case isFalse hfailed =>
          rw [agrees_unlisted_iff, BestOf.items_run_eq_nil_iff, entries_eq_nil_iff hfit]
          refine hbad ?_
          by_contra hgood
          exact hfailed (hread.2.2.mpr hgood)
      · rw [hload]
        intro hdone code m hm
        rw [if_pos hdone] at hm
        obtain ⟨-, hnone⟩ | ⟨x, hx, hleast⟩ := BestOf.run_get better_iff
          (entries 0 (itemsReached parse lines)) code
        · exact absurd (hnone.symm.trans hm) nofun
        · rw [← Option.some.inj (hx.symm.trans hm)]
          exact hleast
      · rw [hload]
        intro hdone m hm
        rw [if_pos hdone]
        exact isSome_get_run hm

def gasLine : String := "\x7b\"items\":[\x7b\"code_hex\":\"0x0081\"\x7d]\x7d"
def numberLine : String := "\x7b\"items\":[\x7b\"code_hex\":129\x7d]\x7d"

/-- The parser on these lines. -/
def parseLine (line : String) : Except String Json :=
  if line = gasLine then
    .ok (.object [("items", .array [.object [("code_hex", .string "0x0081")]])])
  else if line = numberLine then
    .ok (.object [("items", .array [.object [("code_hex", .unsigned 129)]])])
  else .error "syntax error"

/-- The item before a line that was cut off is found but not listed; a code that is written as a
number throws. -/
theorem load_cut_off :
    ¬ LoadSound parseLine "fault_map.jsonl" (some [gasLine, "\x7b"]) ∧
      ¬ LoadSound parseLine "fault_map.jsonl" (some [numberLine]) := by
  constructor
  · intro h
    have hfound : ((loadJsonl parseLine "fault_map.jsonl"
        (some [gasLine, "\x7b"])).2.metaOf 0x81).isSome = true := by decide
    have hlisted : (loadJsonl parseLine "fault_map.jsonl"
        (some [gasLine, "\x7b"])).2.allCodes = [] := by decide
    have hmem := (h.agrees.codes 0x81).mpr hfound
    rw [hlisted] at hmem
    exact List.not_mem_nil hmem
  · intro h
    exact h.returns (by decide)

end LoadedCatalog

end Fault
end EnergyStorage
