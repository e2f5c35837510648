import Mathlib

/-! # Signal texts as tokens

The fault map writes signal and source names freely; the mapper compares them as tokens:
lower-case letters and digits, with one underscore for each run of other characters
between them. -/

namespace EnergyStorage
namespace Fault

/-- `isspace`. -/
def isSpace (c : Char) : Bool :=
  c = ' ' || c = '\t' || c = '\n' || c = '\x0b' || c = '\x0c' || c = '\r'

def trim (s : String) : String :=
  String.ofList ((s.toList.dropWhile isSpace).rdropWhile isSpace)

/-- One character of the loop: what is not alphanumeric becomes an underscore, but not at the
start and not after another one. -/
def tokenStep (out : List Char) (c : Char) : List Char :=
  if c.isAlphanum then out ++ [c.toLower]
  else if out = [] ∨ out.getLast? = some '_' then out
  else out ++ ['_']

def normalizeToken (s : String) : String :=
  String.ofList (((s.toList.foldl tokenStep []).dropWhile (· = '_')).rdropWhile (· = '_'))

/-! ### The characters of a token -/

def IsTokenChar (c : Char) : Prop := c.isLower = true ∨ c.isDigit = true ∨ c = '_'

/-- A token that may still end in an underscore. -/
structure TokenStart (l : List Char) : Prop where
  chars : ∀ c ∈ l, IsTokenChar c
  /-- No underscore at the start or after another. -/
  single : List.IsChain (fun a b => ¬ (a = '_' ∧ b = '_')) ('_' :: l)

structure IsToken (l : List Char) : Prop extends TokenStart l where
  ends : l.getLast? ≠ some '_'

theorem tokenStart_nil : TokenStart [] where
  chars _ hc := absurd hc List.not_mem_nil
  single := List.isChain_singleton _

/-- One more character. -/
theorem tokenStart_snoc {l : List Char} {c : Char} :
    TokenStart (l ++ [c]) ↔
      TokenStart l ∧ IsTokenChar c ∧ (c = '_' → ¬ (l = [] ∨ l.getLast? = some '_')) := by
  have hlast : ∀ x, x ∈ ('_' :: l).getLast? ↔ x = l.getLast?.getD '_' := by
    intro x
    rw [List.getLast?_cons, Option.mem_some_iff, eq_comm]
  have hends : l.getLast?.getD '_' = '_' ↔ l = [] ∨ l.getLast? = some '_' := by
    cases hl : l.getLast? with
    | none => simp [List.getLast?_eq_none_iff.mp hl]
    | some d =>
      have hne : l ≠ [] := by
        intro e
        rw [e] at hl
        cases hl
      simp [hne]
  have hsplit : List.IsChain (fun a b => ¬ (a = '_' ∧ b = '_')) ('_' :: (l ++ [c])) ↔
      List.IsChain (fun a b => ¬ (a = '_' ∧ b = '_')) ('_' :: l) ∧
        (c = '_' → ¬ (l = [] ∨ l.getLast? = some '_')) := by
    rw [← List.cons_append, List.isChain_append]
    simp only [hlast, List.isChain_singleton, true_and, List.head?_cons, Option.mem_some_iff,
      forall_eq, forall_eq', hends, not_and]
    apply and_congr_right
    intro _
    exact ⟨fun h hc hl => h hl hc, fun h hl hc => h hc hl⟩
  constructor
  · intro h
    obtain ⟨hchain, hc⟩ := hsplit.mp h.single
    exact ⟨⟨fun d hd => h.chars d (List.mem_append_left _ hd), hchain⟩,
      h.chars c (List.mem_append_right _ (List.mem_singleton_self c)), hc⟩
  · intro ⟨hl, hc, hunder⟩
    refine ⟨?_, hsplit.mpr ⟨hl.single, hunder⟩⟩
    intro d hd
    obtain hd | hd := List.mem_append.mp hd
    · exact hl.chars d hd
    · rw [List.mem_singleton.mp hd]
      exact hc

theorem not_isUpper_of_isDigit {c : Char} (h : c.isDigit = true) : ¬ c.isUpper = true := by
  simp [Char.isUpper, Char.isDigit, UInt32.le_iff_toNat_le] at h ⊢
  omega

theorem isTokenChar_toLower {c : Char} (h : c.isAlphanum = true) :
    IsTokenChar c.toLower ∧ c.toLower ≠ '_' := by
  have hcase : c.toLower.isLower = true ∨ c.toLower.isDigit = true := by
    rw [Char.isAlphanum, Bool.or_eq_true] at h
    obtain halpha | hdigit := h
    · left
      rw [Char.isLower_toLower_eq_isAlpha]
      exact halpha
    · right
      rw [Char.toLower_eq_of_not_isUpper (not_isUpper_of_isDigit hdigit)]
      exact hdigit
  constructor
  · obtain hlower | hdigit := hcase
    · exact .inl hlower
    · exact .inr (.inl hdigit)
  · intro e
    rw [e] at hcase
    exact absurd hcase (by decide)

theorem toLower_of_isTokenChar {c : Char} (h : IsTokenChar c) (hc : c ≠ '_') :
    c.isAlphanum = true ∧ c.toLower = c := by
  obtain hlower | hdigit | he := h
  · constructor
    · simp [Char.isAlphanum, Char.isAlpha, hlower]
    · exact Char.toLower_eq_of_not_isUpper (Char.not_isUpper_of_isLower hlower)
  · constructor
    · simp [Char.isAlphanum, hdigit]
    · exact Char.toLower_eq_of_not_isUpper (not_isUpper_of_isDigit hdigit)
  · exact absurd he hc

/-- The loop builds the start of a token. -/
theorem tokenStart_foldl (l : List Char) : TokenStart (l.foldl tokenStep []) := by
  induction l using List.reverseRecOn with
  | nil => exact tokenStart_nil
  | append_singleton l c ih =>
    rw [List.foldl_append, List.foldl_cons, List.foldl_nil, tokenStep]
    split
    · rename_i hc
      obtain ⟨hlower, hne⟩ := isTokenChar_toLower hc
      exact tokenStart_snoc.mpr ⟨ih, hlower, fun e => absurd e hne⟩
    · split
      · exact ih
      · rename_i hout
        exact tokenStart_snoc.mpr ⟨ih, .inr (.inr rfl), fun _ => hout⟩

/-- The loop copies the start of a token. -/
theorem foldl_tokenStep_eq {l : List Char} (h : TokenStart l) : l.foldl tokenStep [] = l := by
  induction l using List.reverseRecOn with
  | nil => rfl
  | append_singleton l c ih =>
    obtain ⟨hl, hc, hunder⟩ := tokenStart_snoc.mp h
    rw [List.foldl_append, ih hl, List.foldl_cons, List.foldl_nil, tokenStep]
    by_cases hne : c = '_'
    · subst hne
      rw [if_neg (by decide), if_neg (hunder rfl)]
    · obtain ⟨halnum, hlower⟩ := toLower_of_isTokenChar hc hne
      rw [if_pos halnum, hlower]

/-- A token does not start with an underscore, so only the end is cut. -/
theorem dropWhile_of_tokenStart {l : List Char} (h : TokenStart l) :
    l.dropWhile (· = '_') = l := by
  cases l with
  | nil => rfl
  | cons c l =>
    have hc : c ≠ '_' := by
      have := (List.isChain_cons_cons.mp h.single).1
      simpa using this
    rw [List.dropWhile_cons_of_neg (by simpa using hc)]

theorem normalizeToken_eq (s : String) :
    (normalizeToken s).toList = (s.toList.foldl tokenStep []).rdropWhile (· = '_') := by
  rw [normalizeToken, String.toList_ofList, dropWhile_of_tokenStart (tokenStart_foldl _)]

theorem TokenStart.rdropWhile {l : List Char} (h : TokenStart l) :
    IsToken (l.rdropWhile (· = '_')) := by
  induction l using List.reverseRecOn with
  | nil => exact ⟨tokenStart_nil, by simp⟩
  | append_singleton l c ih =>
    rw [List.rdropWhile_concat]
    split
    · exact ih (tokenStart_snoc.mp h).1
    · rename_i hc
      refine ⟨h, ?_⟩
      rw [List.getLast?_concat]
      intro e
      exact hc (decide_eq_true (Option.some_inj.mp e))

/-- What normalising gives is a token. -/
theorem isToken_normalizeToken (s : String) : IsToken (normalizeToken s).toList := by
  rw [normalizeToken_eq]
  exact (tokenStart_foldl _).rdropWhile

/-- A token is normal. -/
theorem normalizeToken_of_isToken {s : String} (h : IsToken s.toList) : normalizeToken s = s := by
  apply String.toList_inj.mp
  rw [normalizeToken_eq, foldl_tokenStep_eq h.toTokenStart]
  apply List.rdropWhile_eq_self_iff.mpr
  intro hne e
  rw [decide_eq_true_eq] at e
  apply h.ends
  rw [List.getLast?_eq_some_getLast hne, e]

theorem normalizeToken_idem (s : String) : normalizeToken (normalizeToken s) = normalizeToken s :=
  normalizeToken_of_isToken (isToken_normalizeToken s)

/-! ### Blanks around a text -/

theorem isAlphanum_of_isSpace {c : Char} (h : isSpace c = true) : ¬ c.isAlphanum = true := by
  simp only [isSpace, Bool.or_eq_true, decide_eq_true_eq] at h
  obtain ((((h | h) | h) | h) | h) | h := h <;> rw [h] <;> decide

/-- Blanks before a text leave the loop at its start. -/
theorem foldl_dropWhile_isSpace (l : List Char) :
    (l.dropWhile isSpace).foldl tokenStep [] = l.foldl tokenStep [] := by
  induction l with
  | nil => rfl
  | cons c l ih =>
    by_cases hc : isSpace c = true
    · have hstep : tokenStep [] c = [] := by
        rw [tokenStep, if_neg (isAlphanum_of_isSpace hc), if_pos (.inl rfl)]
      rw [List.dropWhile_cons_of_pos hc, List.foldl_cons, hstep]
      exact ih
    · rw [List.dropWhile_cons_of_neg hc]

/-- Blanks after a text add at most an underscore, which is cut. -/
theorem rdropWhile_foldl_isSpace (l : List Char) :
    ((l.rdropWhile isSpace).foldl tokenStep []).rdropWhile (· = '_') =
      (l.foldl tokenStep []).rdropWhile (· = '_') := by
  induction l using List.reverseRecOn with
  | nil => rfl
  | append_singleton l c ih =>
    rw [List.rdropWhile_concat]
    split
    · rename_i hc
      rw [ih, List.foldl_append, List.foldl_cons, List.foldl_nil, tokenStep,
        if_neg (isAlphanum_of_isSpace hc)]
      split
      · rfl
      · rw [List.rdropWhile_concat_pos _ _ _ (by decide)]
    · rfl

/-- Blanks around a text do not change its token. -/
theorem normalizeToken_trim (s : String) : normalizeToken (trim s) = normalizeToken s := by
  apply String.toList_inj.mp
  rw [normalizeToken_eq, normalizeToken_eq, trim, String.toList_ofList, rdropWhile_foldl_isSpace,
    foldl_dropWhile_isSpace]

end Fault
end EnergyStorage
