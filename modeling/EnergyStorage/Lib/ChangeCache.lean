import EnergyStorage.Lib.Dict
import EnergyStorage.Lib.Machine

/-! # Detecting changes against a cache of texts

A reader goes through entries, each a text under a key, and keeps the last text of each key.  An
entry is a change if its text is not the one that is kept. -/

namespace Lib

variable {κ τ : Type*} [DecidableEq κ]

namespace Dict

/-- The last text under a key. -/
def lastText (k : κ) : List (κ × τ) → Option τ
  | [] => none
  | (k', t) :: entries => (lastText k entries).or (if k' = k then some t else none)

variable {cache : Dict κ τ} {entries : List (κ × τ)} {k : κ} {t : τ}

theorem lastText_mem (h : lastText k entries = some t) : (k, t) ∈ entries := by
  induction entries with
  | nil => cases h
  | cons entry entries ih =>
    obtain ⟨k', t'⟩ := entry
    rw [lastText] at h
    rcases Option.or_eq_some_iff.mp h with hrest | ⟨-, hhead⟩
    · exact List.mem_cons_of_mem _ (ih hrest)
    · split at hhead
      · rename_i hk
        rw [← hk, Option.some_inj.mp hhead]
        exact List.mem_cons_self
      · cases hhead

theorem lastText_ne_none (h : (k, t) ∈ entries) : lastText k entries ≠ none := by
  induction entries with
  | nil => exact absurd h List.not_mem_nil
  | cons entry entries ih =>
    intro hnone
    obtain ⟨hrest, hfirst⟩ := Option.or_eq_none_iff.mp hnone
    rcases List.mem_cons.mp h with rfl | hmem
    · rw [if_pos rfl] at hfirst
      cases hfirst
    · exact ih hmem hrest

/-- Where no key comes twice, each entry is the last of its key. -/
theorem lastText_of_nodup (hnodup : (entries.map Prod.fst).Nodup) (h : (k, t) ∈ entries) :
    lastText k entries = some t := by
  induction entries with
  | nil => exact absurd h List.not_mem_nil
  | cons entry entries ih =>
    obtain ⟨k', t'⟩ := entry
    obtain ⟨hnew, hrest⟩ := List.nodup_cons.mp hnodup
    rw [lastText]
    rcases List.mem_cons.mp h with heq | hmem
    · obtain ⟨rfl, rfl⟩ := Prod.mk.inj heq
      have hnone : lastText k entries = none := by
        cases hlast : lastText k entries with
        | none => rfl
        | some t' => exact absurd (List.mem_map_of_mem (lastText_mem hlast)) hnew
      rw [hnone, if_pos rfl]
      rfl
    · rw [ih hrest hmem]
      rfl

variable [DecidableEq τ]

/-- Keeps the text, and tells whether it is another one. -/
def note (cache : Dict κ τ) (k : κ) (t : τ) : Dict κ τ × Bool :=
  if cache.get k ≠ some t then (cache.insert k t, true) else (cache, false)

/-- Goes through the entries, and collects the keys that changed. -/
def noteAll (cache : Dict κ τ) : List (κ × τ) → Dict κ τ × List κ
  | [] => (cache, [])
  | (k, t) :: entries =>
    let first := cache.note k t
    let rest := noteAll first.1 entries
    (rest.1, if first.2 then k :: rest.2 else rest.2)

theorem note_of_change (h : cache.get k ≠ some t) : cache.note k t = (cache.insert k t, true) :=
  if_pos h

theorem note_of_same (h : cache.get k = some t) : cache.note k t = (cache, false) :=
  if_neg (not_not.mpr h)

theorem note_get (cache : Dict κ τ) (k : κ) (t : τ) (k' : κ) :
    (cache.note k t).1.get k' = if k = k' then some t else cache.get k' := by
  by_cases h : cache.get k = some t
  · rw [note_of_same h]
    split
    · rename_i hk
      rw [← hk, h]
    · rfl
  · rw [note_of_change h, get_insert]
    exact if_congr eq_comm rfl rfl

/-- What is kept of a key is its last text, or the one kept before. -/
theorem noteAll_get (cache : Dict κ τ) (entries : List (κ × τ)) (k : κ) :
    (cache.noteAll entries).1.get k = (lastText k entries).or (cache.get k) := by
  induction entries generalizing cache with
  | nil => rfl
  | cons entry entries ih =>
    obtain ⟨k', t⟩ := entry
    show (noteAll (cache.note k' t).1 entries).1.get k = _
    rw [ih, note_get, lastText, Option.or_assoc]
    congr 1
    split <;> rfl

/-- The keys that changed are those of the entries that differ from what was kept before all of
them. -/
theorem mem_noteAll :
    k ∈ (cache.noteAll entries).2 ↔ ∃ t, (k, t) ∈ entries ∧ cache.get k ≠ some t := by
  induction entries generalizing cache with
  | nil => exact ⟨fun h => absurd h List.not_mem_nil, fun ⟨_, h, _⟩ => absurd h List.not_mem_nil⟩
  | cons entry entries ih =>
    obtain ⟨k', t'⟩ := entry
    show k ∈ (if (cache.note k' t').2 then k' :: _ else _) ↔ _
    by_cases hsame : cache.get k' = some t'
    · rw [note_of_same hsame, if_neg Bool.false_ne_true, ih]
      constructor
      · rintro ⟨t, hmem, hne⟩
        exact ⟨t, List.mem_cons_of_mem _ hmem, hne⟩
      · rintro ⟨t, hmem, hne⟩
        rcases List.mem_cons.mp hmem with heq | hmem
        · obtain ⟨rfl, rfl⟩ := Prod.mk.inj heq
          exact absurd hsame hne
        · exact ⟨t, hmem, hne⟩
    · rw [note_of_change hsame, if_pos rfl, List.mem_cons, ih]
      constructor
      · rintro (rfl | ⟨t, hmem, hne⟩)
        · exact ⟨t', List.mem_cons_self, hsame⟩
        · by_cases hk : k = k'
          · rw [hk]
            exact ⟨t', List.mem_cons_self, hsame⟩
          · rw [get_insert_of_ne _ hk] at hne
            exact ⟨t, List.mem_cons_of_mem _ hmem, hne⟩
      · rintro ⟨t, hmem, hne⟩
        by_cases hk : k = k'
        · exact Or.inl hk
        · rcases List.mem_cons.mp hmem with heq | hmem
          · exact absurd (Prod.mk.inj heq).1 hk
          · refine Or.inr ⟨t, hmem, ?_⟩
            rw [get_insert_of_ne _ hk]
            exact hne

theorem noteAll_eq_nil_iff :
    (cache.noteAll entries).2 = [] ↔ ∀ entry ∈ entries, cache.get entry.1 = some entry.2 := by
  rw [List.eq_nil_iff_forall_not_mem]
  constructor
  · rintro hnone ⟨k, t⟩ hmem
    by_contra hne
    exact hnone k (mem_noteAll.mpr ⟨t, hmem, hne⟩)
  · intro hall k hk
    obtain ⟨t, hmem, hne⟩ := mem_noteAll.mp hk
    exact hne (hall _ hmem)

/-- The cache has the last text of every key already. -/
def Has (cache : Dict κ τ) (entries : List (κ × τ)) : Prop :=
  ∀ k t, lastText k entries = some t → cache.get k = some t

theorem noteAll_eq_self_iff : (cache.noteAll entries).1 = cache ↔ cache.Has entries := by
  constructor
  · intro hsame k t ht
    rw [← hsame, noteAll_get, ht]
    rfl
  · intro hhas
    funext k
    show (cache.noteAll entries).1.get k = cache.get k
    rw [noteAll_get]
    cases ht : lastText k entries with
    | none => rfl
    | some t => exact (hhas k t ht).symm

theorem has_iff_of_nodup (hnodup : (entries.map Prod.fst).Nodup) :
    cache.Has entries ↔ (cache.noteAll entries).2 = [] := by
  rw [noteAll_eq_nil_iff]
  constructor
  · exact fun hhas entry hentry => hhas _ _ (lastText_of_nodup hnodup hentry)
  · exact fun hall k t ht => hall (k, t) (lastText_mem ht)

/-- An entry that differs from what is kept is found. -/
theorem mem_noteAll_of_lastText (hne : cache.get k ≠ lastText k entries)
    (hmem : (k, t) ∈ entries) : k ∈ (cache.noteAll entries).2 := by
  cases hlast : lastText k entries with
  | some t' => exact mem_noteAll.mpr ⟨t', lastText_mem hlast, by rw [← hlast]; exact hne⟩
  | none =>
    refine mem_noteAll.mpr ⟨t, hmem, ?_⟩
    exact absurd hlast (lastText_ne_none hmem)

/-! ### The cache of a machine -/

/-- As long as the events that are not stored bring nothing new, the cache of a machine has the
text that was stored last. -/
theorem cache_eq_latest {σ ε ω : Type*} (M : Machine σ ε ω) (cache : σ → Dict κ τ)
    (entries : ε → List (κ × τ)) (stored : σ → ε → Bool) (h0 : cache M.start = empty)
    {es : List ε}
    (hstep : M.EveryStep (fun s e => cache (M.step s e).1 = ((cache s).noteAll (entries e)).1) es)
    (hquiet : M.EveryStep (fun s e => stored s e = true ∨ (cache s).Has (entries e)) es) (k : κ) :
    (cache (M.run es)).get k =
      M.latest (fun s e => if stored s e then lastText k (entries e) else none) es := by
  induction es using List.reverseRecOn with
  | nil => rw [Machine.run_nil, h0, Machine.latest_nil, get_empty]
  | append_singleton es e ih =>
    obtain ⟨hbefore, hlast⟩ := M.everyStep_snoc.mp hquiet
    obtain ⟨hnotes, hnote⟩ := M.everyStep_snoc.mp hstep
    rw [Machine.run_snoc, hnote, Machine.latest_snoc, ← ih hnotes hbefore]
    by_cases hstored : stored (M.run es) e = true
    · rw [if_pos hstored, noteAll_get]
    · rw [if_neg hstored, noteAll_eq_self_iff.mpr (hlast.resolve_left hstored), Option.none_or]

end Dict
end Lib
