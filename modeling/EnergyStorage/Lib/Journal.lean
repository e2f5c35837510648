import Mathlib.Data.Finset.Card
import Mathlib.Data.List.Basic
import Mathlib.Data.List.Dedup

/-! # Journals of opened and closed entries

A journal is a list of entries, each with a key, each open or closed.  It tracks a set of
keys when every key of the set has exactly one open entry and no other key has one.  The
operations of a journal, opening an entry at its end, closing one in place and dropping
closed ones, are stated here by what they do to the tracked set. -/

namespace Lib

structure Journal (κ α : Type*) where
  key : α → κ
  isOpen : α → Bool

namespace Journal

variable {κ α β : Type*} [DecidableEq κ] (J : Journal κ α)

/-- The entry is open, with key `k`. -/
def opensAt (k : κ) (a : α) : Bool := J.isOpen a && decide (J.key a = k)

/-- How many entries of key `k` are open. -/
def opens (k : κ) (l : List α) : Nat := l.countP (J.opensAt k)

/-- One open entry for each key of `S`, none for the others. -/
def Tracks (S : Finset κ) (l : List α) : Prop :=
  ∀ k, J.opens k l = if k ∈ S then 1 else 0

/-- `l'` is `l` with one open entry of key `k` closed in its place. -/
def Closes (k : κ) (l l' : List α) : Prop :=
  ∃ before a b after, l = before ++ a :: after ∧ l' = before ++ b :: after ∧
    J.opensAt k a = true ∧ J.isOpen b = false

variable {J}

theorem opensAt_iff {k : κ} {a : α} : J.opensAt k a = true ↔ J.isOpen a = true ∧ J.key a = k := by
  simp [opensAt]

theorem opensAt_closed {a : α} (h : J.isOpen a = false) (k : κ) : J.opensAt k a = false := by
  simp [opensAt, h]

/-- An open entry is counted for its own key only. -/
theorem opensAt_of_key {a : α} {j k : κ} (h : J.opensAt j a = true) :
    J.opensAt k a = decide (j = k) := by
  obtain ⟨ho, hk⟩ := opensAt_iff.mp h
  rw [opensAt, ho, hk, Bool.true_and]

@[simp] theorem opens_nil (k : κ) : J.opens k [] = 0 := rfl

theorem opens_append (k : κ) (l₁ l₂ : List α) :
    J.opens k (l₁ ++ l₂) = J.opens k l₁ + J.opens k l₂ :=
  List.countP_append

theorem opens_cons (k : κ) (a : α) (l : List α) :
    J.opens k (a :: l) = J.opens k l + if J.opensAt k a then 1 else 0 :=
  List.countP_cons

theorem opens_eq_zero {k : κ} {l : List α} : J.opens k l = 0 ↔ ∀ a ∈ l, J.opensAt k a ≠ true :=
  List.countP_eq_zero

/-- No key has an open entry exactly when no entry is open. -/
theorem opens_eq_zero_forall {l : List α} :
    (∀ k, J.opens k l = 0) ↔ ∀ a ∈ l, J.isOpen a = false := by
  constructor
  · intro h a ha
    have hne : J.opensAt (J.key a) a ≠ true := opens_eq_zero.mp (h (J.key a)) a ha
    rw [opensAt, decide_eq_true rfl, Bool.and_true] at hne
    exact Bool.eq_false_iff.mpr hne
  · intro h k
    apply opens_eq_zero.mpr
    intro a ha
    rw [opensAt_closed (h a ha)]
    exact Bool.false_ne_true

/-- Entries of another kind with the same keys and the same openness. -/
theorem opens_map {J' : Journal κ β} {f : α → β} (hf : ∀ a k, J'.opensAt k (f a) = J.opensAt k a)
    (k : κ) (l : List α) : J'.opens k (l.map f) = J.opens k l := by
  rw [opens, List.countP_map]
  apply List.countP_congr
  intro a _
  show J'.opensAt k (f a) = true ↔ _
  rw [hf]

/-! ### What is tracked -/

theorem tracks_nil : J.Tracks ∅ [] := fun _ => rfl

theorem Tracks.map {J' : Journal κ β} {f : α → β}
    (hf : ∀ a k, J'.opensAt k (f a) = J.opensAt k a) {S : Finset κ} {l : List α} :
    J'.Tracks S (l.map f) ↔ J.Tracks S l := by
  apply forall_congr'
  intro k
  rw [opens_map hf]

/-- A tracked key has an open entry. -/
theorem Tracks.exists_open {S : Finset κ} {l : List α} (h : J.Tracks S l) {k : κ} (hk : k ∈ S) :
    ∃ a ∈ l, J.opensAt k a = true := by
  apply List.countP_pos_iff.mp
  show 0 < J.opens k l
  rw [h k, if_pos hk]
  exact Nat.one_pos

/-- The key of an open entry is tracked. -/
theorem Tracks.mem {S : Finset κ} {l : List α} (h : J.Tracks S l) {k : κ} {a : α} (ha : a ∈ l)
    (hk : J.opensAt k a = true) : k ∈ S := by
  by_contra hS
  have hzero : J.opens k l = 0 := by rw [h k, if_neg hS]
  exact opens_eq_zero.mp hzero a ha hk

theorem Tracks.unique {S T : Finset κ} {l : List α} (hS : J.Tracks S l) (hT : J.Tracks T l) :
    S = T := by
  ext k
  have h : (if k ∈ S then 1 else 0) = if k ∈ T then 1 else 0 := by rw [← hS k, hT k]
  by_cases hk : k ∈ S <;> by_cases hk' : k ∈ T <;> simp [hk, hk'] at h ⊢

/-- A new open entry adds its key, which had none. -/
theorem Tracks.open {S : Finset κ} {l : List α} (h : J.Tracks S l) {k : κ} (hk : k ∉ S) {a : α}
    (ha : J.opensAt k a = true) : J.Tracks (insert k S) (l ++ [a]) := by
  intro j
  rw [opens_append, opens_cons, opens_nil, h j, opensAt_of_key ha]
  by_cases hj : k = j
  · subst hj
    simp [hk]
  · have hj' : j ≠ k := fun e => hj e.symm
    simp [hj, hj']

/-- Closing the open entry of a key takes the key away. -/
theorem Tracks.close {S : Finset κ} {l l' : List α} (h : J.Tracks S l) {k : κ}
    (hc : J.Closes k l l') : J.Tracks (S.erase k) l' := by
  obtain ⟨before, a, b, after, hl, hl', ha, hb⟩ := hc
  intro j
  have hj : J.opens j l = J.opens j l' + if k = j then 1 else 0 := by
    rw [hl, hl', opens_append, opens_append, opens_cons, opens_cons, opensAt_of_key ha,
      opensAt_closed hb]
    by_cases hkj : k = j <;> simp [hkj]
    omega
  have hS := h j
  by_cases hkj : k = j
  · subst hkj
    rw [if_pos rfl] at hj
    have hle : J.opens k l ≤ 1 := by
      rw [hS]
      split <;> omega
    simp only [Finset.mem_erase, ne_eq, not_true_eq_false, false_and, if_false]
    omega
  · rw [if_neg hkj] at hj
    have hj' : j ≠ k := fun e => hkj e.symm
    rw [← hj.trans (Nat.add_zero _), hS]
    simp [hj']

/-- The journal has as many open entries as there are tracked keys. -/
theorem Tracks.countP_isOpen {S : Finset κ} {l : List α} (h : J.Tracks S l) :
    l.countP J.isOpen ≤ S.card := by
  have hnodup : ((l.filter J.isOpen).map J.key).Nodup := by
    rw [List.nodup_iff_count_le_one]
    intro k
    have hcount : ((l.filter J.isOpen).map J.key).count k = J.opens k l := by
      rw [List.count, List.countP_map, List.countP_filter]
      apply List.countP_congr
      intro a _
      simp [opensAt, and_comm]
    rw [hcount, h k]
    split <;> omega
  have hsub : ((l.filter J.isOpen).map J.key).toFinset ⊆ S := by
    intro k hk
    obtain ⟨a, ha, hka⟩ := List.mem_map.mp (List.mem_toFinset.mp hk)
    obtain ⟨hal, hao⟩ := List.mem_filter.mp ha
    exact h.mem hal (opensAt_iff.mpr ⟨hao, hka⟩)
  calc l.countP J.isOpen = ((l.filter J.isOpen).map J.key).length := by
        rw [List.length_map, List.countP_eq_length_filter]
    _ = ((l.filter J.isOpen).map J.key).toFinset.card := (List.toFinset_card_of_nodup hnodup).symm
    _ ≤ S.card := Finset.card_le_card hsub

/-- The rest of a journal tracks what the whole does exactly when nothing open is cut off. -/
theorem Tracks.drop_iff {S : Finset κ} {l : List α} (h : J.Tracks S l) (n : Nat) :
    J.Tracks S (l.drop n) ↔ ∀ a ∈ l.take n, J.isOpen a = false := by
  have hsplit : ∀ k, J.opens k l = J.opens k (l.take n) + J.opens k (l.drop n) := by
    intro k
    rw [← opens_append, List.take_append_drop]
  rw [← opens_eq_zero_forall]
  apply forall_congr'
  intro k
  rw [← h k, hsplit k]
  omega

/-! ### Closing in place -/

/-- `l` with its last element that satisfies `p` replaced by `f` of it. -/
def amendLast (p : α → Bool) (f : α → α) : List α → List α
  | [] => []
  | a :: l => if l.any p then a :: amendLast p f l else if p a then f a :: l else a :: l

omit [DecidableEq κ] in
theorem map_amendLast {p : α → Bool} {f : α → α} {g : α → β} (hg : ∀ a, g (f a) = g a)
    (l : List α) : (amendLast p f l).map g = l.map g := by
  induction l with
  | nil => rfl
  | cons a l ih =>
    rw [amendLast]
    split
    · rw [List.map_cons, List.map_cons, ih]
    · split
      · rw [List.map_cons, List.map_cons, hg]
      · rfl

theorem amendLast_split {p : α → Bool} (f : α → α) {l : List α} (h : ∃ a ∈ l, p a = true) :
    ∃ before a after, l = before ++ a :: after ∧ p a = true ∧
      amendLast p f l = before ++ f a :: after := by
  induction l with
  | nil =>
    obtain ⟨a, ha, -⟩ := h
    exact absurd ha List.not_mem_nil
  | cons b l ih =>
    rw [amendLast]
    by_cases hany : l.any p = true
    · obtain ⟨before, a, after, hl, ha, he⟩ := ih (List.any_eq_true.mp hany)
      refine ⟨b :: before, a, after, by rw [hl, List.cons_append], ha, ?_⟩
      rw [if_pos hany, he, List.cons_append]
    · have hb : p b = true := by
        obtain ⟨a, ha, hpa⟩ := h
        obtain hab | hal := List.mem_cons.mp ha
        · rw [← hab]
          exact hpa
        · exact absurd (List.any_eq_true.mpr ⟨a, hal, hpa⟩) hany
      refine ⟨[], b, l, rfl, hb, ?_⟩
      rw [if_neg hany, if_pos hb, List.nil_append]

/-- Closing the last open entry of a key that has one. -/
theorem closes_amendLast {k : κ} {f : α → α} (hf : ∀ a, J.isOpen (f a) = false) {l : List α}
    (h : ∃ a ∈ l, J.opensAt k a = true) : J.Closes k l (amendLast (J.opensAt k) f l) := by
  obtain ⟨before, a, after, hl, ha, he⟩ := amendLast_split f h
  exact ⟨before, a, f a, after, hl, he, ha, hf a⟩

/-- Closing by a row number that no other entry has. -/
theorem closes_of_id {ι : Type*} [DecidableEq ι] {id : α → ι} {k : κ} {f : α → α}
    (hf : ∀ a, J.isOpen (f a) = false) {l : List α} (hids : (l.map id).Nodup) {a : α} (ha : a ∈ l)
    (hk : J.opensAt k a = true) :
    J.Closes k l (l.map fun b => if id b = id a then f b else b) := by
  obtain ⟨before, after, hl⟩ := List.append_of_mem ha
  subst hl
  rw [List.map_append, List.map_cons, List.nodup_append] at hids
  obtain ⟨-, hafter, hcross⟩ := hids
  obtain ⟨hfresh, -⟩ := List.nodup_cons.mp hafter
  have hkeep : ∀ m : List α, (∀ b ∈ m, id b ≠ id a) →
      m.map (fun b => if id b = id a then f b else b) = m := by
    intro m hm
    calc m.map (fun b => if id b = id a then f b else b) = m.map fun b => b := by
          apply List.map_congr_left
          intro b hb
          rw [if_neg (hm b hb)]
      _ = m := List.map_id m
  have hbefore : ∀ b ∈ before, id b ≠ id a := by
    intro b hb
    exact hcross _ (List.mem_map_of_mem hb) _ List.mem_cons_self
  have hbehind : ∀ b ∈ after, id b ≠ id a := by
    intro b hb e
    rw [← e] at hfresh
    exact hfresh (List.mem_map_of_mem hb)
  refine ⟨before, a, f a, after, rfl, ?_, hk, hf a⟩
  rw [List.map_append, List.map_cons, if_pos rfl, hkeep before hbefore, hkeep after hbehind]

/-- Entries of other keys stay. -/
theorem Closes.mem_of_ne {k j : κ} {l l' : List α} (h : J.Closes k l l') (hj : j ≠ k) {a : α}
    (ha : a ∈ l) (hk : J.opensAt j a = true) : a ∈ l' := by
  obtain ⟨before, c, b, after, hl, hl', hc, -⟩ := h
  rw [hl, List.mem_append, List.mem_cons] at ha
  rw [hl', List.mem_append, List.mem_cons]
  obtain hbefore | heq | hafter := ha
  · exact .inl hbefore
  · rw [heq, opensAt_of_key hc, decide_eq_true_eq] at hk
    exact absurd hk.symm hj
  · exact .inr (.inr hafter)

/-! ### Dropping entries -/

variable (J) in
/-- Drops the first closed entry, or the first entry where all are open. -/
def dropOne (l : List α) : List α :=
  if l.any fun a => !J.isOpen a then l.eraseP fun a => !J.isOpen a else l.tail

variable (J) in
/-- Drops entries until at most `max` are left. -/
def trim (max : Nat) (l : List α) : List α := J.dropOne^[l.length - max] l

omit [DecidableEq κ] in
theorem length_dropOne (l : List α) : (J.dropOne l).length = l.length - 1 := by
  rw [dropOne]
  split
  · rename_i hany
    obtain ⟨a, ha, hp⟩ := List.any_eq_true.mp hany
    exact List.length_eraseP_of_mem ha hp
  · exact List.length_tail

omit [DecidableEq κ] in
theorem dropOne_sublist (l : List α) : (J.dropOne l).Sublist l := by
  rw [dropOne]
  split
  · exact List.eraseP_sublist
  · exact List.tail_sublist l

omit [DecidableEq κ] in
/-- Trimming keeps the order. -/
theorem trim_sublist (max : Nat) (l : List α) : (J.trim max l).Sublist l := by
  have hrun : ∀ n (l : List α), (J.dropOne^[n] l).Sublist l := by
    intro n
    induction n with
    | zero => exact fun l => List.Sublist.refl l
    | succ n ih => exact fun l => (ih (J.dropOne l)).trans (dropOne_sublist l)
  exact hrun _ l

/-- A journal that is longer than the tracked set has a closed entry to drop. -/
theorem Tracks.dropOne {S : Finset κ} {l : List α} (h : J.Tracks S l) (hlen : S.card < l.length) :
    J.Tracks S (J.dropOne l) := by
  have hany : (l.any fun a => !J.isOpen a) = true := by
    by_contra hnone
    have hall : ∀ a ∈ l, J.isOpen a = true := by
      intro a ha
      by_contra hopen
      exact hnone (List.any_eq_true.mpr ⟨a, ha, by simpa using hopen⟩)
    have hcount : l.countP J.isOpen = l.length := List.countP_eq_length.mpr hall
    have := h.countP_isOpen
    omega
  obtain ⟨a, ha, hclosed⟩ := List.any_eq_true.mp hany
  obtain ⟨b, before, after, -, hb, hl, he⟩ :=
    List.exists_of_eraseP (p := fun a => !J.isOpen a) ha hclosed
  have hb' : J.isOpen b = false := by simpa using hb
  rw [Journal.dropOne, if_pos hany, he]
  intro k
  rw [← h k, hl, opens_append, opens_append, opens_cons, opensAt_closed hb']
  rfl

/-- Trimming to no fewer entries than there are tracked keys drops closed ones only. -/
theorem Tracks.trim {S : Finset κ} {max : Nat} (hmax : S.card ≤ max) {l : List α}
    (h : J.Tracks S l) : J.Tracks S (J.trim max l) := by
  have hrun : ∀ n (l : List α), J.Tracks S l → n ≤ l.length - max →
      J.Tracks S (J.dropOne^[n] l) := by
    intro n
    induction n with
    | zero => exact fun l hl _ => hl
    | succ n ih =>
      intro l hl hn
      show J.Tracks S (J.dropOne^[n] (J.dropOne l))
      apply ih _ (hl.dropOne (by omega))
      rw [length_dropOne]
      omega
  exact hrun _ l h (Nat.le_refl _)

end Journal
end Lib
