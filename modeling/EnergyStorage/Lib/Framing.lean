import Mathlib.Data.List.ReduceOption

/-! # Cutting a stream into frames

A framer looks at the bytes it has and waits, drops one, or takes a frame from the
front.  What it once decides must not change when more bytes come; then the frames of a
stream do not depend on how it was cut into chunks.  A reader that stops at a dropped
byte lags behind, and the frames it has not come to are left in its buffer. -/

namespace Lib

/-- What a look at the buffer decides. -/
inductive Verdict
  | wait
  | skip
  | take (n : Nat)
  deriving DecidableEq

structure Framer (α : Type*) where
  look : List α → Verdict
  stable : ∀ b c, look b ≠ .wait → look (b ++ c) = look b
  skip_ne_nil : ∀ b, look b = .skip → b ≠ []
  take_le : ∀ b n, look b = .take n → 0 < n ∧ n ≤ b.length

namespace Framer

variable {α : Type*} (F : Framer α)

/-- Reading from one buffer to another, with a `none` for each byte dropped. -/
inductive Path : List α → List (Option (List α)) → List α → Prop
  | nil (b : List α) : Path b [] b
  | skip {b b' : List α} {ss : List (Option (List α))} (h : F.look b = .skip)
      (hp : Path b.tail ss b') : Path b (none :: ss) b'
  | take {b b' : List α} {ss : List (Option (List α))} {n : Nat} (h : F.look b = .take n)
      (hp : Path (b.drop n) ss b') : Path b (some (b.take n) :: ss) b'

/-- Reading until the framer waits. -/
def Reads (b : List α) (ss : List (Option (List α))) (b' : List α) : Prop :=
  F.Path b ss b' ∧ F.look b' = .wait

/-- The buffer holds a frame, possibly behind bytes to drop. -/
def Waiting (b : List α) : Prop := ∃ ss b', F.Path b ss b' ∧ ss.reduceOption ≠ []

variable {F}

namespace Path

variable {b b' b'' : List α} {ss ts : List (Option (List α))}

theorem trans (h : F.Path b ss b') (h' : F.Path b' ts b'') : F.Path b (ss ++ ts) b'' := by
  induction h with
  | nil b => exact h'
  | skip h hp ih => exact .skip h (ih h')
  | take h hp ih => exact .take h (ih h')

/-- More bytes at the end change no step. -/
theorem append (h : F.Path b ss b') (c : List α) : F.Path (b ++ c) ss (b' ++ c) := by
  induction h with
  | nil b => exact .nil _
  | @skip b b' ss h hp ih =>
    have hlook : F.look (b ++ c) = .skip := by
      rw [F.stable b c (by rw [h]; exact Verdict.noConfusion), h]
    refine .skip hlook ?_
    rw [List.tail_append_of_ne_nil (F.skip_ne_nil b h)]
    exact ih
  | @take b b' ss n h hp ih =>
    have hlook : F.look (b ++ c) = .take n := by
      rw [F.stable b c (by rw [h]; exact Verdict.noConfusion), h]
    have hle := (F.take_le b n h).2
    have htake : (b ++ c).take n = b.take n := List.take_append_of_le_length hle
    rw [← htake]
    refine .take hlook ?_
    rw [List.drop_append_of_le_length hle]
    exact ih

/-- The steps do not branch: a path is a prefix of the reading. -/
theorem prefix_of_reads (h : F.Path b ss b') (hr : F.Reads b ts b'') :
    ∃ us, ts = ss ++ us ∧ F.Reads b' us b'' := by
  induction h generalizing ts with
  | nil b => exact ⟨ts, rfl, hr⟩
  | skip h hp ih =>
    obtain ⟨hpath, hwait⟩ := hr
    cases hpath with
    | nil => rw [h] at hwait; cases hwait
    | skip h' hp' =>
      obtain ⟨us, rfl, hus⟩ := ih ⟨hp', hwait⟩
      exact ⟨us, rfl, hus⟩
    | take h' hp' => rw [h] at h'; cases h'
  | take h hp ih =>
    obtain ⟨hpath, hwait⟩ := hr
    cases hpath with
    | nil => rw [h] at hwait; cases hwait
    | skip h' hp' => rw [h] at h'; cases h'
    | take h' hp' =>
      rw [h] at h'
      cases h'
      obtain ⟨us, rfl, hus⟩ := ih ⟨hp', hwait⟩
      exact ⟨us, rfl, hus⟩

end Path

/-- A framer that waits takes no step. -/
theorem Path.eq_nil {b b' : List α} {ss : List (Option (List α))} (h : F.Path b ss b')
    (hw : F.look b = .wait) : ss = [] ∧ b' = b := by
  cases h with
  | nil => exact ⟨rfl, rfl⟩
  | skip h hp => rw [hw] at h; cases h
  | take h hp => rw [hw] at h; cases h

theorem not_waiting_of_wait {b : List α} (hw : F.look b = .wait) : ¬ F.Waiting b := by
  rintro ⟨ss, b', hp, hss⟩
  rw [(hp.eq_nil hw).1] at hss
  exact hss rfl

/-- Every buffer can be read. -/
theorem exists_reads (b : List α) : ∃ ss b', F.Reads b ss b' := by
  induction hn : b.length using Nat.strongRecOn generalizing b with
  | ind n ih =>
    cases hv : F.look b with
    | wait => exact ⟨[], b, .nil b, hv⟩
    | skip =>
      have hb := List.length_pos_iff.mpr (F.skip_ne_nil b hv)
      obtain ⟨ss, b', hp, hw⟩ := ih b.tail.length (by rw [List.length_tail]; omega) b.tail rfl
      exact ⟨none :: ss, b', .skip hv hp, hw⟩
    | take m =>
      have hm := F.take_le b m hv
      obtain ⟨ss, b', hp, hw⟩ := ih (b.drop m).length (by rw [List.length_drop]; omega)
        (b.drop m) rfl
      exact ⟨some (b.take m) :: ss, b', .take hv hp, hw⟩

theorem Reads.unique {b b' b'' : List α} {ss ts : List (Option (List α))}
    (h : F.Reads b ss b') (h' : F.Reads b ts b'') : ss = ts ∧ b' = b'' := by
  obtain ⟨us, rfl, hus⟩ := h.1.prefix_of_reads h'
  obtain ⟨rfl, rfl⟩ := hus.1.eq_nil h.2
  exact ⟨(List.append_nil ss).symm, rfl⟩

/-! ### Readers fed with chunks -/

section Feed

variable (drain : List α → List (List α) × List α)

/-- Each chunk is appended to the buffer, which is then drained. -/
def feed : List α → List (List α) → List (List α) × List α
  | b, [] => ([], b)
  | b, c :: cs =>
    ((drain (b ++ c)).1 ++ (feed (drain (b ++ c)).2 cs).1, (feed (drain (b ++ c)).2 cs).2)

variable {drain}

/-- A reader whose drains follow the framer delivers the frames of a path. -/
theorem feed_path (hd : ∀ b, ∃ ss, F.Path b ss (drain b).2 ∧ (drain b).1 = ss.reduceOption)
    (b : List α) (cs : List (List α)) :
    ∃ ss, F.Path (b ++ cs.flatten) ss (feed drain b cs).2 ∧
      (feed drain b cs).1 = ss.reduceOption := by
  induction cs generalizing b with
  | nil =>
    refine ⟨[], ?_, rfl⟩
    rw [List.flatten_nil, List.append_nil]
    exact .nil b
  | cons c cs ih =>
    obtain ⟨ss, hp, hss⟩ := hd (b ++ c)
    obtain ⟨ts, hq, hts⟩ := ih (drain (b ++ c)).2
    refine ⟨ss ++ ts, ?_, ?_⟩
    · rw [List.flatten_cons, ← List.append_assoc]
      exact (hp.append cs.flatten).trans hq
    · rw [List.reduceOption_append, ← hss, ← hts]
      rfl

end Feed

/-! ### Readers that read on -/

section Eager

variable (F)

/-- The frames of a buffer and what is left, for a reader that reads until the framer
waits. -/
noncomputable def cut (b : List α) : List (List α) × List α :=
  ((exists_reads (F := F) b).choose.reduceOption, (exists_reads (F := F) b).choose_spec.choose)

theorem cut_reads (b : List α) :
    ∃ ss, F.Reads b ss (F.cut b).2 ∧ (F.cut b).1 = ss.reduceOption :=
  ⟨_, (exists_reads (F := F) b).choose_spec.choose_spec, rfl⟩

variable {F}

theorem Reads.cut_eq {b b' : List α} {ss : List (Option (List α))} (h : F.Reads b ss b') :
    F.cut b = (ss.reduceOption, b') := by
  obtain ⟨ts, hr, hts⟩ := F.cut_reads b
  obtain ⟨rfl, hbuf⟩ := h.unique hr
  exact Prod.ext hts hbuf.symm

/-- Its frames depend on the stream alone, not on the chunks. -/
theorem feed_cut {b : List α} (hb : F.look b = .wait) (cs : List (List α)) :
    feed F.cut b cs = F.cut (b ++ cs.flatten) := by
  have hpath : ∀ b, ∃ ss, F.Path b ss (F.cut b).2 ∧ (F.cut b).1 = ss.reduceOption := by
    intro b
    obtain ⟨ss, hr, hss⟩ := F.cut_reads b
    exact ⟨ss, hr.1, hss⟩
  have hwait : F.look (feed F.cut b cs).2 = .wait := by
    induction cs generalizing b with
    | nil => exact hb
    | cons c cs ih =>
      obtain ⟨ss, hr, -⟩ := F.cut_reads (b ++ c)
      exact ih hr.2
  obtain ⟨ss, hp, hss⟩ := feed_path hpath b cs
  have hr : F.Reads (b ++ cs.flatten) ss (feed F.cut b cs).2 := ⟨hp, hwait⟩
  rw [hr.cut_eq, ← hss]

end Eager

/-! ### Readers that stop at a dropped byte -/

section Halting

/-- A drain that goes on over frames and ends with the first byte it drops. -/
def Halts (F : Framer α) (drain : List α → List (List α) × List α) : Prop :=
  ∀ b, ∃ ss, F.Path b ss (drain b).2 ∧ (drain b).1 = ss.reduceOption ∧
    (F.look (drain b).2 = .wait ∧ none ∉ ss ∨ ∃ ts, ss = ts ++ [none] ∧ none ∉ ts)

/-- Cuts frames until the framer waits, or drops a byte and stops. -/
def stopping (F : Framer α) (b : List α) : List (List α) × List α :=
  match _h : F.look b with
  | .wait => ([], b)
  | .skip => ([], b.tail)
  | .take n => (b.take n :: (stopping F (b.drop n)).1, (stopping F (b.drop n)).2)
termination_by b.length
decreasing_by
  all_goals
    have hn := F.take_le b n _h
    rw [List.length_drop]
    omega

theorem stopping_of_wait {b : List α} (h : F.look b = .wait) : F.stopping b = ([], b) := by
  rw [stopping]
  split
  · rfl
  · simp_all
  · simp_all

theorem stopping_of_skip {b : List α} (h : F.look b = .skip) : F.stopping b = ([], b.tail) := by
  rw [stopping]
  split
  · simp_all
  · rfl
  · simp_all

theorem stopping_of_take {b : List α} {n : Nat} (h : F.look b = .take n) :
    F.stopping b = (b.take n :: (F.stopping (b.drop n)).1, (F.stopping (b.drop n)).2) := by
  rw [stopping]
  split
  · simp_all
  · simp_all
  · simp_all

theorem halts_stopping (F : Framer α) : Halts F F.stopping := by
  intro b
  induction hn : b.length using Nat.strongRecOn generalizing b with
  | ind n ih =>
    cases hv : F.look b with
    | wait =>
      rw [stopping_of_wait hv]
      exact ⟨[], .nil b, rfl, Or.inl ⟨hv, List.not_mem_nil⟩⟩
    | skip =>
      rw [stopping_of_skip hv]
      exact ⟨[none], .skip hv (.nil _), rfl, Or.inr ⟨[], rfl, List.not_mem_nil⟩⟩
    | take m =>
      have hm := F.take_le b m hv
      have hlt : (b.drop m).length < n := by
        rw [List.length_drop]
        omega
      obtain ⟨ss, hp, hss, hend⟩ := ih _ hlt (b.drop m) rfl
      rw [stopping_of_take hv]
      refine ⟨some (b.take m) :: ss, .take hv hp, ?_, ?_⟩
      · rw [List.reduceOption_cons_of_some, hss]
      · obtain ⟨hwait, hnone⟩ | ⟨ts, rfl, hnone⟩ := hend
        · exact Or.inl ⟨hwait, by simpa using hnone⟩
        · exact Or.inr ⟨some (b.take m) :: ts, rfl, by simpa using hnone⟩

/-- No frame of the stream comes after its first dropped byte. -/
def FramesFirst (F : Framer α) (s : List α) : Prop :=
  ∀ ss b', F.Reads s ss b' → ∀ xs ys, none ∉ xs → ss = xs ++ none :: ys → ys.reduceOption = []

/-- One more byte never makes the framer drop two. -/
structure Gradual (F : Framer α) : Prop where
  skip : ∀ b x, F.look b = .wait → F.look (b ++ [x]) = .skip → F.look (b ++ [x]).tail = .wait
  take : ∀ b x n, F.look b = .wait → F.look (b ++ [x]) = .take n →
    F.look ((b ++ [x]).drop n) = .wait

variable {drain : List α → List (List α) × List α}

theorem Halts.path (hd : Halts F drain) (b : List α) :
    ∃ ss, F.Path b ss (drain b).2 ∧ (drain b).1 = ss.reduceOption := by
  obtain ⟨ss, hp, hss, -⟩ := hd b
  exact ⟨ss, hp, hss⟩

/-- What is left in the buffer was left behind a dropped byte. -/
theorem Halts.feed_path (hd : Halts F drain) {b : List α} (hb : F.look b = .wait)
    (cs : List (List α)) :
    ∃ ss, F.Path (b ++ cs.flatten) ss (feed drain b cs).2 ∧
      (feed drain b cs).1 = ss.reduceOption ∧
      (F.look (feed drain b cs).2 = .wait ∨ none ∈ ss) := by
  induction cs generalizing b with
  | nil =>
    refine ⟨[], ?_, rfl, Or.inl hb⟩
    rw [List.flatten_nil, List.append_nil]
    exact .nil b
  | cons c cs ih =>
    obtain ⟨ss, hp, hss, hend⟩ := hd (b ++ c)
    have hjoin : ∀ ts, F.Path ((drain (b ++ c)).2 ++ cs.flatten) ts
        (feed drain (drain (b ++ c)).2 cs).2 →
        F.Path (b ++ (c :: cs).flatten) (ss ++ ts) (feed drain b (c :: cs)).2 := by
      intro ts hq
      rw [List.flatten_cons, ← List.append_assoc]
      exact (hp.append cs.flatten).trans hq
    have hframes : ∀ ts, (feed drain (drain (b ++ c)).2 cs).1 = List.reduceOption ts →
        (feed drain b (c :: cs)).1 = (ss ++ ts).reduceOption := by
      intro ts hts
      rw [List.reduceOption_append, ← hss, ← hts]
      rfl
    rcases hend with ⟨hwait, -⟩ | ⟨us, hus, -⟩
    · obtain ⟨ts, hq, hts, hlast⟩ := ih hwait
      refine ⟨ss ++ ts, hjoin ts hq, hframes ts hts, ?_⟩
      rcases hlast with hlast | hlast
      · exact Or.inl hlast
      · exact Or.inr (List.mem_append_right ss hlast)
    · obtain ⟨ts, hq, hts⟩ := Framer.feed_path hd.path (drain (b ++ c)).2 cs
      refine ⟨ss ++ ts, hjoin ts hq, hframes ts hts, Or.inr ?_⟩
      rw [hus]
      simp

/-- Where the frames come first, no drain leaves one behind. -/
theorem FramesFirst.not_waiting {s : List α} (h : FramesFirst F s) (hd : Halts F drain)
    (hnil : F.look [] = .wait) {cs ds : List (List α)} (hs : (cs ++ ds).flatten = s) :
    ¬ F.Waiting (feed drain [] cs).2 := by
  rintro ⟨ts, b', hq, hts⟩
  obtain ⟨ss, hp, -, hend⟩ := hd.feed_path hnil cs
  have hskip : none ∈ ss := by
    rcases hend with hw | hskip
    · rw [(hq.eq_nil hw).1] at hts
      exact absurd rfl hts
    · exact hskip
  -- the reading of the stream starts with these steps
  obtain ⟨us, b'', hr, hw⟩ := exists_reads (F := F) (b' ++ ds.flatten)
  have hfull : F.Reads s (ss ++ ts ++ us) b'' := by
    rw [← hs, List.flatten_append]
    exact ⟨((hp.trans hq).append ds.flatten).trans hr, hw⟩
  obtain ⟨xs, ys, hsplit, hxs⟩ := List.eq_append_cons_of_mem hskip
  have hnone := h _ _ hfull xs (ys ++ ts ++ us) hxs (by simp [hsplit])
  rw [List.reduceOption_append, List.reduceOption_append] at hnone
  exact hts (List.append_eq_nil_iff.mp (List.append_eq_nil_iff.mp hnone).1).2

/-- A reader that leaves no frame behind has delivered all of them. -/
theorem Halts.feed_eq (hd : Halts F drain) (hnil : F.look [] = .wait) {cs : List (List α)}
    (h : ¬ F.Waiting (feed drain [] cs).2) {ss : List (Option (List α))} {b' : List α}
    (hr : F.Reads cs.flatten ss b') : (feed drain [] cs).1 = ss.reduceOption := by
  obtain ⟨ts, hp, hts, -⟩ := hd.feed_path hnil cs
  obtain ⟨us, rfl, hus⟩ := hp.prefix_of_reads hr
  have hnone : us.reduceOption = [] := by
    by_contra hne
    exact h ⟨us, b', hus.1, hne⟩
  rw [hts, List.reduceOption_append, hnone, List.append_nil]

theorem Halts.feed_eq_cut (hd : Halts F drain) (hnil : F.look [] = .wait)
    {cs : List (List α)} (h : ¬ F.Waiting (feed drain [] cs).2) :
    (feed drain [] cs).1 = (F.cut cs.flatten).1 := by
  obtain ⟨ss, hr, hss⟩ := F.cut_reads cs.flatten
  rw [hd.feed_eq hnil h hr, hss]

/-- Fed byte by byte the reader keeps up. -/
theorem Halts.wait_of_gradual (hd : Halts F drain) (hg : Gradual F) {b : List α}
    (hb : F.look b = .wait) (s : List α) :
    F.look (feed drain b (s.map fun x => [x])).2 = .wait := by
  induction s generalizing b with
  | nil => exact hb
  | cons x s ih =>
    apply ih
    obtain ⟨ss, hp, -, hend⟩ := hd (b ++ [x])
    have hskip := hg.skip b x hb
    have htake := hg.take b x
    generalize (drain (b ++ [x])).2 = b' at hp hend ⊢
    generalize b ++ [x] = c at hp hskip htake
    cases hp with
    | nil =>
      rcases hend with ⟨hwait, -⟩ | ⟨ts, hts, -⟩
      · exact hwait
      · simp at hts
    | skip h hp =>
      rw [(hp.eq_nil (hskip h)).2]
      exact hskip h
    | take h hp =>
      rw [(hp.eq_nil (htake _ hb h)).2]
      exact htake _ hb h

theorem eq_of_first {β : Type*} {a : β} {xs ys xs' ys' : List β} (hx : a ∉ xs) (hx' : a ∉ xs')
    (h : xs ++ a :: ys = xs' ++ a :: ys') : ys = ys' := by
  induction xs generalizing xs' with
  | nil =>
    cases xs' with
    | nil => exact (List.cons.inj h).2
    | cons y xs' =>
      obtain ⟨rfl, -⟩ := List.cons.inj h
      exact absurd List.mem_cons_self hx'
  | cons x xs ih =>
    cases xs' with
    | nil =>
      obtain ⟨rfl, -⟩ := List.cons.inj h
      exact absurd List.mem_cons_self hx
    | cons y xs' =>
      exact ih (fun hm => hx (List.mem_cons_of_mem _ hm))
        (fun hm => hx' (List.mem_cons_of_mem _ hm)) (List.cons.inj h).2

/-- All ways of cutting a stream give the same frames, with none left behind, exactly
when no frame comes after a dropped byte. -/
theorem Halts.agree_iff (hd : Halts F drain) (hg : Gradual F) (hnil : F.look [] = .wait)
    (s : List α) :
    ((∀ cs ds : List (List α), cs.flatten = s → ds.flatten = s →
          (feed drain [] cs).1 = (feed drain [] ds).1) ∧
        ∀ cs ds : List (List α), (cs ++ ds).flatten = s → ¬ F.Waiting (feed drain [] cs).2) ↔
      FramesFirst F s := by
  constructor
  · rintro ⟨hagree, -⟩ ss b' hr xs ys hxs hsplit
    -- byte by byte nothing is left, in one piece all behind the first dropped byte is
    have hsingles : (s.map fun x => [x]).flatten = s := by
      rw [← List.flatMap_def, List.flatMap_singleton']
    have hone : ([s] : List (List α)).flatten = s := List.flatten_singleton
    have hall := hd.feed_eq hnil
      (not_waiting_of_wait (hd.wait_of_gradual hg hnil s)) (by rw [hsingles]; exact hr)
    obtain ⟨ts, hp, hts, hend⟩ := hd s
    have hdrain : (feed drain [] [s]).1 = ts.reduceOption := by
      show (drain ([] ++ s)).1 ++ [] = _
      rw [List.append_nil, List.nil_append, hts]
    have hsame := hagree _ _ hsingles hone
    rw [hall, hdrain] at hsame
    obtain ⟨us, hus, hreads⟩ := hp.prefix_of_reads hr
    rcases hend with ⟨hwait, hnone⟩ | ⟨vs, hvs, hnone⟩
    · rw [(hreads.1.eq_nil hwait).1, List.append_nil] at hus
      rw [hus] at hsplit
      exact absurd (by rw [hsplit]; simp) hnone
    · have hfirst : xs ++ none :: ys = vs ++ none :: us := by
        rw [← hsplit, hus, hvs]
        simp
      rw [hus, List.reduceOption_append, List.append_right_eq_self] at hsame
      rw [eq_of_first hxs hnone hfirst]
      exact hsame
  · intro h
    have hleft : ∀ cs ds : List (List α), (cs ++ ds).flatten = s →
        ¬ F.Waiting (feed drain [] cs).2 := fun cs ds hs => h.not_waiting hd hnil hs
    refine ⟨?_, hleft⟩
    intro cs ds hcs hds
    obtain ⟨ss, b', hr⟩ := exists_reads (F := F) s
    have hcw := hleft cs [] (by rw [List.append_nil, hcs])
    have hdw := hleft ds [] (by rw [List.append_nil, hds])
    rw [hd.feed_eq hnil hcw (by rw [hcs]; exact hr), hd.feed_eq hnil hdw (by rw [hds]; exact hr)]

/-- Frames that are taken whole are read one after the other. -/
theorem reads_flatten (hnil : F.look [] = .wait) {fs : List (List α)}
    (h : ∀ f ∈ fs, F.look f = .take f.length) : F.Reads fs.flatten (fs.map some) [] := by
  induction fs with
  | nil => exact ⟨.nil [], hnil⟩
  | cons f fs ih =>
    have hf := h f List.mem_cons_self
    have hlook : F.look (f ++ fs.flatten) = .take f.length := by
      rw [F.stable f fs.flatten (by rw [hf]; exact Verdict.noConfusion), hf]
    obtain ⟨hp, hw⟩ := ih fun g hg => h g (List.mem_cons_of_mem f hg)
    have hrest : F.Path ((f ++ fs.flatten).drop f.length) (fs.map some) [] := by
      rw [List.drop_left]
      exact hp
    have htake := Path.take hlook hrest
    rw [List.take_left] at htake
    exact ⟨htake, hw⟩

/-- More bytes at the end add the frames that they complete. -/
theorem cut_append (b c : List α) :
    F.cut (b ++ c) =
      ((F.cut b).1 ++ (F.cut ((F.cut b).2 ++ c)).1, (F.cut ((F.cut b).2 ++ c)).2) := by
  obtain ⟨ss, hr, hss⟩ := F.cut_reads b
  obtain ⟨ts, hr', hts⟩ := F.cut_reads ((F.cut b).2 ++ c)
  have hall : F.Reads (b ++ c) (ss ++ ts) (F.cut ((F.cut b).2 ++ c)).2 :=
    ⟨(hr.1.append c).trans hr'.1, hr'.2⟩
  rw [hall.cut_eq, List.reduceOption_append, hss, hts]

theorem cut_of_wait {b : List α} (h : F.look b = .wait) : F.cut b = ([], b) := by
  have hr : F.Reads b [] b := ⟨.nil b, h⟩
  rw [hr.cut_eq]
  rfl

/-- Whole frames and the beginning of another one. -/
theorem cut_frames {fs : List (List α)} {part : List α} (hnil : F.look [] = .wait)
    (h : ∀ f ∈ fs, F.look f = .take f.length) (hpart : F.look part = .wait) :
    F.cut (fs.flatten ++ part) = (fs, part) := by
  rw [cut_append, (reads_flatten hnil h).cut_eq, List.nil_append, cut_of_wait hpart,
    List.append_nil, List.reduceOption, List.filterMap_map]
  exact Prod.ext List.filterMap_some rfl

/-- However a stream of such frames is cut into chunks, they come out one by one and nothing is
left. -/
theorem Halts.feed_of_frames (hd : Halts F drain) (hnil : F.look [] = .wait)
    {fs cs : List (List α)} (h : ∀ f ∈ fs, F.look f = .take f.length)
    (hs : cs.flatten = fs.flatten) : feed drain [] cs = (fs, []) := by
  have hr : F.Reads cs.flatten (fs.map some) [] := by
    rw [hs]
    exact reads_flatten hnil h
  obtain ⟨ss, hp, hss, hend⟩ := hd.feed_path hnil cs
  obtain ⟨us, hus, hreads⟩ := hp.prefix_of_reads hr
  have hskip : none ∉ ss := by
    intro hmem
    have hnone : none ∈ fs.map some := by
      rw [hus]
      exact List.mem_append_left us hmem
    obtain ⟨f, -, hf⟩ := List.mem_map.mp hnone
    cases hf
  obtain ⟨hnil', hbuf⟩ := hreads.1.eq_nil (hend.resolve_right hskip)
  rw [hnil', List.append_nil] at hus
  refine Prod.ext ?_ hbuf.symm
  rw [hss, ← hus, List.reduceOption, List.filterMap_map]
  exact List.filterMap_some

end Halting

end Framer
end Lib
