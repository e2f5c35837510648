import Mathlib.Data.List.Induction
import Mathlib.Data.Option.Basic

/-! # Deterministic machines with outputs

A machine reads events one at a time and emits a list of outputs for each.  The
facts about runs that a verification needs are of four kinds: what every step
preserves holds after every run, a latch is set exactly when some event of the
run set it, a register holds what the latest writing event wrote, and a machine
that tracks another one step by step tracks it over whole runs. -/

namespace Lib

structure Machine (σ ε ω : Type*) where
  start : σ
  step : σ → ε → σ × List ω

namespace Machine

variable {σ ε ω σ' ε' ω' α : Type*} (M : Machine σ ε ω)

def runFrom (s : σ) (es : List ε) : σ := es.foldl (fun s e => (M.step s e).1) s

/-- The state after the events `es`, oldest first. -/
def run (es : List ε) : σ := M.runFrom M.start es

/-- What the machine emits for `e` after the events `pre`. -/
def emitted (pre : List ε) (e : ε) : List ω := (M.step (M.run pre) e).2

@[simp] theorem runFrom_nil (s : σ) : M.runFrom s [] = s := rfl

@[simp] theorem runFrom_cons (s : σ) (e : ε) (es : List ε) :
    M.runFrom s (e :: es) = M.runFrom (M.step s e).1 es := rfl

theorem runFrom_append (s : σ) (xs ys : List ε) :
    M.runFrom s (xs ++ ys) = M.runFrom (M.runFrom s xs) ys :=
  List.foldl_append

@[simp] theorem run_nil : M.run [] = M.start := rfl

theorem run_append (xs ys : List ε) : M.run (xs ++ ys) = M.runFrom (M.run xs) ys :=
  M.runFrom_append M.start xs ys

@[simp] theorem run_snoc (es : List ε) (e : ε) :
    M.run (es ++ [e]) = (M.step (M.run es) e).1 := by
  rw [run_append]
  rfl

/-! ### Invariants -/

/-- `I` holds at the start and every step keeps it. -/
structure Invariant (I : σ → Prop) : Prop where
  start : I M.start
  step : ∀ s e, I s → I (M.step s e).1

variable {M}

theorem Invariant.runFrom {I : σ → Prop} (h : M.Invariant I) {s : σ} (hs : I s)
    (es : List ε) : I (M.runFrom s es) := by
  induction es generalizing s with
  | nil => exact hs
  | cons e es ih => exact ih (h.step s e hs)

theorem Invariant.run {I : σ → Prop} (h : M.Invariant I) (es : List ε) : I (M.run es) :=
  h.runFrom h.start es

/-- An invariant of runs whose events come in groups: each group keeps it. -/
theorem run_flatMap {I : σ → Prop} {f : α → List ε} (h0 : I M.start)
    (hs : ∀ s a, I s → I (M.runFrom s (f a))) (as : List α) : I (M.run (as.flatMap f)) := by
  induction as using List.reverseRecOn with
  | nil => exact h0
  | append_singleton as a ih =>
    rw [List.flatMap_append, run_append, List.flatMap_singleton]
    exact hs _ _ ih

variable (M)

/-- The rule for facts that relate the state to the events so far. -/
theorem run_induction {R : List ε → σ → Prop} (h0 : R [] M.start)
    (hs : ∀ pre e, R pre (M.run pre) → R (pre ++ [e]) (M.step (M.run pre) e).1)
    (es : List ε) : R es (M.run es) := by
  induction es using List.reverseRecOn with
  | nil => exact h0
  | append_singleton pre e ih =>
    rw [run_snoc]
    exact hs pre e ih

/-- An invariant of one run, where only the steps of this run have to keep it. -/
theorem invariant_along {I : σ → Prop} (h0 : I M.start) {es : List ε}
    (hs : ∀ pre e, pre ++ [e] <+: es → I (M.run pre) → I (M.run (pre ++ [e])))
    {pre : List ε} (hpre : pre <+: es) : I (M.run pre) := by
  induction pre using List.reverseRecOn with
  | nil => exact h0
  | append_singleton pre e ih =>
    have hbefore : pre <+: es := (List.prefix_append pre [e]).trans hpre
    exact hs pre e hpre (ih hbefore)

/-- Every step of the run meets `Q`. -/
def EveryStep (Q : σ → ε → Prop) (es : List ε) : Prop :=
  ∀ pre e, pre ++ [e] <+: es → Q (M.run pre) e

theorem everyStep_nil (Q : σ → ε → Prop) : M.EveryStep Q [] := by
  intro pre e hpre
  cases List.append_eq_nil_iff.mp (List.prefix_nil.mp hpre) |>.2

theorem everyStep_snoc {Q : σ → ε → Prop} {es : List ε} {e : ε} :
    M.EveryStep Q (es ++ [e]) ↔ M.EveryStep Q es ∧ Q (M.run es) e := by
  constructor
  · intro h
    refine ⟨?_, h es e (List.prefix_refl _)⟩
    intro pre x hpre
    exact h pre x (hpre.trans (List.prefix_append es [e]))
  · rintro ⟨hbefore, hlast⟩ pre x hpre
    obtain heq | hpre := List.prefix_concat_iff.mp hpre
    · obtain ⟨rfl, hx⟩ := List.append_inj' heq rfl
      rw [List.singleton_inj.mp hx]
      exact hlast
    · exact hbefore pre x hpre

/-- A run whose first step is given, step by step for a run that is written out. -/
theorem everyStep_cons {Q : σ → ε → Prop} {e : ε} {es : List ε} :
    M.EveryStep Q (e :: es) ↔
      Q M.start e ∧ (Machine.mk (M.step M.start e).1 M.step).EveryStep Q es := by
  constructor
  · intro h
    refine ⟨h [] e (by simp), ?_⟩
    intro pre x hpre
    exact h (e :: pre) x (List.cons_prefix_cons.mpr ⟨rfl, hpre⟩)
  · rintro ⟨hfirst, hrest⟩ pre x hpre
    cases pre with
    | nil =>
      rw [(List.cons_prefix_cons.mp hpre).1]
      exact hfirst
    | cons y pre =>
      obtain ⟨rfl, htail⟩ := List.cons_prefix_cons.mp hpre
      exact hrest pre x htail

variable {M} in
/-- An invariant that the steps that meet `Q` keep. -/
theorem EveryStep.invariant {I : σ → Prop} {Q : σ → ε → Prop} {es : List ε}
    (h : M.EveryStep Q es) (h0 : I M.start) (hs : ∀ s e, I s → Q s e → I (M.step s e).1) :
    I (M.run es) := by
  induction es using List.reverseRecOn with
  | nil => exact h0
  | append_singleton es e ih =>
    obtain ⟨hbefore, hlast⟩ := M.everyStep_snoc.mp h
    rw [run_snoc]
    exact hs _ e (ih hbefore) hlast

/-- Along a run in whose states `C` holds, `P` holds in every state exactly as long as every
step meets `Q`, given an invariant that the steps that meet `Q` keep and from which no other
step leads to `P`. -/
theorem along_iff {I P C : σ → Prop} {Q : σ → ε → Prop} (h0 : I M.start) (hP : ∀ s, I s → P s)
    (hkeep : ∀ s e, I s → C (M.step s e).1 → Q s e → I (M.step s e).1)
    (honly : ∀ s e, I s → C (M.step s e).1 → P (M.step s e).1 → Q s e) {es : List ε}
    (hC : ∀ pre, pre <+: es → C (M.run pre)) :
    (∀ pre, pre <+: es → P (M.run pre)) ↔ ∀ pre e, pre ++ [e] <+: es → Q (M.run pre) e := by
  constructor
  · intro hall
    have hquiet : ∀ pre e, pre ++ [e] <+: es → I (M.run pre) → Q (M.run pre) e := by
      intro pre e hpre hI
      have hc := hC _ hpre
      have hp := hall _ hpre
      rw [run_snoc] at hc hp
      exact honly _ e hI hc hp
    intro pre e hpre
    have hbefore : pre <+: es := (List.prefix_append pre [e]).trans hpre
    apply hquiet pre e hpre
    apply M.invariant_along h0 _ hbefore
    intro pre e hpre hI
    have hc := hC _ hpre
    rw [run_snoc] at hc ⊢
    exact hkeep _ e hI hc (hquiet pre e hpre hI)
  · intro hquiet pre hpre
    apply hP
    apply M.invariant_along h0 _ hpre
    intro pre e hpre hI
    have hc := hC _ hpre
    rw [run_snoc] at hc ⊢
    exact hkeep _ e hI hc (hquiet pre e hpre)

/-- What a run's beginnings have to meet, told by the steps that lead from one to the next. -/
theorem prefixes_iff {P : List ε → Prop} {Q : List ε → ε → Prop} (h0 : P [])
    (hstep : ∀ pre e, P pre → (P (pre ++ [e]) ↔ Q pre e)) (es : List ε) :
    (∀ pre, pre <+: es → P pre) ↔ ∀ pre e, pre ++ [e] <+: es → Q pre e := by
  constructor
  · intro hall pre e hpre
    have hbefore : pre <+: es := (List.prefix_append pre [e]).trans hpre
    exact (hstep pre e (hall pre hbefore)).mp (hall _ hpre)
  · intro hsteps pre hpre
    induction pre using List.reverseRecOn with
    | nil => exact h0
    | append_singleton pre e ih =>
      have hbefore : pre <+: es := (List.prefix_append pre [e]).trans hpre
      exact (hstep pre e (ih hbefore)).mpr (hsteps pre e hpre)

/-! ### Traces -/

/-- What `f` reads off each step of the run from `s`. -/
def traceFrom (f : σ → ε → List α) : σ → List ε → List α
  | _, [] => []
  | s, e :: es => f s e ++ traceFrom f (M.step s e).1 es

def trace (f : σ → ε → List α) (es : List ε) : List α := M.traceFrom f M.start es

@[simp] theorem trace_nil (f : σ → ε → List α) : M.trace f [] = [] := rfl

theorem traceFrom_append (f : σ → ε → List α) (s : σ) (xs ys : List ε) :
    M.traceFrom f s (xs ++ ys) = M.traceFrom f s xs ++ M.traceFrom f (M.runFrom s xs) ys := by
  induction xs generalizing s with
  | nil => rfl
  | cons e xs ih =>
    rw [List.cons_append, traceFrom, ih, traceFrom, List.append_assoc, runFrom_cons]

@[simp] theorem trace_snoc (f : σ → ε → List α) (es : List ε) (e : ε) :
    M.trace f (es ++ [e]) = M.trace f es ++ f (M.run es) e := by
  rw [trace, traceFrom_append, traceFrom, traceFrom, List.append_nil]
  rfl

/-- Progress: as long as some allowed event either has `a` read off it or keeps `I` and makes
the state weigh less, a run of allowed events has `a` read off it. -/
theorem exists_mem_traceFrom {f : σ → ε → List α} {a : α} {I : σ → Prop} {ok : ε → Prop}
    (weight : σ → Nat)
    (hs : ∀ s, I s → ∃ e, ok e ∧ (a ∈ f s e ∨ I (M.step s e).1 ∧ weight (M.step s e).1 < weight s))
    {s : σ} (h : I s) : ∃ es, (∀ e ∈ es, ok e) ∧ a ∈ M.traceFrom f s es := by
  induction hw : weight s using Nat.strongRecOn generalizing s with
  | ind n ih =>
    obtain ⟨e, hok, hread | ⟨hnext, hless⟩⟩ := hs s h
    · refine ⟨[e], ?_, List.mem_append_left _ hread⟩
      intro x hx
      rw [List.mem_singleton.mp hx]
      exact hok
    · obtain ⟨es, hes, hmem⟩ := ih _ (hw ▸ hless) hnext rfl
      refine ⟨e :: es, ?_, List.mem_append_right _ hmem⟩
      intro x hx
      obtain rfl | hx := List.mem_cons.mp hx
      · exact hok
      · exact hes x hx

/-! ### Latches -/

/-- Some event of `es` satisfied `p` in the state it met. -/
def Occurred (p : σ → ε → Prop) (es : List ε) : Prop :=
  ∃ pre e post, es = pre ++ e :: post ∧ p (M.run pre) e

@[simp] theorem not_occurred_nil (p : σ → ε → Prop) : ¬ M.Occurred p [] := by
  rintro ⟨pre, e, post, h, -⟩
  cases pre <;> cases h

theorem occurred_snoc (p : σ → ε → Prop) (es : List ε) (e : ε) :
    M.Occurred p (es ++ [e]) ↔ M.Occurred p es ∨ p (M.run es) e := by
  constructor
  · rintro ⟨pre, x, post, h, hp⟩
    rcases List.eq_nil_or_concat post with rfl | ⟨post', y, rfl⟩
    · obtain ⟨hpre, hx⟩ := List.append_inj' h rfl
      rw [hpre, List.singleton_inj.mp hx]
      exact Or.inr hp
    · rw [List.concat_eq_append, ← List.cons_append, ← List.append_assoc] at h
      exact Or.inl ⟨pre, x, post', (List.append_inj' h rfl).1, hp⟩
  · rintro (⟨pre, x, post, rfl, hp⟩ | hp)
    · exact ⟨pre, x, post ++ [e], by simp, hp⟩
    · exact ⟨es, e, [], rfl, hp⟩

/-- A flag that steps only ever set, and set exactly on `p`, tells whether `p`
has occurred. -/
theorem latch_iff_occurred (flag : σ → Prop) (p : σ → ε → Prop) (h0 : ¬ flag M.start)
    (hs : ∀ pre e, flag (M.step (M.run pre) e).1 ↔ flag (M.run pre) ∨ p (M.run pre) e)
    (es : List ε) : flag (M.run es) ↔ M.Occurred p es := by
  refine M.run_induction (R := fun es s => flag s ↔ M.Occurred p es) ?_ ?_ es
  · simp [h0]
  · intro pre e ih
    rw [hs pre e, M.occurred_snoc, ih]

/-! ### Set and reset -/

/-- Some event satisfied `p` in the state it met, and none after it satisfied `q`. -/
def Since (p q : σ → ε → Prop) (es : List ε) : Prop :=
  ∃ pre e post, es = pre ++ e :: post ∧ p (M.run pre) e ∧
    ∀ mid x rest, post = mid ++ x :: rest → ¬ q (M.run (pre ++ e :: mid)) x

@[simp] theorem not_since_nil (p q : σ → ε → Prop) : ¬ M.Since p q [] := by
  rintro ⟨pre, e, post, h, -⟩
  cases pre <;> cases h

theorem since_snoc (p q : σ → ε → Prop) (es : List ε) (x : ε) :
    M.Since p q (es ++ [x]) ↔ p (M.run es) x ∨ M.Since p q es ∧ ¬ q (M.run es) x := by
  constructor
  · rintro ⟨pre, e, post, h, hp, hq⟩
    rcases List.eq_nil_or_concat post with rfl | ⟨post', y, rfl⟩
    · obtain ⟨hpre, hx⟩ := List.append_inj' h rfl
      rw [hpre, List.singleton_inj.mp hx]
      exact Or.inl hp
    · rw [List.concat_eq_append] at h hq
      have hlast : es ++ [x] = (pre ++ e :: post') ++ [y] := by
        rw [h, List.append_assoc, List.cons_append]
      obtain ⟨hes, hx⟩ := List.append_inj' hlast rfl
      obtain rfl := List.singleton_inj.mp hx
      refine Or.inr ⟨⟨pre, e, post', hes, hp, fun mid z rest hpost => ?_⟩, ?_⟩
      · exact hq mid z (rest ++ [x]) (by rw [hpost, List.append_assoc, List.cons_append])
      · rw [hes]
        exact hq post' x [] rfl
  · rintro (hp | ⟨⟨pre, e, post, rfl, hp, hq⟩, hx⟩)
    · exact ⟨es, x, [], rfl, hp, fun mid z rest h => by cases mid <;> cases h⟩
    · refine ⟨pre, e, post ++ [x], by simp, hp, fun mid z rest h => ?_⟩
      rcases List.eq_nil_or_concat rest with rfl | ⟨rest', y, rfl⟩
      · obtain ⟨hmid, hz⟩ := List.append_inj' h rfl
        rw [← hmid, ← List.singleton_inj.mp hz]
        exact hx
      · rw [List.concat_eq_append, ← List.cons_append, ← List.append_assoc] at h
        exact hq mid z rest' (List.append_inj' h rfl).1

/-- A flag that steps set on `p` and otherwise clear on `q`. -/
theorem flag_iff_since (flag : σ → Prop) (p q : σ → ε → Prop) (h0 : ¬ flag M.start)
    (hs : ∀ pre e, flag (M.step (M.run pre) e).1 ↔
      p (M.run pre) e ∨ flag (M.run pre) ∧ ¬ q (M.run pre) e)
    (es : List ε) : flag (M.run es) ↔ M.Since p q es := by
  refine M.run_induction (R := fun es s => flag s ↔ M.Since p q es) ?_ ?_ es
  · simp [h0]
  · intro pre e ih
    rw [hs pre e, M.since_snoc, ih]

/-! ### Registers -/

/-- What the latest writing event of the run wrote. -/
def latest (sel : σ → ε → Option α) (es : List ε) : Option α :=
  (M.trace (fun s e => (sel s e).toList) es).getLast?

@[simp] theorem latest_nil (sel : σ → ε → Option α) : M.latest sel [] = none := rfl

@[simp] theorem latest_snoc (sel : σ → ε → Option α) (es : List ε) (e : ε) :
    M.latest sel (es ++ [e]) = (sel (M.run es) e).or (M.latest sel es) := by
  rw [latest, trace_snoc, List.getLast?_append, latest]
  cases sel (M.run es) e <;> rfl

/-- What was written last was written by some event of the run. -/
theorem exists_of_mem_latest {sel : σ → ε → Option α} {es : List ε} {a : α}
    (h : a ∈ M.latest sel es) : ∃ e ∈ es, ∃ s, a ∈ sel s e := by
  induction es using List.reverseRecOn with
  | nil => cases h
  | append_singleton es e ih =>
    rw [latest_snoc] at h
    cases hsel : sel (M.run es) e with
    | none =>
      rw [hsel] at h
      obtain ⟨e', he, hwrite⟩ := ih h
      exact ⟨e', List.mem_append_left _ he, hwrite⟩
    | some b =>
      rw [hsel] at h
      exact ⟨e, List.mem_append_right _ (List.mem_singleton_self e), M.run es, hsel.trans h⟩

/-- What stands in the register at some point of a run is all that the run writes. -/
theorem forall_latest_iff {sel : σ → ε → Option α} {P : α → Prop} (es : List ε) :
    (∀ pre, pre <+: es → ∀ a ∈ M.latest sel pre, P a) ↔
      ∀ a ∈ M.trace (fun s e => (sel s e).toList) es, P a := by
  induction es using List.reverseRecOn with
  | nil =>
    constructor
    · intro _ a ha
      cases ha
    · intro _ pre hpre a ha
      rw [List.prefix_nil.mp hpre] at ha
      cases ha
  | append_singleton es e ih =>
    rw [trace_snoc]
    constructor
    · intro h a ha
      obtain ha | ha := List.mem_append.mp ha
      · exact ih.mp (fun pre hpre => h pre (hpre.trans (List.prefix_append es [e]))) a ha
      · refine h _ (List.prefix_refl _) a ?_
        rw [latest_snoc, Option.mem_toList.mp ha]
        rfl
    · intro h pre hpre a ha
      have hbefore := ih.mpr fun b hb => h b (List.mem_append_left _ hb)
      obtain rfl | hpre := List.prefix_concat_iff.mp hpre
      · rw [latest_snoc] at ha
        cases hsel : sel (M.run es) e with
        | none =>
          rw [hsel] at ha
          exact hbefore es (List.prefix_refl _) a ha
        | some b =>
          rw [hsel] at ha
          obtain rfl := Option.some_inj.mp ha
          exact h b (List.mem_append_right _ (Option.mem_toList.mpr hsel))
      · exact hbefore pre hpre a ha

/-- An event that writes in every state leaves something written. -/
theorem latest_ne_none {sel : σ → ε → Option α} {es : List ε} {e : ε} (he : e ∈ es)
    (hsel : ∀ s, sel s e ≠ none) : M.latest sel es ≠ none := by
  induction es using List.reverseRecOn with
  | nil => cases he
  | append_singleton es x ih =>
    rw [latest_snoc, Ne, Option.or_eq_none_iff]
    intro hnone
    obtain he | he := List.mem_append.mp he
    · exact ih he hnone.2
    · rw [List.mem_singleton.mp he] at hsel
      exact hsel _ hnone.1

/-- A register that each step overwrites or keeps. -/
theorem register_eq_latest (reg : σ → α) {sel : σ → ε → Option α}
    (hs : ∀ pre e, reg (M.step (M.run pre) e).1 = (sel (M.run pre) e).getD (reg (M.run pre)))
    (es : List ε) : reg (M.run es) = (M.latest sel es).getD (reg M.start) := by
  refine M.run_induction (R := fun es s => reg s = (M.latest sel es).getD (reg M.start)) ?_ ?_ es
  · rw [latest_nil]
    rfl
  · intro pre e ih
    rw [hs pre e, latest_snoc, ih]
    cases sel (M.run pre) e <;> rfl

/-! ### Refinement -/

/-- If each step of `M` is, through `abs`, the run of `N` over the events `tr`
reads off that step, then so is each run. -/
theorem refines (N : Machine σ' ε' ω') {abs : σ → σ'} {tr : σ → ε → List ε'}
    (h0 : abs M.start = N.start)
    (hs : ∀ pre e, abs (M.step (M.run pre) e).1 =
      N.runFrom (abs (M.run pre)) (tr (M.run pre) e))
    (es : List ε) : abs (M.run es) = N.run (M.trace tr es) := by
  refine M.run_induction (R := fun es s => abs s = N.run (M.trace tr es)) ?_ ?_ es
  · exact h0
  · intro pre e ih
    rw [hs pre e, ih, trace_snoc, N.run_append]

/-- What is read off the steps of `N` along a run of `M` that refines it. -/
theorem trace_refines (N : Machine σ' ε' ω') {abs : σ → σ'} {tr : σ → ε → List ε'}
    (h0 : abs M.start = N.start)
    (hs : ∀ pre e, abs (M.step (M.run pre) e).1 =
      N.runFrom (abs (M.run pre)) (tr (M.run pre) e))
    (f : σ' → ε' → List α) (es : List ε) :
    M.trace (fun s e => N.traceFrom f (abs s) (tr s e)) es = N.trace f (M.trace tr es) := by
  induction es using List.reverseRecOn with
  | nil => rfl
  | append_singleton es e ih =>
    have hstate := M.refines N h0 hs es
    rw [trace_snoc, trace_snoc, ih, hstate]
    exact (N.traceFrom_append f N.start (M.trace tr es) (tr (M.run es) e)).symm

end Machine
end Lib
