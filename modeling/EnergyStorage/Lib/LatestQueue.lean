import EnergyStorage.Lib.Machine
import Mathlib.Data.List.Perm.Basic

/-! # A queue that keeps the latest element of each key

A push takes the place of an element with the same key.  The reader takes the whole queue at
once, in whatever order it comes, and works the batch off one element at a time; what `cut` takes
off a batch, and what `skip` passes over, is lost. -/

namespace Lib

variable {α κ : Type*}

structure LatestQueue (α : Type*) where
  latest : List α := []
  batch : List α := []

/-- An order in which a map gives out its entries. -/
structure MapOrder (α : Type*) where
  arrange : List α → List α
  perm : ∀ xs, (arrange xs).Perm xs

instance : Inhabited (MapOrder α) := ⟨⟨id, fun _ => List.Perm.refl _⟩⟩

inductive QueueStep (α : Type*)
  | push (a : α)
  | popAll (order : MapOrder α)
  | next

def QueueStep.pushed : QueueStep α → Option α
  | .push a => some a
  | .popAll _ | .next => none

namespace LatestQueue

variable [DecidableEq κ] (key : α → κ) (cut : List α → List α) (skip : α → Bool)

def step (q : LatestQueue α) : QueueStep α → LatestQueue α × List α
  | .push a => ({ q with latest := q.latest.filter (fun b => key b ≠ key a) ++ [a] }, [])
  | .popAll order =>
    match q.batch with
    | [] => ({ latest := [], batch := cut (order.arrange q.latest) }, [])
    | _ :: _ => (q, [])
  | .next =>
    match q.batch with
    | [] => (q, [])
    | a :: rest => ({ q with batch := rest }, if skip a then [] else [a])

/-- Any number of producers, and the reader. -/
def machine : Machine (LatestQueue α) (QueueStep α) α := ⟨{}, step key cut skip⟩

/-- The elements that are handed on from a state on. -/
def handed (q : LatestQueue α) (es : List (QueueStep α)) : List α :=
  (machine key cut skip).traceFrom (fun q e => (step key cut skip q e).2) q es

def Idle (q : LatestQueue α) : Prop := q.latest = [] ∧ q.batch = []

/-- The step loses nothing: a pushed element is not passed over, a batch not cut. -/
def Keeps (q : LatestQueue α) : QueueStep α → Prop
  | .push a => skip a = false
  | .popAll order => q.batch = [] → ∀ a ∈ q.latest, a ∈ cut (order.arrange q.latest)
  | .next => True

/-- The step takes nothing off the queue. -/
def Spares (q : LatestQueue α) : QueueStep α → Prop
  | .popAll _ => q.batch ≠ []
  | .push _ | .next => True

/-- From `q` on the reader takes nothing off the queue. -/
def Untaken (q : LatestQueue α) (es : List (QueueStep α)) : Prop :=
  (Machine.mk q (step key cut skip)).EveryStep Spares es

/-- The element `a`, pushed last in `q`, keeps its place in the queue. -/
structure Waits (q : LatestQueue α) (a : α) (es : List (QueueStep α)) : Prop where
  place : ∀ b, .push b ∈ es → key b ≠ key a
  untaken : Untaken key cut skip q es

/-- It waits until the reader takes the queue, and what was taken is the batch still. -/
structure Taken (q : LatestQueue α) (a : α) (wait : List (QueueStep α)) (order : MapOrder α)
    (work : List (QueueStep α)) : Prop where
  waits : Waits key cut skip q a wait
  free : ((machine key cut skip).runFrom q wait).batch = []
  same : Untaken key cut skip ((machine key cut skip).runFrom q (wait ++ [.popAll order])) work

/-- It is handed on out of the batch that it was taken with. -/
def Handed (q : LatestQueue α) (a : α) (es : List (QueueStep α)) : Prop :=
  ∃ wait order work rest, es = wait ++ .popAll order :: (work ++ .next :: rest) ∧
    Taken key cut skip q a wait order work ∧
    (step key cut skip
      ((machine key cut skip).runFrom q (wait ++ .popAll order :: work)) .next).2 = [a]

/-- What becomes in the steps `es` of the element `a`, pushed last in `q`. -/
inductive Fate (q : LatestQueue α) (a : α) (es : List (QueueStep α)) : Prop
  | queued (h : Waits key cut skip q a es)
  | superseded {mid rest : List (QueueStep α)} {b : α} (hes : es = mid ++ .push b :: rest)
      (h : Waits key cut skip q a mid) (hkey : key b = key a)
  | taken {wait work : List (QueueStep α)} {order : MapOrder α}
      (hes : es = wait ++ .popAll order :: work) (h : Taken key cut skip q a wait order work)
      (hmem : a ∈ ((machine key cut skip).runFrom q es).batch)
  | handed (h : Handed key cut skip q a es)

variable {key cut skip}

theorem handed_append (q : LatestQueue α) (xs ys : List (QueueStep α)) :
    handed key cut skip q (xs ++ ys) = handed key cut skip q xs ++
      handed key cut skip ((machine key cut skip).runFrom q xs) ys :=
  Machine.traceFrom_append ..

theorem handed_snoc (q : LatestQueue α) (es : List (QueueStep α)) (e : QueueStep α) :
    handed key cut skip q (es ++ [e]) = handed key cut skip q es ++
      (step key cut skip ((machine key cut skip).runFrom q es) e).2 := by
  rw [handed_append]
  exact congrArg _ (List.append_nil _)

theorem Handed.mem {q : LatestQueue α} {a : α} {es : List (QueueStep α)}
    (h : Handed key cut skip q a es) : a ∈ handed key cut skip q es := by
  obtain ⟨wait, order, work, rest, rfl, -, hnext⟩ := h
  have hsplit : wait ++ .popAll order :: (work ++ .next :: rest) =
      (wait ++ .popAll order :: work ++ [.next]) ++ rest := by simp
  rw [hsplit, handed_append, handed_snoc, hnext]
  simp

theorem untaken_nil (q : LatestQueue α) : Untaken key cut skip q [] :=
  Machine.everyStep_nil _ _

theorem untaken_snoc {q : LatestQueue α} {es : List (QueueStep α)} {e : QueueStep α} :
    Untaken key cut skip q (es ++ [e]) ↔
      Untaken key cut skip q es ∧ Spares ((machine key cut skip).runFrom q es) e :=
  Machine.everyStep_snoc _

theorem waits_snoc {q : LatestQueue α} {a : α} {es : List (QueueStep α)} {e : QueueStep α} :
    Waits key cut skip q a (es ++ [e]) ↔ Waits key cut skip q a es ∧
      (∀ b, e = .push b → key b ≠ key a) ∧ Spares ((machine key cut skip).runFrom q es) e := by
  constructor
  · rintro ⟨hplace, huntaken⟩
    obtain ⟨hbefore, hlast⟩ := untaken_snoc.mp huntaken
    refine ⟨⟨fun b hb => hplace b (List.mem_append_left _ hb), hbefore⟩, ?_, hlast⟩
    rintro b rfl
    exact hplace b (by simp)
  · rintro ⟨⟨hplace, huntaken⟩, hpush, hlast⟩
    refine ⟨fun b hb => ?_, untaken_snoc.mpr ⟨huntaken, hlast⟩⟩
    rcases List.mem_append.mp hb with hb | hb
    · exact hplace b hb
    · exact hpush b (List.mem_singleton.mp hb).symm

/-- While it waits, it is in the queue. -/
theorem Waits.mem_latest {q : LatestQueue α} {a : α} (ha : a ∈ q.latest)
    {es : List (QueueStep α)} (h : Waits key cut skip q a es) :
    a ∈ ((machine key cut skip).runFrom q es).latest := by
  induction es using List.reverseRecOn with
  | nil => exact ha
  | append_singleton es e ih =>
    obtain ⟨hbefore, hpush, hspares⟩ := waits_snoc.mp h
    have hmem := ih hbefore
    rw [Machine.runFrom_append]
    revert hspares hmem
    generalize (machine key cut skip).runFrom q es = q'
    intro hspares hmem
    cases e with
    | push b =>
      have hkept := decide_eq_true (Ne.symm (hpush b rfl))
      exact List.mem_append_left _ (List.mem_filter.mpr ⟨hmem, hkept⟩)
    | popAll order =>
      show a ∈ (step key cut skip q' (.popAll order)).1.latest
      rw [step]
      split
      · exact absurd ‹_› hspares
      · exact hmem
    | next =>
      show a ∈ (step key cut skip q' .next).1.latest
      rw [step]
      split <;> exact hmem

section Steps

variable {q : LatestQueue α} {a : α} {es : List (QueueStep α)} {e : QueueStep α}

/-- One that waits goes on waiting, or another one takes its place, or it is taken. -/
theorem Fate.of_queued (ha : a ∈ q.latest) (h : Waits key cut skip q a es)
    (he : Keeps cut skip ((machine key cut skip).runFrom q es) e) :
    Fate key cut skip q a (es ++ [e]) := by
  cases e with
  | push b =>
    by_cases hkey : key b = key a
    · exact .superseded rfl h hkey
    · refine .queued (waits_snoc.mpr ⟨h, ?_, trivial⟩)
      rintro c hc
      cases hc
      exact hkey
  | popAll order =>
    by_cases hbatch : ((machine key cut skip).runFrom q es).batch = []
    · refine .taken rfl ⟨h, hbatch, untaken_nil _⟩ ?_
      have hkept := he hbatch a (h.mem_latest ha)
      rw [Machine.runFrom_append]
      show a ∈ (step key cut skip _ (.popAll order)).1.batch
      rw [step, hbatch]
      exact hkept
    · exact .queued (waits_snoc.mpr ⟨h, fun b hb => (by cases hb), hbatch⟩)
  | next => exact .queued (waits_snoc.mpr ⟨h, fun b hb => (by cases hb), trivial⟩)

/-- One of the batch stays there, or is handed on. -/
theorem Fate.of_taken (hskip : skip a = false) {wait work : List (QueueStep α)}
    {order : MapOrder α} (h : Taken key cut skip q a wait order work)
    (hmem : a ∈ ((machine key cut skip).runFrom q (wait ++ .popAll order :: work)).batch) :
    Fate key cut skip q a (wait ++ .popAll order :: work ++ [e]) := by
  have hsplit : wait ++ .popAll order :: work ++ [e] =
      wait ++ .popAll order :: (work ++ [e]) := by simp
  have hlater : (machine key cut skip).runFrom
      ((machine key cut skip).runFrom q (wait ++ [.popAll order])) work =
        (machine key cut skip).runFrom q (wait ++ .popAll order :: work) := by
    rw [← Machine.runFrom_append, List.append_assoc]
    rfl
  have hon : ∀ {x}, Spares ((machine key cut skip).runFrom q (wait ++ .popAll order :: work)) x →
      Taken key cut skip q a wait order (work ++ [x]) := fun hx =>
    ⟨h.waits, h.free, untaken_snoc.mpr ⟨h.same, hlater ▸ hx⟩⟩
  have hne : ((machine key cut skip).runFrom q (wait ++ .popAll order :: work)).batch ≠ [] :=
    List.ne_nil_of_mem hmem
  cases e with
  | push b =>
    refine .taken hsplit (hon trivial) ?_
    rw [Machine.runFrom_append]
    exact hmem
  | popAll order' =>
    refine .taken hsplit (hon hne) ?_
    rw [Machine.runFrom_append]
    show a ∈ (step key cut skip _ (.popAll order')).1.batch
    rw [step]
    split
    · exact absurd ‹_› hne
    · exact hmem
  | next =>
    rcases hbatch : ((machine key cut skip).runFrom q (wait ++ .popAll order :: work)).batch with
      _ | ⟨x, rest⟩
    · exact absurd hbatch hne
    · rw [hbatch] at hmem
      rcases List.mem_cons.mp hmem with rfl | hrest
      · refine .handed ⟨wait, order, work, [], hsplit, h, ?_⟩
        rw [step, hbatch]
        exact if_neg (Bool.eq_false_iff.mp hskip)
      · refine .taken hsplit (hon trivial) ?_
        rw [Machine.runFrom_append]
        show a ∈ (step key cut skip _ .next).1.batch
        rw [step, hbatch]
        exact hrest

theorem Fate.step (ha : a ∈ q.latest) (hskip : skip a = false) (h : Fate key cut skip q a es)
    (he : Keeps cut skip ((machine key cut skip).runFrom q es) e) :
    Fate key cut skip q a (es ++ [e]) := by
  cases h with
  | queued h => exact .of_queued ha h he
  | @superseded mid rest b hes h hkey =>
    have hmore : es ++ [e] = mid ++ .push b :: (rest ++ [e]) := by
      rw [hes, List.append_assoc, List.cons_append]
    exact .superseded hmore h hkey
  | taken hes h hmem =>
    subst hes
    exact .of_taken hskip h hmem
  | handed h =>
    obtain ⟨wait, order, work, rest, hes, htaken, hnext⟩ := h
    refine .handed ⟨wait, order, work, rest ++ [e], ?_, htaken, hnext⟩
    rw [hes]
    simp

end Steps

theorem mem_push (pre : List (QueueStep α)) (a : α) :
    a ∈ ((machine key cut skip).run (pre ++ [.push a])).latest := by
  rw [Machine.run_snoc]
  exact List.mem_append_right _ (List.mem_singleton_self a)

theorem run_push (pre post : List (QueueStep α)) (a : α) :
    (machine key cut skip).run (pre ++ .push a :: post) =
      (machine key cut skip).runFrom ((machine key cut skip).run (pre ++ [.push a])) post := by
  rw [← Machine.run_append, List.append_assoc]
  rfl

/-- A run whose steps lose nothing accounts for every element that was pushed. -/
theorem fate_of_keeps {es : List (QueueStep α)}
    (h : (machine key cut skip).EveryStep (Keeps cut skip) es) {pre post : List (QueueStep α)}
    {a : α} (hes : es = pre ++ .push a :: post) :
    Fate key cut skip ((machine key cut skip).run (pre ++ [.push a])) a post := by
  subst hes
  have hskip : skip a = false := h pre (.push a) (by simp)
  induction post using List.reverseRecOn with
  | nil => exact .queued ⟨fun b hb => (by cases hb), untaken_nil _⟩
  | append_singleton post e ih =>
    rw [← List.cons_append, ← List.append_assoc] at h
    obtain ⟨hbefore, hlast⟩ := (machine key cut skip).everyStep_snoc.mp h
    rw [run_push] at hlast
    exact (ih hbefore).step (mem_push ..) hskip hlast

/-- Once nothing is left, the last element of every key has been handed on. -/
theorem Fate.handed_of_idle {q : LatestQueue α} {a : α} {es : List (QueueStep α)}
    (ha : a ∈ q.latest) (h : Fate key cut skip q a es)
    (hidle : Idle ((machine key cut skip).runFrom q es))
    (hlast : ∀ b, .push b ∈ es → key b ≠ key a) : Handed key cut skip q a es := by
  cases h with
  | queued h =>
    have hmem := h.mem_latest ha
    rw [hidle.1] at hmem
    cases hmem
  | superseded hes _ hkey =>
    refine absurd hkey (hlast _ ?_)
    rw [hes]
    simp
  | taken _ _ hmem =>
    rw [hidle.2] at hmem
    cases hmem
  | handed h => exact h

/-! ### The reader goes on -/

/-- The reader finishes its batch, takes the queue and finishes what it got. -/
def round (cut : List α → List α) (order : MapOrder α) (q : LatestQueue α) :
    List (QueueStep α) :=
  List.replicate q.batch.length .next ++ .popAll order ::
    List.replicate (cut (order.arrange q.latest)).length .next

theorem runFrom_next (q : LatestQueue α) :
    (machine key cut skip).runFrom q (List.replicate q.batch.length .next) =
      { q with batch := [] } := by
  cases q with
  | mk latest batch =>
    induction batch with
    | nil => rfl
    | cons a batch ih => exact ih

theorem idle_round (order : MapOrder α) (q : LatestQueue α) :
    Idle ((machine key cut skip).runFrom q (round cut order q)) := by
  have htaken : (machine key cut skip).runFrom
      { latest := [], batch := cut (order.arrange q.latest) }
      (List.replicate (cut (order.arrange q.latest)).length .next) =
        { latest := [], batch := [] } :=
    runFrom_next { latest := [], batch := cut (order.arrange q.latest) }
  rw [round, Machine.runFrom_append, runFrom_next, Machine.runFrom_cons]
  have hstep : ((machine key cut skip).step { q with batch := [] } (.popAll order)).1 =
      { latest := [], batch := cut (order.arrange q.latest) } := rfl
  rw [hstep, htaken]
  exact ⟨rfl, rfl⟩

/-! ### The order of one key -/

section Order

variable (key skip)

/-- The elements that the producers have pushed. -/
def pushed (es : List (QueueStep α)) : List α := es.filterMap QueueStep.pushed

def ofKey (k : κ) (xs : List α) : List α := xs.filter fun a => key a = k

/-- After the pushes, with `out` handed on: what has been handed on of a key, waits in the batch
or waits in the queue comes in the order of the pushes, and its last is the last of them. -/
structure Ordered (pushes out : List α) (q : LatestQueue α) : Prop where
  distinct : (q.latest.map key).Nodup
  sublist : ∀ k, (ofKey key k (out ++ q.batch ++ q.latest)).Sublist (ofKey key k pushes)
  last : ∀ k, (∀ a ∈ pushes, key a = k → skip a = false) →
    (ofKey key k (out ++ q.batch ++ q.latest)).getLast? = (ofKey key k pushes).getLast?

variable {key skip}

theorem ofKey_append (k : κ) (xs ys : List α) :
    ofKey key k (xs ++ ys) = ofKey key k xs ++ ofKey key k ys := List.filter_append _ _

/-- Of distinct keys each has one element at most, and the order does not matter. -/
theorem ofKey_perm {xs ys : List α} (h : xs.Perm ys) (hdistinct : (ys.map key).Nodup) (k : κ) :
    ofKey key k xs = ofKey key k ys := by
  have hperm : (ofKey key k xs).Perm (ofKey key k ys) := h.filter _
  have hkey : ∀ a ∈ ofKey key k ys, key a = k := fun a ha => of_decide_eq_true
    (List.mem_filter.mp ha).2
  have hnodup : ((ofKey key k ys).map key).Nodup :=
    hdistinct.sublist (List.filter_sublist.map key)
  revert hperm hkey hnodup
  generalize ofKey key k ys = zs
  rcases zs with _ | ⟨a, _ | ⟨b, zs⟩⟩
  · intro hperm _ _
    exact hperm.eq_nil
  · intro hperm _ _
    exact List.perm_singleton.mp hperm
  · intro _ hkey hnodup
    have hsame : key a = key b := (hkey a (by simp)).trans (hkey b (by simp)).symm
    rw [List.map_cons, List.map_cons, List.nodup_cons, hsame] at hnodup
    exact absurd List.mem_cons_self hnodup.1

section Step

variable {pushes out : List α} {q : LatestQueue α}

theorem Ordered.push (h : Ordered key skip pushes out q) (a : α) :
    Ordered key skip (pushes ++ [a]) out
      { q with latest := q.latest.filter (fun b => key b ≠ key a) ++ [a] } := by
  have hsame : ofKey key (key a) (q.latest.filter fun b => key b ≠ key a) = [] := by
    rw [ofKey, List.filter_filter, List.filter_eq_nil_iff]
    intro b _
    by_cases hb : key b = key a <;> simp [hb]
  have hother : ∀ k, key a ≠ k →
      ofKey key k (q.latest.filter fun b => key b ≠ key a) = ofKey key k q.latest := by
    intro k hk
    rw [ofKey, List.filter_filter]
    apply List.filter_congr
    intro b _
    by_cases hb : key b = k
    · have hne : key b ≠ key a := fun h => hk (h.symm.trans hb)
      simp [hb, Ne.symm hk]
    · simp [hb]
  have hone : ofKey key (key a) [a] = [a] := by simp [ofKey]
  have hnone : ∀ k, key a ≠ k → ofKey key k [a] = [] := by
    intro k hk
    simp [ofKey, hk]
  refine ⟨?_, ?_, ?_⟩
  · show ((q.latest.filter fun b => key b ≠ key a) ++ [a] |>.map key).Nodup
    rw [List.map_append, List.nodup_append]
    refine ⟨h.distinct.sublist (List.filter_sublist.map key), by simp, ?_⟩
    intro k hk k' hk'
    obtain ⟨b, hb, rfl⟩ := List.mem_map.mp hk
    rw [List.map_singleton, List.mem_singleton] at hk'
    rw [hk']
    exact of_decide_eq_true (List.mem_filter.mp hb).2
  · intro k
    have hsub := h.sublist k
    show (ofKey key k (out ++ q.batch ++
      (q.latest.filter (fun b => key b ≠ key a) ++ [a]))).Sublist _
    simp only [ofKey_append] at hsub ⊢
    by_cases hk : key a = k
    · subst hk
      rw [hsame, hone, List.nil_append]
      exact ((List.sublist_append_left _ _).trans hsub).append (List.Sublist.refl _)
    · rw [hother k hk, hnone k hk, List.append_nil, List.append_nil]
      exact hsub
  · intro k hskip
    have hlast := h.last k fun b hb => hskip b (List.mem_append_left _ hb)
    show (ofKey key k (out ++ q.batch ++
      (q.latest.filter (fun b => key b ≠ key a) ++ [a]))).getLast? = _
    simp only [ofKey_append] at hlast ⊢
    by_cases hk : key a = k
    · subst hk
      rw [hone, ← List.append_assoc, List.getLast?_concat, List.getLast?_concat]
    · rw [hother k hk, hnone k hk, List.append_nil, List.append_nil]
      exact hlast

theorem Ordered.popAll (h : Ordered key skip pushes out q) (hbatch : q.batch = [])
    (hcut : ∀ xs, cut xs = xs) (order : MapOrder α) :
    Ordered key skip pushes out { latest := [], batch := cut (order.arrange q.latest) } := by
  have hall : ∀ k, ofKey key k (out ++ cut (order.arrange q.latest) ++ []) =
      ofKey key k (out ++ q.batch ++ q.latest) := by
    intro k
    rw [hcut, hbatch, List.append_nil, List.append_nil, ofKey_append, ofKey_append,
      ofKey_perm (order.perm q.latest) h.distinct]
  refine ⟨List.nodup_nil, ?_, ?_⟩
  · intro k
    rw [hall]
    exact h.sublist k
  · intro k hskip
    rw [hall]
    exact h.last k hskip

theorem Ordered.next (h : Ordered key skip pushes out q) {a : α} {rest : List α}
    (hbatch : q.batch = a :: rest) :
    Ordered key skip pushes (out ++ if skip a then [] else [a]) { q with batch := rest } := by
  have hsub := h.sublist
  have hlast := h.last
  rw [hbatch] at hsub hlast
  by_cases hskip : skip a = true
  · rw [if_pos hskip, List.append_nil]
    refine ⟨h.distinct, ?_, ?_⟩
    · intro k
      refine List.Sublist.trans ?_ (hsub k)
      exact ((List.Sublist.refl out).append (List.sublist_cons_self a rest)).append
        (List.Sublist.refl _) |>.filter _
    · intro k hk
      rw [← hlast k hk]
      have hne : key a ≠ k := by
        intro heq
        have hmem : a ∈ ofKey key k (out ++ a :: rest ++ q.latest) := by
          refine List.mem_filter.mpr ⟨?_, decide_eq_true heq⟩
          simp
        have hfalse := hk a (List.mem_filter.mp ((hsub k).subset hmem)).1 heq
        rw [hskip] at hfalse
        cases hfalse
      simp [ofKey, hne]
  · have hsame : out ++ [a] ++ rest ++ q.latest = out ++ a :: rest ++ q.latest := by simp
    rw [if_neg hskip]
    refine ⟨h.distinct, ?_, ?_⟩
    · intro k
      rw [hsame]
      exact hsub k
    · intro k hk
      rw [hsame]
      exact hlast k hk

theorem Ordered.step (h : Ordered key skip pushes out q) (hcut : ∀ xs, cut xs = xs)
    (e : QueueStep α) : Ordered key skip (pushes ++ e.pushed.toList)
      (out ++ (step key cut skip q e).2) (step key cut skip q e).1 := by
  cases e with
  | push a =>
    show Ordered key skip (pushes ++ [a]) (out ++ []) _
    rw [List.append_nil]
    exact h.push a
  | popAll order =>
    show Ordered key skip (pushes ++ []) _ _
    rw [List.append_nil, LatestQueue.step]
    rcases hbatch : q.batch with _ | ⟨a, rest⟩
    · rw [List.append_nil]
      exact h.popAll hbatch hcut order
    · rw [List.append_nil]
      exact h
  | next =>
    show Ordered key skip (pushes ++ []) _ _
    rw [List.append_nil, LatestQueue.step]
    rcases hbatch : q.batch with _ | ⟨a, rest⟩
    · rw [List.append_nil]
      exact h
    · exact h.next hbatch

end Step

theorem ordered_run (hcut : ∀ xs, cut xs = xs) (es : List (QueueStep α)) :
    Ordered key skip (pushed es) (handed key cut skip {} es) ((machine key cut skip).run es) := by
  induction es using List.reverseRecOn with
  | nil => exact ⟨List.nodup_nil, fun _ => List.Sublist.refl _, fun _ _ => rfl⟩
  | append_singleton es e ih =>
    have hpushed : pushed (es ++ [e]) = pushed es ++ e.pushed.toList := by
      rw [pushed, List.filterMap_append]
      cases e <;> rfl
    rw [hpushed, handed_snoc, Machine.run_snoc]
    exact ih.step hcut e

/-- What is told of elements that all tell something ends with what the last one tells. -/
theorem getLast?_filterMap_tell {β : Type*} {tell : α → Option β} {xs : List α}
    (h : ∀ a ∈ xs, (tell a).isSome) : (xs.filterMap tell).getLast? = xs.getLast?.bind tell := by
  rcases List.eq_nil_or_concat xs with rfl | ⟨ys, a, rfl⟩
  · rfl
  · obtain ⟨v, hv⟩ := Option.isSome_iff_exists.mp (h a (by simp))
    rw [List.concat_eq_append, List.filterMap_append, List.getLast?_concat]
    simp [hv]

/-- Only the elements of the key tell something. -/
theorem filterMap_ofKey {β : Type*} {tell : α → Option β} {xs : List α} {k : κ}
    (h : ∀ a ∈ xs, (tell a).isSome → key a = k) :
    (ofKey key k xs).filterMap tell = xs.filterMap tell := by
  rw [ofKey, List.filterMap_filter]
  apply List.filterMap_congr
  intro a ha
  by_cases hkey : key a = k
  · simp [hkey]
  · have hnone : tell a = none :=
      Option.not_isSome_iff_eq_none.mp fun hsome => hkey (h a ha hsome)
    simp [hkey, hnone]

/-- Once nothing is left, what tells something about the elements of one key has been told the
last of them at last. -/
theorem last_handed {β : Type*} {es : List (QueueStep α)} (hcut : ∀ xs, cut xs = xs)
    (hidle : Idle ((machine key cut skip).run es)) {tell : α → Option β}
    (hkey : ∀ a ∈ pushed es, ∀ b ∈ pushed es, (tell a).isSome → ((tell b).isSome ↔ key b = key a))
    (hskip : ∀ a ∈ pushed es, (tell a).isSome → skip a = false) :
    ((handed key cut skip {} es).filterMap tell).getLast? =
      ((pushed es).filterMap tell).getLast? := by
  have hrun : Ordered key skip (pushed es) (handed key cut skip {} es) _ := ordered_run hcut es
  have hsub := hrun.sublist
  have hlast := hrun.last
  rw [hidle.1, hidle.2, List.append_nil, List.append_nil] at hsub hlast
  have hmem : ∀ a ∈ handed key cut skip {} es, a ∈ pushed es := by
    intro a ha
    have hof : a ∈ ofKey key (key a) (handed key cut skip {} es) :=
      List.mem_filter.mpr ⟨ha, decide_eq_true rfl⟩
    exact (List.mem_filter.mp ((hsub _).subset hof)).1
  by_cases hnone : ∀ a ∈ pushed es, tell a = none
  · rw [List.filterMap_eq_nil_iff.mpr hnone,
      List.filterMap_eq_nil_iff.mpr fun a ha => hnone a (hmem a ha)]
  · simp only [not_forall] at hnone
    obtain ⟨a, ha, htell⟩ := hnone
    have hsome : (tell a).isSome := Option.isSome_iff_ne_none.mpr htell
    have htold : ∀ b ∈ pushed es, (tell b).isSome ↔ key b = key a := fun b hb =>
      hkey a ha b hb hsome
    have hskipped : ∀ b ∈ pushed es, key b = key a → skip b = false := fun b hb heq =>
      hskip b hb ((htold b hb).mpr heq)
    have hall : ∀ xs : List α, (∀ b ∈ xs, b ∈ pushed es) →
        (xs.filterMap tell).getLast? = (ofKey key (key a) xs).getLast?.bind tell := by
      intro xs hxs
      rw [← filterMap_ofKey fun b hb => (htold b (hxs b hb)).mp]
      apply getLast?_filterMap_tell
      intro b hb
      obtain ⟨hmem, heq⟩ := List.mem_filter.mp hb
      exact (htold b (hxs b hmem)).mpr (of_decide_eq_true heq)
    rw [hall _ hmem, hall _ fun b hb => hb, hlast _ hskipped]

end Order

end LatestQueue
end Lib
