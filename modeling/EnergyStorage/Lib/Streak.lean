import EnergyStorage.Lib.Machine

/-! # Streaks

Among the events of one kind, a condition may hold at each of them since some event on.
The start of the longest such streak is what a machine keeps in a flag and a time stamp,
and a wait is over when the stamp is old enough. -/

namespace Lib
namespace Machine

variable {σ ε ω : Type*} (M : Machine σ ε ω)

/-- `e` is of the kind, and from `e` on every event of the kind satisfied `p` in the state
that it met. -/
def Streak (kind : ε → Prop) (p : σ → ε → Prop) (es : List ε) (e : ε) : Prop :=
  ∃ pre post, es = pre ++ e :: post ∧ kind e ∧
    ∀ mid x rest, e :: post = mid ++ x :: rest → kind x → p (M.run (pre ++ mid)) x

variable {M} {kind : ε → Prop} {p : σ → ε → Prop} {es : List ε} {x : ε}

theorem not_streak_nil (e : ε) : ¬ M.Streak kind p [] e := by
  rintro ⟨pre, post, h, -⟩
  cases pre <;> cases h

theorem Streak.mem {e : ε} (h : M.Streak kind p es e) : e ∈ es ∧ kind e := by
  obtain ⟨pre, post, rfl, hkind, -⟩ := h
  exact ⟨List.mem_append_right pre List.mem_cons_self, hkind⟩

theorem streak_snoc (e : ε) :
    M.Streak kind p (es ++ [x]) e ↔
      M.Streak kind p es e ∧ (kind x → p (M.run es) x) ∨ e = x ∧ kind x ∧ p (M.run es) x := by
  constructor
  · rintro ⟨pre, post, h, hkind, hp⟩
    rcases List.eq_nil_or_concat post with rfl | ⟨post', y, rfl⟩
    · obtain ⟨rfl, hx⟩ := List.append_inj' h rfl
      obtain rfl := List.singleton_inj.mp hx
      have hlast := hp [] x [] rfl hkind
      rw [List.append_nil] at hlast
      exact Or.inr ⟨rfl, hkind, hlast⟩
    · rw [List.concat_eq_append] at h hp
      have hlast : es ++ [x] = (pre ++ e :: post') ++ [y] := by
        rw [h, List.append_assoc, List.cons_append]
      obtain ⟨rfl, hx⟩ := List.append_inj' hlast rfl
      obtain rfl := List.singleton_inj.mp hx
      refine Or.inl ⟨⟨pre, post', rfl, hkind, fun mid z rest hmid => ?_⟩, ?_⟩
      · exact hp mid z (rest ++ [x]) (by rw [← List.cons_append, hmid, List.append_assoc,
          List.cons_append])
      · exact hp (e :: post') x [] rfl
  · rintro (⟨⟨pre, post, rfl, hkind, hp⟩, hx⟩ | ⟨rfl, hkind, hx⟩)
    · refine ⟨pre, post ++ [x], by simp, hkind, fun mid z rest h => ?_⟩
      rcases List.eq_nil_or_concat rest with rfl | ⟨rest', y, rfl⟩
      · rw [← List.cons_append] at h
        obtain ⟨hmid, hz⟩ := List.append_inj' h rfl
        rw [← hmid, ← List.singleton_inj.mp hz]
        exact hx
      · rw [List.concat_eq_append, ← List.cons_append, ← List.cons_append,
          ← List.append_assoc] at h
        exact hp mid z rest' (List.append_inj' h rfl).1
    · refine ⟨es, [], rfl, hkind, fun mid z rest h _ => ?_⟩
      rcases mid with - | ⟨m, mid⟩
      · obtain ⟨rfl, -⟩ := List.cons.inj h
        rw [List.append_nil]
        exact hx
      · obtain ⟨-, hnil⟩ := List.cons.inj h
        cases mid <;> cases hnil

theorem not_streak_of_break (hkind : kind x) (hp : ¬ p (M.run es) x) (e : ε) :
    ¬ M.Streak kind p (es ++ [x]) e := by
  rw [streak_snoc]
  rintro (⟨-, h⟩ | ⟨-, -, h⟩)
  · exact hp (h hkind)
  · exact hp h

/-! ### Its timer -/

/-- A flag and a stamp that tell whether a streak is under way and since when. -/
structure Timed (M : Machine σ ε ω) (kind : ε → Prop) (p : σ → ε → Prop) (stamp : ε → Nat)
    (es : List ε) (running : Bool) (since : Nat) : Prop where
  started : running = true → ∃ e, M.Streak kind p es e ∧ stamp e = since
  first : ∀ e, M.Streak kind p es e → running = true ∧ since ≤ stamp e

variable {stamp : ε → Nat} {running : Bool} {since : Nat}

theorem Timed.idle (h : ∀ e, ¬ M.Streak kind p es e) (since : Nat) :
    Timed M kind p stamp es false since :=
  ⟨fun h => absurd h Bool.false_ne_true, fun e he => absurd he (h e)⟩

/-- An event of another kind leaves the timer alone. -/
theorem Timed.other (h : Timed M kind p stamp es running since) (hx : ¬ kind x) :
    Timed M kind p stamp (es ++ [x]) running since := by
  have hiff : ∀ e, M.Streak kind p (es ++ [x]) e ↔ M.Streak kind p es e := by
    intro e
    rw [streak_snoc]
    constructor
    · rintro (⟨he, -⟩ | ⟨-, hk, -⟩)
      · exact he
      · exact absurd hk hx
    · exact fun he => Or.inl ⟨he, fun hk => absurd hk hx⟩
  constructor
  · intro hr
    obtain ⟨e, he, hs⟩ := h.started hr
    exact ⟨e, (hiff e).mpr he, hs⟩
  · exact fun e he => h.first e ((hiff e).mp he)

/-- An event that satisfies the condition starts the timer if it stands still. -/
theorem Timed.extend (h : Timed M kind p stamp es running since) (hkind : kind x)
    (hp : p (M.run es) x) (hstamp : ∀ e ∈ es, kind e → stamp e ≤ stamp x) :
    Timed M kind p stamp (es ++ [x]) true (if running then since else stamp x) := by
  cases hr : running with
  | false =>
    refine ⟨fun _ => ⟨x, (streak_snoc x).mpr (Or.inr ⟨rfl, hkind, hp⟩), rfl⟩, fun e he => ?_⟩
    rcases (streak_snoc e).mp he with ⟨hold, -⟩ | ⟨rfl, -, -⟩
    · rw [hr] at h
      exact absurd (h.first e hold).1 Bool.false_ne_true
    · exact ⟨rfl, Nat.le_refl _⟩
  | true =>
    obtain ⟨e₀, he₀, hs⟩ := h.started hr
    refine ⟨fun _ => ⟨e₀, (streak_snoc e₀).mpr (Or.inl ⟨he₀, fun _ => hp⟩), hs⟩, fun e he => ?_⟩
    rcases (streak_snoc e).mp he with ⟨hold, -⟩ | ⟨rfl, -, -⟩
    · exact ⟨rfl, (h.first e hold).2⟩
    · refine ⟨rfl, ?_⟩
      rw [if_pos rfl, ← hs]
      exact hstamp e₀ he₀.mem.1 he₀.mem.2

/-- The wait is over when the streak has an event that is old enough. -/
theorem Timed.due_iff (h : Timed M kind p stamp es true since) (delay now : Nat) :
    since + delay ≤ now ↔ ∃ e, M.Streak kind p es e ∧ stamp e + delay ≤ now := by
  constructor
  · intro hdue
    obtain ⟨e, he, hs⟩ := h.started rfl
    exact ⟨e, he, by rw [hs]; exact hdue⟩
  · rintro ⟨e, he, hdue⟩
    exact Nat.le_trans (Nat.add_le_add_right (h.first e he).2 delay) hdue

end Machine
end Lib
