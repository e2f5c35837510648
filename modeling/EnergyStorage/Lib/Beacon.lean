import EnergyStorage.Lib.Machine
import Mathlib.Algebra.Group.Nat.Defs
import Mathlib.Data.List.Chain

/-! # Beacons

A beacon sends a counter now and then, one on each time, and no sooner than the beat before
allows.  A machine is one as soon as every step either keeps its counter and its due time or
sends the counter at the due time or later. -/

namespace Lib

/-- A beat, stamp and counter, may come after another, which makes the beacon due again at
`next` of its stamp. -/
def Follows (m : Nat) (next : Nat → Nat) (a b : Nat × Nat) : Prop :=
  b.2 = (a.2 + 1) % m ∧ next a.1 ≤ b.1

/-- Stamps of a 64-bit clock that never goes back, none of them zero. -/
structure Stamps (ts : List Nat) : Prop where
  ordered : ts.Pairwise (· ≤ ·)
  pos : ∀ t ∈ ts, 0 < t
  fits : ∀ t ∈ ts, t < 2 ^ 64

theorem Stamps.le_last {ts pre : List Nat} {t : Nat} (h : Stamps ts) (hpre : pre ++ [t] <+: ts) :
    ∀ a ∈ pre, a ≤ t := by
  have hordered := h.ordered.sublist hpre.sublist
  intro a ha
  exact (List.pairwise_append.mp hordered).2.2 a ha t (List.mem_singleton_self t)

namespace Machine

variable {σ ε ω : Type*} (M : Machine σ ε ω)

/-- What a step of a beacon does. -/
inductive BeaconStep (m : Nat) (next : Nat → Nat) (stamp : Nat) (beats : List (Nat × Nat))
    (count due count' due' : Nat) : Prop
  | silent (hbeats : beats = []) (hcount : count' = count) (hdue : due' = due)
  | beat (hbeats : beats = [(stamp, count)]) (hdue : due ≤ stamp)
      (hcount : count' = (count + 1) % m) (hdue' : due' = next stamp)

variable {M} {m : Nat} {next : Nat → Nat}

/-- The beats of a run follow one another. -/
theorem isChain_trace (f : σ → ε → List (Nat × Nat)) (stamp : ε → Nat) (count due : σ → Nat)
    {es : List ε}
    (hs : ∀ pre e, pre ++ [e] <+: es → BeaconStep m next (stamp e) (f (M.run pre) e)
      (count (M.run pre)) (due (M.run pre)) (count (M.run (pre ++ [e])))
      (due (M.run (pre ++ [e])))) :
    (M.trace f es).IsChain (Follows m next) := by
  -- the counter and the due time tell what the last beat was
  have hlast : ∀ pre, pre <+: es → (M.trace f pre).IsChain (Follows m next) ∧
      ∀ b ∈ (M.trace f pre).getLast?, count (M.run pre) = (b.2 + 1) % m ∧
        due (M.run pre) = next b.1 := by
    intro pre hpre
    induction pre using List.reverseRecOn with
    | nil => exact ⟨List.IsChain.nil, nofun⟩
    | append_singleton pre e ih =>
      obtain ⟨hchain, hend⟩ := ih ((List.prefix_append pre [e]).trans hpre)
      rw [trace_snoc]
      cases hs pre e hpre with
      | silent hbeats hcount hdue =>
        rw [hbeats, List.append_nil, hcount, hdue]
        exact ⟨hchain, hend⟩
      | beat hbeats hdue hcount hdue' =>
        rw [hbeats]
        constructor
        · refine List.isChain_append.mpr ⟨hchain, List.IsChain.singleton _, ?_⟩
          intro a ha b hb
          obtain ⟨hcounter, hlate⟩ := hend a ha
          obtain rfl : (stamp e, count (M.run pre)) = b := Option.some_inj.mp hb
          exact ⟨hcounter, hlate ▸ hdue⟩
        · intro b hb
          rw [List.getLast?_append] at hb
          obtain rfl : (stamp e, count (M.run pre)) = b := Option.some_inj.mp hb
          exact ⟨hcount, hdue'⟩
  exact (hlast es (List.prefix_refl es)).1

end Machine
end Lib
