import EnergyStorage.Lib.Machine
import Mathlib.Data.List.Chain
import Mathlib.Data.List.Nodup
import Mathlib.Logic.Function.Basic

/-! # The digital outputs

The command dispatcher remembers the value it has last written to a channel and leaves out a
write of the same value.  Each write may fail. -/

namespace EnergyStorage
namespace Driver

open Lib

structure DoDef where
  channelId : Int
  gpioNum : Nat
  name : String
  activeHigh : Bool
  deriving DecidableEq

def kDoDefs : List DoDef :=
  [⟨1, 436, "DO1", true⟩, ⟨2, 437, "DO2", true⟩, ⟨3, 438, "DO3", true⟩, ⟨4, 439, "DO4", true⟩,
    ⟨5, 440, "DO5", true⟩, ⟨6, 442, "DO6", true⟩, ⟨7, 447, "DO7", true⟩, ⟨8, 448, "DO8", true⟩]

def findDo (channelId : Int) : Option DoDef := kDoDefs.find? fun d => d.channelId = channelId

namespace DoDef

/-- The raw value for a logical one, and back. -/
def raw (d : DoDef) (on : Bool) : Nat :=
  if d.activeHigh = true then if on = true then 1 else 0 else if on = true then 0 else 1

def logical (d : DoDef) (raw : Nat) : Bool :=
  if d.activeHigh = true then raw != 0 else raw == 0

theorem logical_raw (d : DoDef) (on : Bool) : d.logical (d.raw on) = on := by
  unfold logical raw
  cases d.activeHigh <;> cases on <;> rfl

end DoDef

structure DoState where
  channelId : Int
  gpioNum : Nat
  rawValue : Nat
  logicalOn : Bool
  ok : Bool

/-- The values at the pins, by their numbers, and the raw values the manager has written. -/
structure Outputs where
  pins : Nat → Nat
  rawCache : Int → Option Nat

namespace Outputs

/-- `ok` is what the write to the pin would return. -/
def setChannel (o : Outputs) (channelId : Int) (on ok : Bool) : Outputs × Bool :=
  match findDo channelId with
  | none => (o, false)
  | some d =>
    if ok = false then (o, false)
    else
      (⟨Function.update o.pins d.gpioNum (d.raw on),
        Function.update o.rawCache channelId (some (d.raw on))⟩, true)

/-- `readable` tells which pins can be read at that moment. -/
def getStates (o : Outputs) (readable : Nat → Bool) : List DoState :=
  kDoDefs.map fun d =>
    if readable d.gpioNum = true then
      ⟨d.channelId, d.gpioNum, o.pins d.gpioNum, d.logical (o.pins d.gpioNum), true⟩
    else
      match o.rawCache d.channelId with
      | some raw => ⟨d.channelId, d.gpioNum, raw, d.logical raw, false⟩
      | none => ⟨d.channelId, d.gpioNum, 0, false, false⟩

end Outputs

/-- A command to write an output, with what the write would return. -/
structure WriteDo where
  channelId : Int
  value : Bool
  ok : Bool

structure Dispatcher where
  outputs : Outputs
  lastDoCache : Int → Option Bool := fun _ => none

/-- The case of `dispatchOne_` for outputs. -/
def Dispatcher.dispatchOne (s : Dispatcher) (c : WriteDo) : Dispatcher :=
  if s.lastDoCache c.channelId = some c.value then s
  else
    let written := s.outputs.setChannel c.channelId c.value c.ok
    if written.2 = false then { s with outputs := written.1 }
    else ⟨written.1, Function.update s.lastDoCache c.channelId (some c.value)⟩

/-- The dispatcher, from any values at the pins on. -/
def dispatcher (outputs : Outputs) : Machine Dispatcher WriteDo Empty where
  start := { outputs := outputs }
  step s c := (s.dispatchOne c, [])

/-- A dispatcher that writes every command. -/
def plainDispatcher (outputs : Outputs) : Machine Outputs WriteDo Empty where
  start := outputs
  step o c := ((o.setChannel c.channelId c.value c.ok).1, [])

namespace Dispatcher

/-- The value that a command writes to channel `k`, if it is tried and succeeds. -/
def writes (k : Int) (s : Dispatcher) (c : WriteDo) : List Bool :=
  if c.channelId = k ∧ s.lastDoCache k ≠ some c.value ∧
      (s.outputs.setChannel k c.value c.ok).2 = true then [c.value] else []

end Dispatcher

/-! ### What the cache knows -/

theorem findDo_eq_some {k : Int} {d : DoDef} (h : findDo k = some d) :
    d ∈ kDoDefs ∧ d.channelId = k := by
  have hk := List.find?_some h
  exact ⟨List.mem_of_find?_eq_some h, of_decide_eq_true hk⟩

/-- No two channels share a pin. -/
theorem gpioNum_injective {k k' : Int} {d d' : DoDef} (h : findDo k = some d)
    (h' : findDo k' = some d') (heq : d.gpioNum = d'.gpioNum) : k = k' := by
  obtain ⟨hd, rfl⟩ := findDo_eq_some h
  obtain ⟨hd', rfl⟩ := findDo_eq_some h'
  have hpins : (kDoDefs.map DoDef.gpioNum).Nodup := by decide
  rw [List.inj_on_of_nodup_map hpins hd hd' heq]

theorem findDo_channelId {d : DoDef} (h : d ∈ kDoDefs) : findDo d.channelId = some d := by
  simp only [kDoDefs, List.mem_cons, List.not_mem_nil, or_false] at h
  rcases h with rfl | rfl | rfl | rfl | rfl | rfl | rfl | rfl <;> rfl

namespace Outputs

/-- Channel `k` shows `v`, at its pin and in the raw cache. -/
def Shows (o : Outputs) (k : Int) (v : Bool) : Prop :=
  ∃ d, findDo k = some d ∧ o.pins d.gpioNum = d.raw v ∧ o.rawCache k = some (d.raw v)

variable {o : Outputs} {k : Int} {v : Bool}

/-- Writing what a channel shows changes nothing. -/
theorem setChannel_of_shows (h : o.Shows k v) (ok : Bool) : (o.setChannel k v ok).1 = o := by
  obtain ⟨d, hd, hpin, hraw⟩ := h
  unfold setChannel
  rw [hd]
  dsimp only
  split_ifs
  · rfl
  · rw [← hpin, Function.update_eq_self, hpin, ← hraw, Function.update_eq_self]

theorem shows_setChannel {ok : Bool} (h : (o.setChannel k v ok).2 = true) :
    (o.setChannel k v ok).1.Shows k v := by
  unfold setChannel at h ⊢
  cases hd : findDo k with
  | none =>
    rw [hd] at h
    cases h
  | some d =>
    rw [hd] at h
    dsimp only at h ⊢
    split_ifs at h ⊢
    exact ⟨d, hd, Function.update_self _ _ _, Function.update_self _ _ _⟩

/-- A write to another channel leaves alone what a channel shows. -/
theorem Shows.setChannel_of_ne (h : o.Shows k v) {k' : Int} (hk : k' ≠ k) (v' ok : Bool) :
    (o.setChannel k' v' ok).1.Shows k v := by
  obtain ⟨d, hd, hpin, hraw⟩ := h
  unfold setChannel
  cases hd' : findDo k' with
  | none => exact ⟨d, hd, hpin, hraw⟩
  | some d' =>
    dsimp only
    split_ifs
    · exact ⟨d, hd, hpin, hraw⟩
    · have hne : d.gpioNum ≠ d'.gpioNum := fun heq => hk (gpioNum_injective hd' hd heq.symm)
      exact ⟨d, hd, (Function.update_of_ne hne _ _).trans hpin,
        (Function.update_of_ne (Ne.symm hk) _ _).trans hraw⟩

theorem Shows.logicalOn (h : o.Shows k v) (readable : Nat → Bool) {st : DoState}
    (hst : st ∈ o.getStates readable) (hk : st.channelId = k) : st.logicalOn = v := by
  obtain ⟨d, hd, hpin, hraw⟩ := h
  obtain ⟨d', hd', rfl⟩ := List.mem_map.mp hst
  have hsame : d' = d := by
    have hchannel : d'.channelId = k := by
      rw [← hk]
      split_ifs
      · rfl
      · cases o.rawCache d'.channelId <;> rfl
    have hfind := findDo_channelId hd'
    rw [hchannel, hd] at hfind
    exact (Option.some_inj.mp hfind).symm
  subst hsame
  rw [(findDo_eq_some hd).2]
  split_ifs
  · show d'.logical (o.pins d'.gpioNum) = v
    rw [hpin, d'.logical_raw]
  · rw [hraw]
    exact d'.logical_raw v

end Outputs

namespace Dispatcher

/-- What the cache knows of a channel is what was last written to it, and is what it shows. -/
structure Knows (written : Int → List Bool) (s : Dispatcher) : Prop where
  shown : ∀ k v, s.lastDoCache k = some v → s.outputs.Shows k v
  last : ∀ k, s.lastDoCache k = (written k).getLast?
  alternate : ∀ k, (written k).IsChain (· ≠ ·)

variable {s : Dispatcher} {written : Int → List Bool}

theorem dispatchOne_outputs (h : s.Knows written) (c : WriteDo) :
    (s.dispatchOne c).outputs = (s.outputs.setChannel c.channelId c.value c.ok).1 := by
  unfold dispatchOne
  dsimp only
  split_ifs with hcached
  · exact (Outputs.setChannel_of_shows (h.shown _ _ hcached) c.ok).symm
  · rfl
  · rfl

theorem Knows.dispatchOne (h : s.Knows written) (c : WriteDo) :
    (s.dispatchOne c).Knows fun k => written k ++ s.writes k c := by
  have houtputs := dispatchOne_outputs h c
  by_cases hwrite : s.lastDoCache c.channelId ≠ some c.value ∧
      (s.outputs.setChannel c.channelId c.value c.ok).2 = true
  · -- the command is written
    have hcache : (s.dispatchOne c).lastDoCache =
        Function.update s.lastDoCache c.channelId (some c.value) := by
      unfold Dispatcher.dispatchOne
      dsimp only
      rw [if_neg hwrite.1, if_neg (by rw [hwrite.2]; exact Bool.noConfusion)]
    have hself : s.writes c.channelId c = [c.value] := if_pos ⟨rfl, hwrite⟩
    have hother : ∀ k, k ≠ c.channelId → s.writes k c = [] := fun k hk =>
      if_neg fun hall => hk hall.1.symm
    refine ⟨fun k v hk => ?_, fun k => ?_, fun k => ?_⟩
    · rw [houtputs]
      rw [hcache] at hk
      by_cases hkc : k = c.channelId
      · subst hkc
        rw [Function.update_self] at hk
        obtain rfl := Option.some_inj.mp hk
        exact Outputs.shows_setChannel hwrite.2
      · rw [Function.update_of_ne hkc] at hk
        exact (h.shown k v hk).setChannel_of_ne (Ne.symm hkc) c.value c.ok
    · rw [hcache]
      by_cases hkc : k = c.channelId
      · subst hkc
        rw [Function.update_self, hself, List.getLast?_concat]
      · rw [Function.update_of_ne hkc, hother k hkc, List.append_nil]
        exact h.last k
    · by_cases hkc : k = c.channelId
      · subst hkc
        rw [hself]
        refine (h.alternate c.channelId).append (List.isChain_singleton _) ?_
        intro x hx y hy heq
        rw [List.head?_cons] at hy
        obtain rfl := Option.some_inj.mp hy
        rw [Option.mem_def, ← h.last, heq] at hx
        exact hwrite.1 hx
      · rw [hother k hkc, List.append_nil]
        exact h.alternate k
  · -- the value is there already, or the write fails
    have hcache : (s.dispatchOne c).lastDoCache = s.lastDoCache := by
      unfold Dispatcher.dispatchOne
      dsimp only
      split_ifs with hcached hfailed
      · rfl
      · rfl
      · exact absurd ⟨hcached, by simpa using hfailed⟩ hwrite
    have hnone : ∀ k, s.writes k c = [] := by
      intro k
      refine if_neg ?_
      rintro ⟨rfl, hall⟩
      exact hwrite hall
    have hsame : (s.dispatchOne c).outputs = s.outputs := by
      unfold Dispatcher.dispatchOne
      dsimp only
      split_ifs with hcached hfailed
      · rfl
      · show (s.outputs.setChannel c.channelId c.value c.ok).1 = s.outputs
        unfold Outputs.setChannel at hfailed ⊢
        cases hd : findDo c.channelId with
        | none => rfl
        | some d =>
          rw [hd] at hfailed
          dsimp only at hfailed ⊢
          split_ifs at hfailed ⊢
          rfl
      · exact absurd ⟨hcached, by simpa using hfailed⟩ hwrite
    refine ⟨fun k v hk => ?_, fun k => ?_, fun k => ?_⟩
    · rw [hsame]
      rw [hcache] at hk
      exact h.shown k v hk
    · rw [hcache, hnone, List.append_nil]
      exact h.last k
    · rw [hnone, List.append_nil]
      exact h.alternate k

end Dispatcher

section Run

variable (outputs : Outputs) (cs : List WriteDo)

/-- The values that were written to channel `k`. -/
def writtenTo (k : Int) : List Bool := (dispatcher outputs).trace (Dispatcher.writes k) cs

theorem dispatcher_knows :
    ((dispatcher outputs).run cs).Knows fun k => writtenTo outputs cs k := by
  refine (dispatcher outputs).run_induction
    (R := fun cs s => s.Knows fun k => writtenTo outputs cs k) ?_ ?_ cs
  · exact ⟨nofun, fun _ => rfl, fun _ => List.isChain_nil⟩
  · intro pre c ih
    have hnext := ih.dispatchOne c
    simp only [writtenTo, Machine.trace_snoc]
    exact hnext

/-- Leaving out the writes of values that are there already changes nothing at the outputs,
whichever writes fail; no channel is written the same value twice in a row; and the states that
are read back, from the pin or from the raw cache, are the values last written. -/
theorem cached_outputs (outputs : Outputs) (cs : List WriteDo) :
    let s := (dispatcher outputs).run cs
    s.outputs = (plainDispatcher outputs).run cs ∧
      ∀ k, (writtenTo outputs cs k).IsChain (· ≠ ·) ∧
        ∀ v ∈ (writtenTo outputs cs k).getLast?, ∀ readable,
          ∀ st ∈ s.outputs.getStates readable, st.channelId = k → st.logicalOn = v := by
  intro s
  have hknows := dispatcher_knows outputs cs
  refine ⟨?_, fun k => ⟨hknows.alternate k, fun v hv readable st hst hk => ?_⟩⟩
  · refine (dispatcher outputs).run_induction
      (R := fun cs s => s.outputs = (plainDispatcher outputs).run cs) rfl (fun pre c ih => ?_) cs
    rw [Machine.run_snoc]
    show (((dispatcher outputs).run pre).dispatchOne c).outputs =
      (((plainDispatcher outputs).run pre).setChannel c.channelId c.value c.ok).1
    rw [Dispatcher.dispatchOne_outputs (dispatcher_knows outputs pre), ih]
  · have hshows := hknows.shown k v ((hknows.last k).trans hv)
    exact hshows.logicalOn readable hst hk

end Run

end Driver
end EnergyStorage
