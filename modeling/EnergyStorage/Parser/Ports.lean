import EnergyStorage.Lib.Framing
import EnergyStorage.Modbus.Crc

/-! # The parser's loops over the serial ports -/

namespace EnergyStorage

open Lib

/-- What came, or was cut, on one port. -/
def onPort (idx : Int) (cs : List (Int × List Byte)) : List (List Byte) :=
  cs.filterMap fun c => if c.1 = idx then some c.2 else none

namespace ProtocolParserThread

variable {σ : Type*}

/-- The loop over `tryGetFrame` after a chunk, with the passes it may make. -/
def drain (tryGetFrame : σ → Option (Option (List Byte) × σ)) :
    Nat → σ → Option (List (List Byte) × σ)
  | 0, _ => none
  | n + 1, a =>
    match tryGetFrame a with
    | none => none
    | some (none, a') => some ([], a')
    | some (some frame, a') => (drain tryGetFrame n a').map fun r => (frame :: r.1, r.2)

/-- The chunks of all ports, in the order they come; each frame with its port. -/
def feedAll (receive : σ → Int → List Byte → Option (List (List Byte) × σ)) :
    σ → List (Int × List Byte) → Option (List (Int × List Byte) × σ)
  | a, [] => some ([], a)
  | a, (idx, bytes) :: cs =>
    match receive a idx bytes with
    | none => none
    | some (frames, a') =>
      (feedAll receive a' cs).map fun r => (frames.map (fun f => (idx, f)) ++ r.1, r.2)

end ProtocolParserThread

theorem onPort_append (idx : Int) (cs ds : List (Int × List Byte)) :
    onPort idx (cs ++ ds) = onPort idx cs ++ onPort idx ds :=
  List.filterMap_append

theorem onPort_cons_self (idx : Int) (bytes : List Byte) (cs : List (Int × List Byte)) :
    onPort idx ((idx, bytes) :: cs) = bytes :: onPort idx cs := by
  rw [onPort, List.filterMap_cons]
  simp only [if_true]
  rfl

theorem onPort_cons_of_ne {idx port : Int} (h : port ≠ idx) (bytes : List Byte)
    (cs : List (Int × List Byte)) : onPort idx ((port, bytes) :: cs) = onPort idx cs := by
  rw [onPort, List.filterMap_cons]
  simp only [if_neg h]
  rfl

theorem onPort_map_self (idx : Int) (fs : List (List Byte)) :
    onPort idx (fs.map fun f => (idx, f)) = fs := by
  induction fs with
  | nil => rfl
  | cons f fs ih => rw [List.map_cons, onPort_cons_self, ih]

theorem onPort_map_of_ne {idx port : Int} (h : port ≠ idx) (fs : List (List Byte)) :
    onPort idx (fs.map fun f => (port, f)) = [] := by
  induction fs with
  | nil => rfl
  | cons f fs ih => rw [List.map_cons, onPort_cons_of_ne h, ih]

namespace ProtocolParserThread

variable {σ : Type*} {receive : σ → Int → List Byte → Option (List (List Byte) × σ)}
  {buf : σ → Int → List Byte} {read : List Byte → List (List Byte) × List Byte}

/-- If a chunk is read with what its port has buffered, and the other ports are left
alone, then over any traffic each port gives what a reader of its own stream gives. -/
theorem feedAll_spec
    (h : ∀ a idx bytes, ∃ a', receive a idx bytes = some ((read (buf a idx ++ bytes)).1, a') ∧
      ∀ port, buf a' port = if port = idx then (read (buf a idx ++ bytes)).2 else buf a port)
    (a : σ) (cs : List (Int × List Byte)) :
    ∃ out a', feedAll receive a cs = some (out, a') ∧
      ∀ idx, (onPort idx out, buf a' idx) = Framer.feed read (buf a idx) (onPort idx cs) := by
  induction cs generalizing a with
  | nil => exact ⟨[], a, rfl, fun idx => rfl⟩
  | cons c cs ih =>
    obtain ⟨port, bytes⟩ := c
    obtain ⟨a', hreceive, hbuf⟩ := h a port bytes
    obtain ⟨out, a'', hfeed, hports⟩ := ih a'
    refine ⟨(read (buf a port ++ bytes)).1.map (fun f => (port, f)) ++ out, a'', ?_, ?_⟩
    · rw [feedAll, hreceive]
      simp only
      rw [hfeed]
      rfl
    · intro idx
      have hport := hports idx
      rw [hbuf] at hport
      rw [onPort_append]
      by_cases hidx : idx = port
      · subst hidx
        rw [if_pos rfl] at hport
        rw [onPort_cons_self, onPort_map_self, Framer.feed, ← hport]
      · rw [if_neg hidx] at hport
        rw [onPort_cons_of_ne (Ne.symm hidx), onPort_map_of_ne (Ne.symm hidx), List.nil_append,
          hport]

end ProtocolParserThread
end EnergyStorage
