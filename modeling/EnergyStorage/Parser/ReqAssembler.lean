import Mathlib.Data.List.GetD
import EnergyStorage.Lib.Dict
import EnergyStorage.Parser.Ports

/-! # Cutting the requests of the HMI out of the bytes of a slave port -/

namespace EnergyStorage

open Lib

/-- The bytes received and not yet cut, by port. -/
structure ModbusRtuReqAssembler where
  bufs : Dict Int (List Byte)

namespace ModbusRtuReqAssembler

def empty : ModbusRtuReqAssembler := ⟨Dict.empty⟩

def onBytes (a : ModbusRtuReqAssembler) (idx : Int) (bytes : List Byte) :
    ModbusRtuReqAssembler :=
  ⟨a.bufs.insert idx ((a.bufs.get idx).getD [] ++ bytes)⟩

/-- The length of the request at the front: `-1` when too little has come to tell, `-2`
for a function code that is not one of a request. -/
def expectedLen (buf : List Byte) : Int :=
  if buf.length < 2 then -1
  else
    let func := buf.getD 1 0
    if func = 0x01 ∨ func = 0x02 ∨ func = 0x03 ∨ func = 0x04 ∨ func = 0x05 ∨ func = 0x06 then 8
    else if func = 0x0F ∨ func = 0x10 then
      if buf.length < 7 then -1
      else
        let bytecount := buf.getD 6 0
        7 + bytecount.toNat + 2
    else -2

/-- The loop of `tryGetFrame` on the buffer of one port, with the passes it may make. -/
def resync : Nat → List Byte → Option (Option (List Byte) × List Byte)
  | 0, _ => none
  | n + 1, b =>
    if b.length < 4 then some (none, b)
    else
      let exp := expectedLen b
      if exp = -1 then some (none, b)
      else if exp = -2 then resync n b.tail
      else if (b.length : Int) < exp then some (none, b)
      else
        let frame := b.take exp.toNat
        let rest := b.drop exp.toNat
        -- all but the first byte of a bad frame go back to the front
        if ModbusCRC.verify frame then some (some frame, rest) else resync n (frame.tail ++ rest)

def tryGetFrame (a : ModbusRtuReqAssembler) (idx : Int) :
    Option (Option (List Byte) × ModbusRtuReqAssembler) :=
  match a.bufs.get idx with
  | none => some (none, a)
  | some b => (resync (b.length + 1) b).map fun r => (r.1, ⟨a.bufs.insert idx r.2⟩)

/-- A chunk from a port, and the requests cut after it. -/
def receive (a : ModbusRtuReqAssembler) (idx : Int) (bytes : List Byte) :
    Option (List (List Byte) × ModbusRtuReqAssembler) :=
  ProtocolParserThread.drain (fun a => a.tryGetFrame idx)
    (((a.bufs.get idx).getD []).length + bytes.length + 1) (a.onBytes idx bytes)

def feedAll : ModbusRtuReqAssembler → List (Int × List Byte) →
    Option (List (Int × List Byte) × ModbusRtuReqAssembler) :=
  ProtocolParserThread.feedAll receive

end ModbusRtuReqAssembler

/-- The length that the function code and the byte count of a request demand. -/
def RequestLength (f : List Byte) : Prop :=
  f.getD 1 0 ∈ ([0x01, 0x02, 0x03, 0x04, 0x05, 0x06] : List Byte) ∧ f.length = 8 ∨
    f.getD 1 0 ∈ ([0x0F, 0x10] : List Byte) ∧ f.length = 7 + (f.getD 6 0).toNat + 2

namespace ModbusRtuReqAssembler

/-! ### The decisions of the loop -/

theorem expectedLen_append {b : List Byte} (h : expectedLen b ≠ -1) (c : List Byte) :
    expectedLen (b ++ c) = expectedLen b := by
  have h2 : ¬ b.length < 2 := by
    intro hlt
    rw [expectedLen, if_pos hlt] at h
    exact h rfl
  have hlen : (b ++ c).length = b.length + c.length := List.length_append
  have hfunc : (b ++ c).getD 1 0 = b.getD 1 0 := List.getD_append b c 0 1 (by omega)
  simp only [expectedLen, if_neg h2, ne_eq] at h
  simp only [expectedLen, if_neg h2, hfunc, if_neg (show ¬ (b ++ c).length < 2 by omega)]
  by_cases hfix : b.getD 1 0 = 0x01 ∨ b.getD 1 0 = 0x02 ∨ b.getD 1 0 = 0x03 ∨
      b.getD 1 0 = 0x04 ∨ b.getD 1 0 = 0x05 ∨ b.getD 1 0 = 0x06
  · rw [if_pos hfix, if_pos hfix]
  · rw [if_neg hfix] at h ⊢
    rw [if_neg hfix]
    by_cases hvar : b.getD 1 0 = 0x0F ∨ b.getD 1 0 = 0x10
    · rw [if_pos hvar] at h ⊢
      rw [if_pos hvar]
      have h7 : ¬ b.length < 7 := by
        intro hlt
        rw [if_pos hlt] at h
        exact h rfl
      have hcount : (b ++ c).getD 6 0 = b.getD 6 0 := List.getD_append b c 0 6 (by omega)
      rw [if_neg h7, if_neg (show ¬ (b ++ c).length < 7 by omega), hcount]
    · rw [if_neg hvar, if_neg hvar]

theorem expectedLen_cases (b : List Byte) :
    expectedLen b = -1 ∨ expectedLen b = -2 ∨
      ∃ n : Nat, expectedLen b = n ∧ 8 ≤ n ∧ n ≤ 264 := by
  have hcount := (b.getD 6 0).isLt
  simp only [expectedLen]
  split_ifs
  · exact Or.inl rfl
  · exact Or.inr (Or.inr ⟨8, rfl, by omega, by omega⟩)
  · exact Or.inl rfl
  · exact Or.inr (Or.inr ⟨7 + (b.getD 6 0).toNat + 2, by push_cast; rfl, by omega, by omega⟩)
  · exact Or.inr (Or.inl rfl)

/-- One pass of the loop. -/
def look (b : List Byte) : Verdict :=
  if b.length < 4 ∨ expectedLen b = -1 then .wait
  else if expectedLen b = -2 then .skip
  else if (b.length : Int) < expectedLen b then .wait
  else if ModbusCRC.verify (b.take (expectedLen b).toNat) then .take (expectedLen b).toNat
  else .skip

theorem look_append (b c : List Byte) (h : look b ≠ .wait) : look (b ++ c) = look b := by
  have hlen : (b ++ c).length = b.length + c.length := List.length_append
  by_cases hshort : b.length < 4 ∨ expectedLen b = -1
  · rw [look, if_pos hshort] at h
    exact absurd rfl h
  · have hsame : expectedLen (b ++ c) = expectedLen b :=
      expectedLen_append (fun he => hshort (Or.inr he)) c
    have hlong : ¬ ((b ++ c).length < 4 ∨ expectedLen (b ++ c) = -1) := by
      rw [hsame]
      omega
    rw [look, if_neg hshort] at h
    rw [look, look, if_neg hlong, if_neg hshort, hsame]
    by_cases hbad : expectedLen b = -2
    · rw [if_pos hbad, if_pos hbad]
    · rw [if_neg hbad] at h
      rw [if_neg hbad, if_neg hbad]
      by_cases hmore : (b.length : Int) < expectedLen b
      · rw [if_pos hmore] at h
        exact absurd rfl h
      · have hmore' : ¬ ((b ++ c).length : Int) < expectedLen b := by omega
        have htake : (b ++ c).take (expectedLen b).toNat = b.take (expectedLen b).toNat :=
          List.take_append_of_le_length (by omega)
        rw [if_neg hmore, if_neg hmore', htake]

theorem look_skip {b : List Byte} (h : look b = .skip) : 4 ≤ b.length := by
  by_contra hlt
  rw [look, if_pos (Or.inl (by omega))] at h
  cases h

theorem look_take {b : List Byte} {n : Nat} (h : look b = .take n) :
    expectedLen b = n ∧ n ≤ b.length ∧ ModbusCRC.verify (b.take n) = true := by
  rw [look] at h
  split_ifs at h with hshort hbad hmore hcrc
  cases h
  obtain he | he | ⟨m, hm, -, -⟩ := expectedLen_cases b
  · exact absurd (Or.inr he) hshort
  · exact absurd he hbad
  · rw [hm, Int.toNat_natCast] at hcrc ⊢
    exact ⟨rfl, by omega, hcrc⟩

theorem look_take_pos {b : List Byte} {n : Nat} (h : look b = .take n) : 8 ≤ n ∧ n ≤ b.length := by
  obtain ⟨hexp, hle, -⟩ := look_take h
  obtain he | he | ⟨m, hm, hge, -⟩ := expectedLen_cases b
  · omega
  · omega
  · exact ⟨by omega, hle⟩

def framer : Framer Byte where
  look := look
  stable := look_append
  skip_ne_nil b h := by
    have hlen := look_skip h
    intro hb
    rw [hb] at hlen
    exact absurd hlen (by decide)
  take_le b n h := by
    have hn := look_take_pos h
    omega

/-- What is left when the loop waits is less than a frame. -/
theorem length_of_wait {b : List Byte} (h : look b = .wait) : b.length ≤ 263 := by
  by_contra hlong
  have hexp : expectedLen b ≠ -1 := by
    rw [expectedLen, if_neg (by omega)]
    intro he
    simp only at he
    split_ifs at he <;> omega
  rw [look, if_neg (by omega)] at h
  obtain he | he | ⟨n, hn, -, hle⟩ := expectedLen_cases b
  · exact hexp he
  · rw [if_pos he] at h
    cases h
  · rw [if_neg (by omega), if_neg (by omega)] at h
    split at h <;> cases h

/-- A frame that the loop takes has the length it asks for and a right checksum. -/
theorem good_of_take {b : List Byte} {n : Nat} (h : look b = .take n) :
    RequestLength (b.take n) ∧ ModbusCRC.verify (b.take n) = true := by
  obtain ⟨hexp, hle, hcrc⟩ := look_take h
  have hpos := look_take_pos h
  refine ⟨?_, hcrc⟩
  have hlen : (b.take n).length = n := List.length_take_of_le hle
  have hget : ∀ i, i < n → (b.take n).getD i 0 = b.getD i 0 := by
    intro i hi
    rw [List.getD_eq_getElem?_getD, List.getElem?_take_of_lt hi, ← List.getD_eq_getElem?_getD]
  rw [RequestLength, hlen, hget 1 (by omega), hget 6 (by omega)]
  simp only [expectedLen] at hexp
  rw [if_neg (show ¬ b.length < 2 by omega)] at hexp
  split at hexp
  · rename_i hfix
    left
    refine ⟨?_, by omega⟩
    simpa using hfix
  · split at hexp
    · rename_i hvar
      right
      rw [if_neg (show ¬ b.length < 7 by omega)] at hexp
      refine ⟨?_, by omega⟩
      simpa using hvar
    · omega

/-! ### The loops follow the decisions -/

theorem tail_of_take {b : List Byte} {n : Nat} (hn : 0 < n) (hb : b ≠ []) :
    (b.take n).tail ++ b.drop n = b.tail := by
  have hne : b.take n ≠ [] := by
    intro h
    obtain h | h := List.take_eq_nil_iff.mp h
    · omega
    · exact hb h
  rw [← List.tail_append_of_ne_nil hne, List.take_append_drop]

theorem resync_succ (n : Nat) (b : List Byte) :
    resync (n + 1) b =
      match look b with
      | .wait => some (none, b)
      | .skip => resync n b.tail
      | .take k => some (some (b.take k), b.drop k) := by
  rw [resync, look]
  by_cases hshort : b.length < 4
  · rw [if_pos hshort, if_pos (Or.inl hshort)]
  · rw [if_neg hshort]
    obtain he | he | ⟨k, hk, hge, -⟩ := expectedLen_cases b
    · rw [if_pos (Or.inr he)]
      simp only [he, if_true]
    · rw [if_neg (show ¬ (b.length < 4 ∨ expectedLen b = -1) by omega), if_pos he]
      simp only [he, if_true]
      rfl
    · have hbad : ¬ expectedLen b = -2 := by omega
      rw [if_neg (show ¬ (b.length < 4 ∨ expectedLen b = -1) by omega),
        if_neg (show ¬ expectedLen b = -1 by omega), if_neg hbad, if_neg hbad]
      by_cases hmore : (b.length : Int) < expectedLen b
      · rw [if_pos hmore, if_pos hmore]
      · rw [if_neg hmore, if_neg hmore, hk, Int.toNat_natCast]
        by_cases hcrc : ModbusCRC.verify (b.take k) = true
        · rw [if_pos hcrc, if_pos hcrc]
        · have hb : b ≠ [] := by
            intro hnil
            rw [hnil] at hshort
            exact hshort (by decide)
          rw [if_neg hcrc, if_neg hcrc, tail_of_take (by omega) hb]

/-- The loop ends: it drops bytes until it waits or has a frame. -/
theorem resync_spec {n : Nat} {b : List Byte} (h : b.length < n) :
    ∃ ss r, resync n b = some r ∧ framer.Path b ss r.2 ∧
      (r.1 = none ∧ ss.reduceOption = [] ∧ look r.2 = .wait ∨
        ∃ f, r.1 = some f ∧ ss.reduceOption = [f] ∧ r.2.length < b.length) := by
  induction n generalizing b with
  | zero => omega
  | succ n ih =>
    rw [resync_succ]
    cases hlook : look b with
    | wait =>
      refine ⟨[], (none, b), rfl, .nil b, ?_⟩
      exact Or.inl ⟨rfl, rfl, hlook⟩
    | skip =>
      have hlen := look_skip hlook
      have htail : b.tail.length = b.length - 1 := List.length_tail
      obtain ⟨ss, r, hr, hp, hend⟩ := ih (b := b.tail) (by omega)
      refine ⟨none :: ss, r, hr, .skip hlook hp, ?_⟩
      rw [List.reduceOption_cons_of_none]
      obtain hend | ⟨f, hf, hss, hlt⟩ := hend
      · exact Or.inl hend
      · exact Or.inr ⟨f, hf, hss, by omega⟩
    | take k =>
      have hk := look_take_pos hlook
      have hdrop : (b.drop k).length = b.length - k := List.length_drop
      refine ⟨[some (b.take k)], (some (b.take k), b.drop k), rfl, .take hlook (.nil _), ?_⟩
      exact Or.inr ⟨b.take k, rfl, rfl, by simp only; omega⟩

/-- The bytes kept for a port. -/
def buf (a : ModbusRtuReqAssembler) (idx : Int) : List Byte := (a.bufs.get idx).getD []

theorem drain_spec {n : Nat} {a : ModbusRtuReqAssembler} {idx : Int} {b : List Byte}
    (hb : a.bufs.get idx = some b) (h : b.length < n) :
    ProtocolParserThread.drain (fun a => a.tryGetFrame idx) n a =
      some ((framer.cut b).1, ⟨a.bufs.insert idx (framer.cut b).2⟩) := by
  induction n generalizing a b with
  | zero => omega
  | succ n ih =>
    obtain ⟨ss, r, hr, hp, hend⟩ := resync_spec (Nat.lt_succ_self b.length)
    have hget : a.tryGetFrame idx = some (r.1, ⟨a.bufs.insert idx r.2⟩) := by
      rw [tryGetFrame, hb]
      simp only
      rw [hr]
      rfl
    rw [ProtocolParserThread.drain, hget]
    obtain ⟨hnone, hss, hwait⟩ | ⟨f, hf, hss, hlt⟩ := hend
    · have hreads : framer.Reads b ss r.2 := ⟨hp, hwait⟩
      rw [hreads.cut_eq, hss, hnone]
    · have hnext := ih (a := ⟨a.bufs.insert idx r.2⟩) (Dict.get_insert_self _ _ _) (by omega)
      -- the frame, then what the rest of the loop cuts
      obtain ⟨ts, hts, hcut⟩ := framer.cut_reads r.2
      have hreads : framer.Reads b (ss ++ ts) (framer.cut r.2).2 := ⟨hp.trans hts.1, hts.2⟩
      rw [hreads.cut_eq, List.reduceOption_append, hss, hf]
      simp only
      rw [hnext, Dict.insert_insert, Option.map_some, hcut]
      rfl

/-- A chunk adds the frames that it completes. -/
theorem receive_spec (a : ModbusRtuReqAssembler) (idx : Int) (bytes : List Byte) :
    a.receive idx bytes = some ((framer.cut (a.buf idx ++ bytes)).1,
      ⟨a.bufs.insert idx (framer.cut (a.buf idx ++ bytes)).2⟩) := by
  have hget : (a.onBytes idx bytes).bufs.get idx = some (a.buf idx ++ bytes) :=
    Dict.get_insert_self _ _ _
  have hlen : (a.buf idx ++ bytes).length = (a.buf idx).length + bytes.length :=
    List.length_append
  have hdrain := drain_spec (n := (a.buf idx).length + bytes.length + 1) hget (by omega)
  rw [receive]
  refine Eq.trans hdrain ?_
  rw [onBytes, Dict.insert_insert]

/-- Over any traffic each port gives what a reader of its own stream gives. -/
theorem feedAll_spec (a : ModbusRtuReqAssembler) (cs : List (Int × List Byte)) :
    ∃ out a', a.feedAll cs = some (out, a') ∧
      ∀ idx, (onPort idx out, a'.buf idx) = Framer.feed framer.cut (a.buf idx) (onPort idx cs) := by
  apply ProtocolParserThread.feedAll_spec
  intro a idx bytes
  refine ⟨_, a.receive_spec idx bytes, ?_⟩
  intro port
  rw [buf, Dict.get_insert]
  split <;> rfl

theorem good_of_path {b b' : List Byte} {ss : List (Option (List Byte))}
    (h : framer.Path b ss b') :
    ∀ f ∈ ss.reduceOption, RequestLength f ∧ ModbusCRC.verify f = true := by
  induction h with
  | nil b => exact fun f hf => absurd hf List.not_mem_nil
  | skip h hp ih =>
    rw [List.reduceOption_cons_of_none]
    exact ih
  | take h hp ih =>
    rw [List.reduceOption_cons_of_some]
    intro f hf
    obtain rfl | hf := List.mem_cons.mp hf
    · exact good_of_take h
    · exact ih f hf

/-- The requests of a port and what stays buffered are what the decisions of the loop cut off its
stream, so that they depend on the stream alone; each request is whole and has a right checksum,
and what stays is less than one request. -/
theorem requests_of_stream (cs ds : List (Int × List Byte)) (idx : Int)
    (h : (onPort idx cs).flatten = (onPort idx ds).flatten) :
    ∃ out a out' a', feedAll empty cs = some (out, a) ∧ feedAll empty ds = some (out', a') ∧
      (onPort idx out, a.buf idx) = framer.cut (onPort idx cs).flatten ∧
      onPort idx out = onPort idx out' ∧
      (∀ f ∈ onPort idx out, RequestLength f ∧ ModbusCRC.verify f = true) ∧
      (a.buf idx).length ≤ 263 := by
  obtain ⟨out, a, hfeed, hport⟩ := feedAll_spec empty cs
  obtain ⟨out', a', hfeed', hport'⟩ := feedAll_spec empty ds
  have hnil : framer.look (buf empty idx) = .wait := rfl
  have hcut := hport idx
  have hcut' := hport' idx
  rw [Framer.feed_cut hnil] at hcut hcut'
  obtain ⟨ss, hreads, hss⟩ := framer.cut_reads (buf empty idx ++ (onPort idx cs).flatten)
  obtain ⟨hframes, hbuf⟩ := Prod.ext_iff.mp hcut
  refine ⟨out, a, out', a', hfeed, hfeed', hcut, ?_, ?_, ?_⟩
  · rw [h, ← hcut'] at hcut
    exact (Prod.ext_iff.mp hcut).1
  · intro f hf
    have hmem : f ∈ ss.reduceOption := by
      rw [← hss, ← hframes]
      exact hf
    exact good_of_path hreads.1 f hmem
  · have hwait := hreads.2
    rw [← hbuf] at hwait
    exact length_of_wait hwait

/-- One request behind a byte of noise, cut in two and in one piece. -/
theorem requests_of_stream_halves :
    ∃ out a out' a',
      feedAll empty [(0, [0xFF, 0x01, 0x03, 0x00]), (0, [0x00, 0x00, 0x01, 0x84, 0x0A])] =
          some (out, a) ∧
        feedAll empty [(0, [0xFF, 0x01, 0x03, 0x00, 0x00, 0x00, 0x01, 0x84, 0x0A])] =
          some (out', a') ∧
        (onPort 0 out, a.buf 0) =
          framer.cut [0xFF, 0x01, 0x03, 0x00, 0x00, 0x00, 0x01, 0x84, 0x0A] ∧
        onPort 0 out = onPort 0 out' ∧
        (∀ f ∈ onPort 0 out, RequestLength f ∧ ModbusCRC.verify f = true) ∧
        (a.buf 0).length ≤ 263 :=
  requests_of_stream _ _ 0 rfl

example : (feedAll empty [(0, [0xFF, 0x01, 0x03, 0x00]),
    (0, [0x00, 0x00, 0x01, 0x84, 0x0A])]).map Prod.fst =
      some [(0, [0x01, 0x03, 0x00, 0x00, 0x00, 0x01, 0x84, 0x0A])] := by decide +kernel

end ModbusRtuReqAssembler
end EnergyStorage
