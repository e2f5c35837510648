import Mathlib.Data.List.GetD
import EnergyStorage.Lib.Dict
import EnergyStorage.Parser.Ports

/-! # Cutting the answers of the devices out of the bytes of a master port -/

namespace EnergyStorage

open Lib

/-- The bytes received and not yet cut, by port. -/
structure FrameAssembler where
  buffers : Dict Int (List Byte)

namespace FrameAssembler

def empty : FrameAssembler := ⟨Dict.empty⟩

/-- The bytes kept for a port. -/
def buf (a : FrameAssembler) (idx : Int) : List Byte := (a.buffers.get idx).getD []

def put (a : FrameAssembler) (idx : Int) (b : List Byte) : FrameAssembler :=
  ⟨a.buffers.insert idx b⟩

def onBytes (a : FrameAssembler) (idx : Int) (bytes : List Byte) : FrameAssembler :=
  a.put idx (a.buf idx ++ bytes)

def isExceptionFunc (func : Byte) : Bool := func &&& 0x80 ≠ 0

/-- A frame of `n` bytes is cut off once it is there. -/
def cutOff (a : FrameAssembler) (idx : Int) (n : Nat) : Option (List Byte) × FrameAssembler :=
  if (a.buf idx).length < n then (none, a)
  else (some ((a.buf idx).take n), a.put idx ((a.buf idx).drop n))

/-- Cuts by length only; a byte that starts no frame is dropped, and the call then reports
no frame. -/
def tryGetFrame (a : FrameAssembler) (idx : Int) : Option (List Byte) × FrameAssembler :=
  let b := a.buf idx
  if b.length < 5 then (none, a)
  else
    let func := b.getD 1 0
    if isExceptionFunc func then a.cutOff idx 5
    else if func = 0x03 then
      let byteCnt := b.getD 2 0
      if byteCnt = 0 ∨ 0x7D < byteCnt then (none, a.put idx b.tail)
      else a.cutOff idx (3 + byteCnt.toNat + 2)
    else if func = 0x06 then a.cutOff idx 8
    else if func = 0x10 then a.cutOff idx 8
    else (none, a.put idx b.tail)

/-- A chunk from a port, and the frames cut after it. -/
def receive (a : FrameAssembler) (idx : Int) (bytes : List Byte) :
    Option (List (List Byte) × FrameAssembler) :=
  ProtocolParserThread.drain (fun a => some (a.tryGetFrame idx))
    ((a.buf idx).length + bytes.length + 1) (a.onBytes idx bytes)

def feedAll : FrameAssembler → List (Int × List Byte) →
    Option (List (Int × List Byte) × FrameAssembler) :=
  ProtocolParserThread.feedAll receive

/-! ### The decisions of a call -/

/-- The length of the frame at the front, by its function code; none where the front byte
starts no frame. -/
def frameLen (b : List Byte) : Option Nat :=
  let func := b.getD 1 0
  if isExceptionFunc func then some 5
  else if func = 0x03 then
    let byteCnt := b.getD 2 0
    if byteCnt = 0 ∨ 0x7D < byteCnt then none else some (3 + byteCnt.toNat + 2)
  else if func = 0x06 ∨ func = 0x10 then some 8
  else none

def look (b : List Byte) : Verdict :=
  if b.length < 5 then .wait
  else
    match frameLen b with
    | none => .skip
    | some n => if b.length < n then .wait else .take n

theorem frameLen_append {b : List Byte} (h : 5 ≤ b.length) (c : List Byte) :
    frameLen (b ++ c) = frameLen b := by
  have hfunc : (b ++ c).getD 1 0 = b.getD 1 0 := List.getD_append b c 0 1 (by omega)
  have hcount : (b ++ c).getD 2 0 = b.getD 2 0 := List.getD_append b c 0 2 (by omega)
  rw [frameLen, frameLen, hfunc, hcount]

theorem frameLen_pos {b : List Byte} {n : Nat} (h : frameLen b = some n) : 5 ≤ n := by
  simp only [frameLen] at h
  split_ifs at h <;> cases h <;> omega

theorem look_of_short {b : List Byte} (h : b.length < 5) : look b = .wait := by
  rw [look, if_pos h]

theorem look_of_none {b : List Byte} (h : ¬ b.length < 5) (hn : frameLen b = none) :
    look b = .skip := by
  rw [look, if_neg h, hn]

theorem look_of_some {b : List Byte} {n : Nat} (h : ¬ b.length < 5) (hn : frameLen b = some n) :
    look b = if b.length < n then .wait else .take n := by
  rw [look, if_neg h, hn]

theorem look_append (b c : List Byte) (h : look b ≠ .wait) : look (b ++ c) = look b := by
  have hlen : (b ++ c).length = b.length + c.length := List.length_append
  by_cases hshort : b.length < 5
  · exact absurd (look_of_short hshort) h
  · have hlong : ¬ (b ++ c).length < 5 := by omega
    have hsame := frameLen_append (show 5 ≤ b.length by omega) c
    cases hn : frameLen b with
    | none => rw [look_of_none hshort hn, look_of_none hlong (hsame.trans hn)]
    | some n =>
      rw [look_of_some hshort hn] at h ⊢
      rw [look_of_some hlong (hsame.trans hn)]
      by_cases hmore : b.length < n
      · rw [if_pos hmore] at h
        exact absurd rfl h
      · rw [if_neg hmore, if_neg (show ¬ (b ++ c).length < n by omega)]

theorem look_skip {b : List Byte} (h : look b = .skip) :
    5 ≤ b.length ∧ frameLen b = none := by
  rw [look] at h
  split at h
  · cases h
  · rename_i hlong
    cases hn : frameLen b with
    | none => exact ⟨by omega, rfl⟩
    | some n =>
      rw [hn] at h
      simp only at h
      split at h <;> cases h

theorem look_take {b : List Byte} {n : Nat} (h : look b = .take n) :
    5 ≤ b.length ∧ frameLen b = some n ∧ n ≤ b.length := by
  rw [look] at h
  split at h
  · cases h
  · rename_i hlong
    cases hn : frameLen b with
    | none => rw [hn] at h; cases h
    | some m =>
      rw [hn] at h
      simp only at h
      split at h
      · cases h
      · cases h
        exact ⟨by omega, rfl, by omega⟩

def framer : Framer Byte where
  look := look
  stable := look_append
  skip_ne_nil b h := by
    have hlen := (look_skip h).1
    intro hb
    rw [hb] at hlen
    exact absurd hlen (by decide)
  take_le b n h := by
    obtain ⟨-, hn, hle⟩ := look_take h
    have hpos := frameLen_pos hn
    omega

/-- A byte at a time the assembler never has two bytes to drop, nor a byte behind a
frame. -/
theorem gradual : Framer.Gradual framer where
  skip b x hwait hskip := by
    obtain ⟨hlen, hnone⟩ := look_skip hskip
    apply look_of_short
    rw [List.length_append] at hlen
    rw [List.length_tail, List.length_append]
    by_contra hlong
    have hb : ¬ b.length < 5 := by
      simp only [List.length_singleton] at hlong
      omega
    rw [frameLen_append (by omega)] at hnone
    have hdrop : look b = .skip := look_of_none hb hnone
    have hstay : look b = .wait := hwait
    rw [hdrop] at hstay
    cases hstay
  take b x n hwait htake := by
    obtain ⟨hlen, hn, hle⟩ := look_take htake
    have hpos := frameLen_pos hn
    apply look_of_short
    rw [List.length_append, List.length_singleton] at hlen hle
    rw [List.length_drop, List.length_append, List.length_singleton]
    by_contra hlong
    have hb : ¬ b.length < 5 := by omega
    rw [frameLen_append (by omega)] at hn
    have hcut : look b = .take n := by
      rw [look_of_some hb hn, if_neg (by omega)]
    have hstay : look b = .wait := hwait
    rw [hcut] at hstay
    cases hstay

/-! ### The parser's loop stops at a dropped byte -/

theorem buf_put (a : FrameAssembler) (idx port : Int) (b : List Byte) :
    (a.put idx b).buf port = if port = idx then b else a.buf port := by
  rw [buf, put, Dict.get_insert]
  split <;> rfl

theorem tryGetFrame_of_long {a : FrameAssembler} {idx : Int} (h : ¬ (a.buf idx).length < 5) :
    a.tryGetFrame idx =
      match frameLen (a.buf idx) with
      | none => (none, a.put idx (a.buf idx).tail)
      | some n => a.cutOff idx n := by
  simp only [tryGetFrame, frameLen, if_neg h]
  by_cases hexc : isExceptionFunc ((a.buf idx).getD 1 0) = true
  · rw [if_pos hexc, if_pos hexc]
  · rw [if_neg hexc, if_neg hexc]
    by_cases h3 : (a.buf idx).getD 1 0 = 0x03
    · rw [if_pos h3, if_pos h3]
      split_ifs <;> rfl
    · rw [if_neg h3, if_neg h3]
      by_cases h6 : (a.buf idx).getD 1 0 = 0x06
      · rw [if_pos h6, if_pos (Or.inl h6)]
      · by_cases h10 : (a.buf idx).getD 1 0 = 0x10
        · rw [if_neg h6, if_pos h10, if_pos (Or.inr h10)]
        · rw [if_neg h6, if_neg h10, if_neg (not_or.mpr ⟨h6, h10⟩)]

theorem tryGetFrame_eq (a : FrameAssembler) (idx : Int) :
    a.tryGetFrame idx =
      match look (a.buf idx) with
      | .wait => (none, a)
      | .skip => (none, a.put idx (a.buf idx).tail)
      | .take k => (some ((a.buf idx).take k), a.put idx ((a.buf idx).drop k)) := by
  by_cases hshort : (a.buf idx).length < 5
  · rw [look_of_short hshort]
    simp only [tryGetFrame, if_pos hshort]
  · rw [tryGetFrame_of_long hshort]
    cases hn : frameLen (a.buf idx) with
    | none => rw [look_of_none hshort hn]
    | some n =>
      rw [look_of_some hshort hn]
      show a.cutOff idx n = _
      rw [cutOff]
      by_cases hmore : (a.buf idx).length < n
      · rw [if_pos hmore, if_pos hmore]
      · rw [if_neg hmore, if_neg hmore]

theorem drain_spec {n : Nat} {a : FrameAssembler} {idx : Int} (h : (a.buf idx).length < n) :
    ∃ a', ProtocolParserThread.drain (fun a => some (a.tryGetFrame idx)) n a =
        some ((framer.stopping (a.buf idx)).1, a') ∧
      ∀ port, a'.buf port =
        if port = idx then (framer.stopping (a.buf idx)).2 else a.buf port := by
  induction n generalizing a with
  | zero => omega
  | succ n ih =>
    rw [ProtocolParserThread.drain, tryGetFrame_eq]
    cases hlook : look (a.buf idx) with
    | wait =>
      rw [Framer.stopping_of_wait (F := framer) hlook]
      refine ⟨a, rfl, ?_⟩
      intro port
      split
      · rename_i hport
        rw [hport]
      · rfl
    | skip =>
      rw [Framer.stopping_of_skip (F := framer) hlook]
      exact ⟨_, rfl, fun port => a.buf_put idx port _⟩
    | take k =>
      have hk := framer.take_le _ _ hlook
      have hrest : (a.put idx ((a.buf idx).drop k)).buf idx = (a.buf idx).drop k := by
        rw [buf_put, if_pos rfl]
      have hlt : ((a.put idx ((a.buf idx).drop k)).buf idx).length < n := by
        rw [hrest, List.length_drop]
        omega
      obtain ⟨a', hdrain, hports⟩ := ih hlt
      rw [hrest] at hdrain hports
      rw [Framer.stopping_of_take (F := framer) hlook]
      refine ⟨a', ?_, ?_⟩
      · simp only
        rw [hdrain]
        rfl
      · intro port
        rw [hports port, buf_put]
        split <;> rfl

theorem feedAll_spec (a : FrameAssembler) (cs : List (Int × List Byte)) :
    ∃ out a', a.feedAll cs = some (out, a') ∧
      ∀ idx, (onPort idx out, a'.buf idx) =
        Framer.feed framer.stopping (a.buf idx) (onPort idx cs) := by
  apply ProtocolParserThread.feedAll_spec
  intro a idx bytes
  have hbuf : (a.onBytes idx bytes).buf idx = a.buf idx ++ bytes := by
    rw [onBytes, buf_put, if_pos rfl]
  have hlt : ((a.onBytes idx bytes).buf idx).length <
      (a.buf idx).length + bytes.length + 1 := by
    rw [hbuf, List.length_append]
    omega
  obtain ⟨a', hdrain, hports⟩ := drain_spec hlt
  rw [hbuf] at hdrain hports
  refine ⟨a', hdrain, ?_⟩
  intro port
  rw [hports port, onBytes, buf_put]
  split <;> rfl

theorem feedAll_eq {a a' : FrameAssembler} {cs out : List (Int × List Byte)}
    (h : a.feedAll cs = some (out, a')) (idx : Int) :
    onPort idx out = (Framer.feed framer.stopping (a.buf idx) (onPort idx cs)).1 ∧
      a'.buf idx = (Framer.feed framer.stopping (a.buf idx) (onPort idx cs)).2 := by
  obtain ⟨out', a'', hfeed, hport⟩ := a.feedAll_spec cs
  rw [h] at hfeed
  cases hfeed
  exact Prod.ext_iff.mp (hport idx)

theorem feedAll_isSome (a : FrameAssembler) (cs : List (Int × List Byte)) :
    ∃ out a', a.feedAll cs = some (out, a') := by
  obtain ⟨out, a', hfeed, -⟩ := a.feedAll_spec cs
  exact ⟨out, a', hfeed⟩

/-! ### The answers of the devices -/

/-- The frames that a device may answer with. -/
inductive IsResponse : List Byte → Prop
  | read (addr byteCnt : Byte) (data : List Byte) (crcLo crcHi : Byte) (hpos : byteCnt ≠ 0)
      (hmax : byteCnt ≤ 0x7D) (hdata : data.length = byteCnt.toNat) :
      IsResponse (addr :: 0x03 :: byteCnt :: (data ++ [crcLo, crcHi]))
  | writeOne (addr regHi regLo valHi valLo crcLo crcHi : Byte) :
      IsResponse [addr, 0x06, regHi, regLo, valHi, valLo, crcLo, crcHi]
  | writeMany (addr startHi startLo qtyHi qtyLo crcLo crcHi : Byte) :
      IsResponse [addr, 0x10, startHi, startLo, qtyHi, qtyLo, crcLo, crcHi]
  | exception (addr func err crcLo crcHi : Byte) (hfunc : func &&& 0x80 ≠ 0) :
      IsResponse [addr, func, err, crcLo, crcHi]

theorem look_of_len {f : List Byte} (h5 : 5 ≤ f.length) (h : frameLen f = some f.length) :
    look f = .take f.length := by
  rw [look_of_some (by omega) h, if_neg (Nat.lt_irrefl _)]

theorem frameLen_read (addr byteCnt : Byte) (rest : List Byte) :
    frameLen (addr :: 0x03 :: byteCnt :: rest) =
      if byteCnt = 0 ∨ 0x7D < byteCnt then none else some (3 + byteCnt.toNat + 2) := by
  have hfunc : ¬ isExceptionFunc ((addr :: 0x03 :: byteCnt :: rest).getD 1 0) = true :=
    show ¬ isExceptionFunc 0x03 = true by decide
  rw [frameLen, if_neg hfunc]
  rfl

theorem frameLen_write {func : Byte} (h : func = 0x06 ∨ func = 0x10) (addr : Byte)
    (rest : List Byte) : frameLen (addr :: func :: rest) = some 8 := by
  rcases h with rfl | rfl
  · have hfunc : ¬ isExceptionFunc ((addr :: 0x06 :: rest).getD 1 0) = true :=
      show ¬ isExceptionFunc 0x06 = true by decide
    rw [frameLen, if_neg hfunc]
    rfl
  · have hfunc : ¬ isExceptionFunc ((addr :: 0x10 :: rest).getD 1 0) = true :=
      show ¬ isExceptionFunc 0x10 = true by decide
    rw [frameLen, if_neg hfunc]
    rfl

theorem frameLen_exception {func : Byte} (h : func &&& 0x80 ≠ 0) (addr : Byte)
    (rest : List Byte) : frameLen (addr :: func :: rest) = some 5 := by
  have hfunc : isExceptionFunc ((addr :: func :: rest).getD 1 0) = true := decide_eq_true h
  rw [frameLen, if_pos hfunc]

/-- An answer is cut off whole. -/
theorem IsResponse.look {f : List Byte} (h : IsResponse f) : framer.look f = .take f.length := by
  show FrameAssembler.look f = .take f.length
  cases h with
  | read addr byteCnt data crcLo crcHi hpos hmax hdata =>
    have hlen : (addr :: 0x03 :: byteCnt :: (data ++ [crcLo, crcHi])).length =
        3 + byteCnt.toNat + 2 := by
      simp only [List.length_cons, List.length_append, List.length_nil, hdata]
      omega
    have hcount : ¬ (byteCnt = 0 ∨ 0x7D < byteCnt) := by
      rintro (h0 | hlarge)
      · exact hpos h0
      · exact absurd hmax (BitVec.not_le.mpr hlarge)
    refine look_of_len (by omega) ?_
    rw [frameLen_read, if_neg hcount, hlen]
  | writeOne addr regHi regLo valHi valLo crcLo crcHi =>
    exact look_of_len (by decide : 5 ≤ 8) (frameLen_write (Or.inl rfl) addr _)
  | writeMany addr startHi startLo qtyHi qtyLo crcLo crcHi =>
    exact look_of_len (by decide : 5 ≤ 8) (frameLen_write (Or.inr rfl) addr _)
  | exception addr func err crcLo crcHi hfunc =>
    exact look_of_len (Nat.le_refl 5) (frameLen_exception hfunc addr _)

/-- However the stream of a port is cut into chunks, and whatever comes on the other ports, its
answers are cut one by one and nothing is left. -/
theorem responses_cut {cs : List (Int × List Byte)} {idx : Int} {frames : List (List Byte)}
    (hframes : ∀ f ∈ frames, IsResponse f) (hcs : (onPort idx cs).flatten = frames.flatten) :
    ∃ out a, feedAll empty cs = some (out, a) ∧ onPort idx out = frames ∧ a.buf idx = [] := by
  obtain ⟨out, a, hfeed⟩ := feedAll_isSome empty cs
  obtain ⟨hout, hbuf⟩ := feedAll_eq hfeed idx
  have hall : Framer.feed framer.stopping [] (onPort idx cs) = (frames, []) :=
    (Framer.halts_stopping framer).feed_of_frames rfl (fun f hf => (hframes f hf).look) hcs
  refine ⟨out, a, hfeed, ?_, ?_⟩
  · exact hout.trans (congrArg Prod.fst hall)
  · exact hbuf.trans (congrArg Prod.snd hall)

/-- A read and an exception on one port, cut in the header and in the data, with the chunks of
another port in between. -/
theorem responses_cut_interleaved :
    ∃ out a,
      feedAll empty [(0, [0x01]), (1, [0x02, 0x86]), (0, [0x03, 0x02, 0x00]), (1, [0x02, 0x00]),
        (0, [0x05, 0x78, 0x47, 0x01, 0x83]), (0, [0x02, 0xC0, 0xF1])] = some (out, a) ∧
      onPort 0 out = [[0x01, 0x03, 0x02, 0x00, 0x05, 0x78, 0x47], [0x01, 0x83, 0x02, 0xC0, 0xF1]] ∧
      a.buf 0 = [] := by
  refine responses_cut ?_ rfl
  intro f hf
  rcases List.mem_cons.mp hf with rfl | hf
  · exact .read 0x01 0x02 [0x00, 0x05] 0x78 0x47 (by decide) (by decide) rfl
  · rw [List.mem_singleton.mp hf]
    exact .exception 0x01 0x83 0x02 0xC0 0xF1 (by decide)

/-! ### Streams with noise -/

/-- The frames of a port depend on its stream alone, and each is delivered with the chunk
that completes it, exactly when no frame of the stream comes after a dropped byte. -/
theorem frames_of_stream_iff (idx : Int) (s : List Byte) :
    ((∀ cs ds : List (Int × List Byte), (onPort idx cs).flatten = s →
          (onPort idx ds).flatten = s →
          ∃ out a out' a', feedAll empty cs = some (out, a) ∧
            feedAll empty ds = some (out', a') ∧ onPort idx out = onPort idx out') ∧
        ∀ (cs : List (Int × List Byte)) (rest : List Byte),
          (onPort idx cs).flatten ++ rest = s →
          ∃ out a, feedAll empty cs = some (out, a) ∧
            onPort idx out = (framer.cut (onPort idx cs).flatten).1 ∧
            ¬ framer.Waiting (a.buf idx)) ↔
      Framer.FramesFirst framer s := by
  have hhalts : Framer.Halts framer framer.stopping := Framer.halts_stopping framer
  have hnil : framer.look [] = .wait := rfl
  have hiff := hhalts.agree_iff gradual hnil s
  -- the chunks of one port, on their own
  have hsingle : ∀ c : List (List Byte), onPort idx (c.map fun bytes => (idx, bytes)) = c :=
    onPort_map_self idx
  constructor
  · intro h
    apply hiff.mp
    constructor
    · intro cs ds hcs hds
      obtain ⟨out, a, out', a', hfeed, hfeed', hsame⟩ :=
        h.1 (cs.map fun bytes => (idx, bytes)) (ds.map fun bytes => (idx, bytes))
          (by rw [hsingle, hcs]) (by rw [hsingle, hds])
      have hc := (feedAll_eq hfeed idx).1
      have hd := (feedAll_eq hfeed' idx).1
      rw [hsingle] at hc hd
      exact hc.symm.trans (hsame.trans hd)
    · intro cs ds hs
      obtain ⟨out, a, hfeed, -, hleft⟩ := h.2 (cs.map fun bytes => (idx, bytes)) ds.flatten
        (by rw [hsingle, ← List.flatten_append, hs])
      have hbuf := (feedAll_eq hfeed idx).2
      rw [hsingle] at hbuf
      rw [hbuf] at hleft
      exact hleft
  · intro h
    obtain ⟨hagree, hleft⟩ := hiff.mpr h
    constructor
    · intro cs ds hcs hds
      obtain ⟨out, a, hfeed⟩ := feedAll_isSome empty cs
      obtain ⟨out', a', hfeed'⟩ := feedAll_isSome empty ds
      refine ⟨out, a, out', a', hfeed, hfeed', ?_⟩
      have hc := (feedAll_eq hfeed idx).1
      have hd := (feedAll_eq hfeed' idx).1
      exact hc.trans ((hagree _ _ hcs hds).trans hd.symm)
    · intro cs rest hs
      obtain ⟨out, a, hfeed⟩ := feedAll_isSome empty cs
      obtain ⟨hout, hbuf⟩ := feedAll_eq hfeed idx
      have hnone := hleft (onPort idx cs) [rest]
        (by rw [List.flatten_append, List.flatten_singleton, hs])
      refine ⟨out, a, hfeed, ?_, ?_⟩
      · exact hout.trans (hhalts.feed_eq_cut hnil hnone)
      · rw [hbuf]
        exact hnone

/-- A byte of noise and the frame behind it: in one chunk the frame stays in the buffer,
in two it is delivered. -/
theorem frame_left_behind_noise :
    (feedAll empty [(0, 0x00 :: [0x01, 0x03, 0x02, 0x00, 0x05, 0x78, 0x47])]).map
          (fun r => (r.1, r.2.buf 0)) =
        some ([], [0x01, 0x03, 0x02, 0x00, 0x05, 0x78, 0x47]) ∧
      (feedAll empty [(0, [0x00, 0x01, 0x03, 0x02, 0x00]), (0, [0x05, 0x78, 0x47])]).map
          (fun r => (r.1, r.2.buf 0)) =
        some ([(0, [0x01, 0x03, 0x02, 0x00, 0x05, 0x78, 0x47])], []) ∧
      ModbusCRC.verify [0x01, 0x03, 0x02, 0x00, 0x05, 0x78, 0x47] = true := by
  decide +kernel

end FrameAssembler
end EnergyStorage
