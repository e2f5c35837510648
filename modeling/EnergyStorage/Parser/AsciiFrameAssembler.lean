import EnergyStorage.Lib.Dict
import EnergyStorage.Parser.Ports

/-! # Cutting the lines of the UPS out of the bytes of an RS232 port

A line ends with CR, LF or both.  The assembler looks for a CR in all that it has and for
an LF only where there is no CR, and it takes the LF of a CRLF along only when it is
there already. -/

namespace EnergyStorage

open Lib

namespace AsciiFrameAssembler

def CR : Byte := 0x0D
def LF : Byte := 0x0A

def MAX_ASCII_FRAME_LEN : Nat := 256

/-- `tryGetFrame` on the buffer of one port. -/
def extract (buf : List Byte) : Option (List Byte) × List Byte :=
  if buf = [] then (none, buf)
  else
    match (buf.idxOf? CR).or (buf.idxOf? LF) with
    | none => (none, buf)
    | some frameLen =>
      if frameLen = 0 ∨ frameLen > MAX_ASCII_FRAME_LEN then (none, buf.tail)
      else
        let eraseLen := frameLen + 1
        let eraseLen :=
          if buf[frameLen]? = some CR ∧ buf.length > frameLen + 1 ∧ buf[frameLen + 1]? = some LF then
            eraseLen + 1
          else eraseLen
        (some (buf.take frameLen), buf.drop eraseLen)

end AsciiFrameAssembler

/-- The bytes received and not yet cut, by port. -/
structure AsciiFrameAssembler where
  buffers : Dict Int (List Byte)

namespace AsciiFrameAssembler

def empty : AsciiFrameAssembler := ⟨Dict.empty⟩

/-- The bytes kept for a port. -/
def buf (a : AsciiFrameAssembler) (idx : Int) : List Byte := (a.buffers.get idx).getD []

def put (a : AsciiFrameAssembler) (idx : Int) (b : List Byte) : AsciiFrameAssembler :=
  ⟨a.buffers.insert idx b⟩

/-- A buffer that has grown beyond two frames is given up. -/
def onBytes (a : AsciiFrameAssembler) (idx : Int) (bytes : List Byte) : AsciiFrameAssembler :=
  let b := a.buf idx ++ bytes
  if b.length > MAX_ASCII_FRAME_LEN * 2 then a.put idx [] else a.put idx b

def tryGetFrame (a : AsciiFrameAssembler) (idx : Int) :
    Option (List Byte) × AsciiFrameAssembler :=
  let r := extract (a.buf idx)
  (r.1, a.put idx r.2)

/-- A chunk from a port, and the lines cut after it. -/
def receive (a : AsciiFrameAssembler) (idx : Int) (bytes : List Byte) :
    Option (List (List Byte) × AsciiFrameAssembler) :=
  ProtocolParserThread.drain (fun a => some (a.tryGetFrame idx))
    ((a.buf idx).length + bytes.length + 1) (a.onBytes idx bytes)

def feedAll : AsciiFrameAssembler → List (Int × List Byte) →
    Option (List (Int × List Byte) × AsciiFrameAssembler) :=
  ProtocolParserThread.feedAll receive

/-! ### One call on a buffer -/

theorem idxOf?_append {pre : List Byte} {x : Byte} (h : x ∉ pre) (post : List Byte) :
    (pre ++ x :: post).idxOf? x = some pre.length := by
  induction pre with
  | nil => simp [List.idxOf?_cons]
  | cons y pre ih =>
    have hne : y ≠ x := fun heq => h (heq ▸ List.mem_cons_self)
    rw [List.cons_append, List.idxOf?_cons, if_neg (by simpa using hne),
      ih fun hmem => h (List.mem_cons_of_mem y hmem)]
    rfl

theorem extract_of_no_end {b : List Byte} (hcr : CR ∉ b) (hlf : LF ∉ b) :
    extract b = (none, b) := by
  unfold extract
  rw [List.idxOf?_eq_none_iff.mpr hcr, List.idxOf?_eq_none_iff.mpr hlf]
  split <;> rfl

/-- A CR decides, whatever stands before it. -/
theorem extract_of_cr {pre : List Byte} (post : List Byte) (h : CR ∉ pre) :
    extract (pre ++ CR :: post) =
      if pre.length = 0 ∨ pre.length > MAX_ASCII_FRAME_LEN then
        (none, (pre ++ CR :: post).tail)
      else (some pre, if post.head? = some LF then post.tail else post) := by
  unfold extract
  rw [if_neg (by simp), idxOf?_append h, Option.some_or]
  dsimp only
  split
  · rfl
  · have hcr : (pre ++ CR :: post)[pre.length]? = some CR := by
      simp
    have hnext : (pre ++ CR :: post)[pre.length + 1]? = post.head? := by
      rw [List.getElem?_append_right (Nat.le_add_right pre.length 1), Nat.add_sub_cancel_left,
        List.getElem?_cons_succ, List.head?_eq_getElem?]
    have htake : (pre ++ CR :: post).take pre.length = pre := List.take_left
    have hdrop : ∀ k, (pre ++ CR :: post).drop (pre.length + k) = (CR :: post).drop k :=
      fun k => List.drop_length_add_append k
    rw [hcr, hnext, htake]
    cases post with
    | nil => simp
    | cons y post =>
      by_cases hy : y = LF
      · have hlong : (pre ++ CR :: y :: post).length > pre.length + 1 := by simp
        have hlf : (y :: post).head? = some LF := congrArg some hy
        rw [if_pos ⟨rfl, hlong, hlf⟩, if_pos hlf, Nat.add_assoc, hdrop]
        rfl
      · have hne : ¬ (y :: post).head? = some LF := fun h => hy (Option.some.inj h)
        rw [if_neg fun h => hne h.2.2, if_neg hne, hdrop]
        rfl

theorem extract_of_lf {pre post : List Byte} (h : LF ∉ pre)
    (hcr : CR ∉ pre ++ LF :: post) :
    extract (pre ++ LF :: post) =
      if pre.length = 0 ∨ pre.length > MAX_ASCII_FRAME_LEN then
        (none, (pre ++ LF :: post).tail)
      else (some pre, post) := by
  unfold extract
  rw [if_neg (by simp), List.idxOf?_eq_none_iff.mpr hcr, Option.none_or, idxOf?_append h]
  dsimp only
  split
  · rfl
  · have hlf : (pre ++ LF :: post)[pre.length]? = some LF := by
      simp
    have htake : (pre ++ LF :: post).take pre.length = pre := List.take_left
    have hne : ¬ LF = CR := by decide
    rw [hlf, htake]
    simp [hne]

/-- What a call takes out of the buffer, the frame and the rest, it takes in order. -/
theorem extract_sublist (b : List Byte) : ((extract b).1.getD [] ++ (extract b).2).Sublist b := by
  unfold extract
  split
  · exact List.Sublist.refl b
  · split
    · exact List.Sublist.refl b
    · rename_i frameLen _
      split
      · exact List.tail_sublist b
      · have hjoin : ∀ m, frameLen ≤ m → (b.take frameLen ++ b.drop m).Sublist b := by
          intro m hm
          have hdrop := List.drop_sublist_drop_left b hm
          calc (b.take frameLen ++ b.drop m).Sublist (b.take frameLen ++ b.drop frameLen) :=
                hdrop.append_left _
            _ = b := List.take_append_drop frameLen b
        dsimp only
        split
        · exact hjoin _ (by omega)
        · exact hjoin _ (by omega)

theorem extract_shorter {b frame : List Byte} (h : (extract b).1 = some frame) :
    (extract b).2.length < b.length := by
  unfold extract at h ⊢
  split
  · rename_i hb
    rw [if_pos hb] at h
    cases h
  · rename_i hb
    have hpos := List.length_pos_iff.mpr hb
    rw [if_neg hb] at h
    split
    · rename_i hfind
      rw [hfind] at h
      cases h
    · rename_i frameLen hfind
      rw [hfind] at h
      dsimp only at h ⊢
      split
      · rename_i hbad
        rw [if_pos hbad] at h
        cases h
      · dsimp only
        rw [List.length_drop]
        split <;> omega

/-- What the loop of a drain gives for a buffer, and what it leaves. -/
def drained (b : List Byte) : List (List Byte) × List Byte :=
  match _h : (extract b).1 with
  | none => ([], (extract b).2)
  | some frame => (frame :: (drained (extract b).2).1, (drained (extract b).2).2)
termination_by b.length
decreasing_by all_goals exact extract_shorter _h

theorem drained_of_none {b rest : List Byte} (h : extract b = (none, rest)) :
    drained b = ([], rest) := by
  rw [drained]
  split
  · rw [h]
  · simp_all

theorem drained_of_some {b frame rest : List Byte} (h : extract b = (some frame, rest)) :
    drained b = (frame :: (drained rest).1, (drained rest).2) := by
  rw [drained]
  split
  · simp_all
  · rename_i frame' hframe
    rw [h] at hframe
    cases hframe
    rw [h]

theorem drained_sublist (b : List Byte) :
    ((drained b).1.flatten ++ (drained b).2).Sublist b := by
  induction hn : b.length using Nat.strongRecOn generalizing b with
  | ind n ih =>
    have hsub := extract_sublist b
    cases hex : extract b with
    | mk frame rest =>
      rw [hex] at hsub
      cases frame with
      | none =>
        rw [drained_of_none hex]
        exact hsub
      | some frame =>
        have hlt := @extract_shorter b frame (by rw [hex])
        rw [hex] at hlt
        have hrest := ih rest.length (hn ▸ hlt) rest rfl
        rw [drained_of_some hex]
        simp only [List.flatten_cons, List.append_assoc]
        exact (hrest.append_left frame).trans hsub

/-- What comes of a buffer that has just been received. -/
def accepted (b : List Byte) : List (List Byte) × List Byte :=
  if b.length > MAX_ASCII_FRAME_LEN * 2 then ([], []) else drained b

theorem accepted_sublist (b : List Byte) :
    ((accepted b).1.flatten ++ (accepted b).2).Sublist b := by
  unfold accepted
  split
  · exact List.nil_sublist b
  · exact drained_sublist b

/-! ### The parser's loop -/

theorem buf_put (a : AsciiFrameAssembler) (idx port : Int) (b : List Byte) :
    (a.put idx b).buf port = if port = idx then b else a.buf port := by
  rw [buf, put, Dict.get_insert]
  split <;> rfl

theorem drain_spec {n : Nat} {a : AsciiFrameAssembler} {idx : Int}
    (h : (a.buf idx).length < n) :
    ∃ a', ProtocolParserThread.drain (fun a => some (a.tryGetFrame idx)) n a =
        some ((drained (a.buf idx)).1, a') ∧
      ∀ port, a'.buf port = if port = idx then (drained (a.buf idx)).2 else a.buf port := by
  induction n generalizing a with
  | zero => omega
  | succ n ih =>
    rw [ProtocolParserThread.drain, tryGetFrame]
    cases hex : extract (a.buf idx) with
    | mk frame rest =>
      cases frame with
      | none =>
        rw [drained_of_none hex]
        exact ⟨_, rfl, fun port => a.buf_put idx port _⟩
      | some frame =>
        have hlt := @extract_shorter (a.buf idx) frame (by rw [hex])
        rw [hex] at hlt
        have hrest : (a.put idx rest).buf idx = rest := by
          rw [buf_put, if_pos rfl]
        have hfuel : ((a.put idx rest).buf idx).length < n := by
          rw [hrest]
          exact Nat.lt_of_lt_of_le hlt (Nat.le_of_lt_succ h)
        obtain ⟨a', hdrain, hports⟩ := ih hfuel
        rw [hrest] at hdrain hports
        rw [drained_of_some hex]
        refine ⟨a', ?_, ?_⟩
        · simp only
          rw [hdrain]
          rfl
        · intro port
          rw [hports port, buf_put]
          split <;> rfl

theorem feedAll_spec (a : AsciiFrameAssembler) (cs : List (Int × List Byte)) :
    ∃ out a', a.feedAll cs = some (out, a') ∧
      ∀ idx, (onPort idx out, a'.buf idx) = Framer.feed accepted (a.buf idx) (onPort idx cs) := by
  apply ProtocolParserThread.feedAll_spec
  intro a idx bytes
  have hbuf : (a.onBytes idx bytes).buf idx =
      if (a.buf idx ++ bytes).length > MAX_ASCII_FRAME_LEN * 2 then [] else a.buf idx ++ bytes := by
    unfold onBytes
    dsimp only
    split <;> rw [buf_put, if_pos rfl]
  have hothers : ∀ port, port ≠ idx → (a.onBytes idx bytes).buf port = a.buf port := by
    intro port hport
    unfold onBytes
    dsimp only
    split <;> rw [buf_put, if_neg hport]
  have hlt : ((a.onBytes idx bytes).buf idx).length <
      (a.buf idx).length + bytes.length + 1 := by
    rw [hbuf]
    split
    · exact Nat.succ_pos _
    · rw [List.length_append]
      omega
  obtain ⟨a', hdrain, hports⟩ := drain_spec hlt
  have hdrained : drained ((a.onBytes idx bytes).buf idx) = accepted (a.buf idx ++ bytes) := by
    rw [hbuf, accepted]
    split
    · exact drained_of_none rfl
    · rfl
  rw [hdrained] at hdrain hports
  refine ⟨a', hdrain, fun port => ?_⟩
  rw [hports port]
  split
  · rfl
  · rename_i hport
    exact hothers port hport

end AsciiFrameAssembler
end EnergyStorage
