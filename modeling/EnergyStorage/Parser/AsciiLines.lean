import EnergyStorage.Parser.AsciiFrameAssembler

/-! # Which lines of the UPS arrive

The lines come back as they were sent unless a drain meets the LF of a line with a CR
somewhere behind it, or the LF of a CRLF whose CR was taken with the chunk before. -/

namespace EnergyStorage
namespace AsciiFrameAssembler

open Lib

inductive LineEnd
  | cr
  | lf
  | crlf
  deriving DecidableEq

def LineEnd.bytes : LineEnd → List Byte
  | cr => [CR]
  | lf => [LF]
  | crlf => [CR, LF]

structure Line where
  text : List Byte
  ending : LineEnd
  text_ne_nil : text ≠ []
  text_le : text.length ≤ MAX_ASCII_FRAME_LEN
  cr_not_mem : CR ∉ text
  lf_not_mem : LF ∉ text

def stream (lines : List Line) : List Byte :=
  lines.flatMap fun l => l.text ++ l.ending.bytes

/-- Every LF with a CR somewhere behind it comes right after a CR. -/
def LfAfterCr : Bool → List Byte → Prop
  | _, [] => True
  | afterCr, x :: b => (x = LF → afterCr = true ∨ CR ∉ b) ∧ LfAfterCr (decide (x = CR)) b

/-- A buffer that a drain cuts at the ends of its lines: an LF at its front has no CR among
the 256 bytes behind it, and else each LF with a CR behind it belongs to a CRLF. -/
def Readable (b : List Byte) : Prop :=
  (b.head? = some LF → CR ∉ b.tail.take MAX_ASCII_FRAME_LEN) ∧
    (b.head? ≠ some LF → LfAfterCr false b)

/-- Each drain meets a readable buffer, and the last one no LF at its front with more
behind it. -/
def KeepsUp : List Byte → List (List Byte) → Prop
  | _, [] => True
  | b, c :: cs => Readable (b ++ c) ∧ (cs = [] → ∀ rest, b ++ c = LF :: rest → rest = []) ∧
    KeepsUp (accepted (b ++ c)).2 cs

/-- No chunk takes the buffer beyond its cap. -/
def WithinCap : List Byte → List (List Byte) → Prop
  | _, [] => True
  | b, c :: cs => (b ++ c).length ≤ MAX_ASCII_FRAME_LEN * 2 ∧ WithinCap (accepted (b ++ c)).2 cs

/-- How many bytes are not part of a line's end. -/
def textBytes (b : List Byte) : Nat := b.countP fun x => decide (x ≠ CR ∧ x ≠ LF)

/-! ### Lines in a stream -/

section Stream

theorem stream_cons (l : Line) (lines : List Line) :
    stream (l :: lines) = l.text ++ (l.ending.bytes ++ stream lines) := by
  rw [stream, List.flatMap_cons, List.append_assoc]
  rfl

theorem LineEnd.bytes_ne_nil (e : LineEnd) : e.bytes ≠ [] := by
  cases e <;> exact List.cons_ne_nil _ _

theorem stream_eq_nil {lines : List Line} : stream lines = [] ↔ lines = [] := by
  cases lines with
  | nil => exact ⟨fun _ => rfl, fun _ => rfl⟩
  | cons l lines =>
    rw [stream_cons]
    refine ⟨fun h => ?_, fun h => absurd h (List.cons_ne_nil _ _)⟩
    exact absurd (List.append_eq_nil_iff.mp h).1 l.text_ne_nil

/-- A line does not begin with an LF. -/
theorem head_stream {lines : List Line} {b rest : List Byte} (h : b ++ rest = stream lines) :
    b.head? ≠ some LF := by
  cases lines with
  | nil =>
    rw [(List.append_eq_nil_iff.mp h).1]
    exact Option.some_ne_none LF |>.symm
  | cons l lines =>
    rw [stream_cons] at h
    cases b with
    | nil => exact Option.some_ne_none LF |>.symm
    | cons x b =>
      obtain ⟨y, text, htext⟩ := List.exists_cons_of_ne_nil l.text_ne_nil
      rw [htext] at h
      have hx : x = y := (List.cons.inj h).1
      intro hlf
      refine l.lf_not_mem ?_
      rw [htext, ← hx, Option.some.inj hlf]
      exact List.mem_cons_self

theorem textBytes_append (b c : List Byte) : textBytes (b ++ c) = textBytes b + textBytes c :=
  List.countP_append

theorem Line.textBytes_text (l : Line) : textBytes l.text = l.text.length := by
  refine List.countP_eq_length.mpr fun x hx => decide_eq_true ⟨?_, ?_⟩
  · exact fun h => l.cr_not_mem (h ▸ hx)
  · exact fun h => l.lf_not_mem (h ▸ hx)

theorem textBytes_stream (lines : List Line) :
    textBytes (stream lines) = textBytes (lines.map Line.text).flatten := by
  induction lines with
  | nil => rfl
  | cons l lines ih =>
    have hend : textBytes l.ending.bytes = 0 := by
      cases l.ending <;> decide
    rw [stream_cons, List.map_cons, List.flatten_cons, textBytes_append, textBytes_append,
      textBytes_append, hend, ih, Nat.zero_add]

end Stream

section LfAfterCr

variable {afterCr : Bool} {b text : List Byte}

theorem lfAfterCr_of_no_cr (h : CR ∉ b) : LfAfterCr afterCr b := by
  induction b generalizing afterCr with
  | nil => trivial
  | cons x b ih =>
    have htail : CR ∉ b := fun hmem => h (List.mem_cons_of_mem x hmem)
    exact ⟨fun _ => Or.inr htail, ih htail⟩

/-- A text changes nothing for what comes behind it. -/
theorem lfAfterCr_text (hcr : CR ∉ text) (hlf : LF ∉ text) (b : List Byte) :
    LfAfterCr false (text ++ b) ↔ LfAfterCr false b := by
  induction text with
  | nil => exact Iff.rfl
  | cons x text ih =>
    have hx : decide (x = CR) = false :=
      decide_eq_false fun h => hcr (h ▸ List.mem_cons_self)
    rw [List.cons_append, LfAfterCr, hx, ih (fun h => hcr (List.mem_cons_of_mem x h))
      fun h => hlf (List.mem_cons_of_mem x h)]
    exact and_iff_right fun h => absurd (h ▸ List.mem_cons_self) hlf

theorem lfAfterCr_cr (h : b.head? ≠ some LF) :
    LfAfterCr false (CR :: b) ↔ LfAfterCr false b := by
  have hne : ¬ CR = LF := by decide
  rw [LfAfterCr, decide_eq_true rfl]
  refine (and_iff_right fun h => absurd h hne).trans ?_
  cases b with
  | nil => exact Iff.rfl
  | cons x b =>
    have hx : x ≠ LF := fun heq => h (congrArg some heq)
    exact and_congr_left fun _ => ⟨fun _ heq => absurd heq hx, fun _ heq => absurd heq hx⟩

theorem lfAfterCr_crlf : LfAfterCr false (CR :: LF :: b) ↔ LfAfterCr false b := by
  have hne : ¬ CR = LF := by decide
  have hne' : decide (LF = CR) = false := by decide
  rw [LfAfterCr, LfAfterCr, hne', decide_eq_true rfl]
  exact (and_iff_right fun h => absurd h hne).trans (and_iff_right fun _ => Or.inl rfl)

theorem not_lfAfterCr_lf (h : CR ∈ b) : ¬ LfAfterCr false (LF :: b) := by
  intro hb
  rcases hb.1 rfl with hfalse | hcr
  · exact Bool.false_ne_true hfalse
  · exact hcr h

end LfAfterCr

/-! ### One drain -/

/-- What has been received and not yet cut, and what is still to come, are lines; the LF of
the last one cut may be in front of them. -/
def Pending (lines : List Line) (b rest : List Byte) : Prop :=
  b ++ rest = stream lines ∨ b ++ rest = LF :: stream lines

/-- The drain cuts the first of the lines and leaves the others. -/
def Settles (lines : List Line) (b rest : List Byte) : Prop :=
  ∃ done left, (drained b).1 = done.map Line.text ∧ lines = done ++ left ∧
    Pending left (drained b).2 rest ∧ (rest = [] → left = [])

/-- Whatever is cut later, the lines do not come out. -/
def Spoils (lines : List Line) (b rest : List Byte) : Prop :=
  ∀ outs : List (List Byte), textBytes outs.flatten ≤ textBytes ((drained b).2 ++ rest) →
    (drained b).1 ++ outs ≠ lines.map Line.text

section Drain

variable {l : Line} {lines : List Line} {b b' rest : List Byte}

theorem Settles.cons (h : Settles lines b' rest)
    (hcut : drained b = (l.text :: (drained b').1, (drained b').2)) :
    Settles (l :: lines) b rest := by
  obtain ⟨done, left, hout, rfl, hleft, hend⟩ := h
  refine ⟨l :: done, left, ?_, rfl, ?_, hend⟩
  · rw [hcut, List.map_cons, hout]
  · rw [hcut]
    exact hleft

theorem Spoils.cons (h : Spoils lines b' rest)
    (hcut : drained b = (l.text :: (drained b').1, (drained b').2)) :
    Spoils (l :: lines) b rest := by
  intro outs houts
  rw [hcut] at houts ⊢
  rw [List.cons_append, List.map_cons]
  exact fun heq => h outs houts (List.cons.inj heq).2

/-- A frame with an LF in it is no line. -/
theorem spoils_of_lf {frame rest' : List Byte} (hlf : LF ∈ frame)
    (hcut : extract b = (some frame, rest')) : Spoils lines b rest := by
  intro outs _ heq
  rw [drained_of_some hcut, List.cons_append] at heq
  have hmem : frame ∈ lines.map Line.text := by
    rw [← heq]
    exact List.mem_cons_self
  obtain ⟨l, -, rfl⟩ := List.mem_map.mp hmem
  exact l.lf_not_mem hlf

/-- A byte of a text that is dropped is missed. -/
theorem spoils_of_dropped (hdrop : extract b = (none, b.tail))
    (hlt : textBytes b.tail < textBytes b) (h : b ++ rest = stream lines) :
    Spoils lines b rest := by
  intro outs houts heq
  rw [drained_of_none hdrop] at houts heq
  rw [List.nil_append] at heq
  have htotal := textBytes_stream lines
  rw [← h, ← heq, textBytes_append] at htotal
  rw [textBytes_append] at houts
  dsimp only at houts
  omega

theorem textBytes_text_tail (l : Line) (c : List Byte) :
    textBytes (l.text ++ c).tail < textBytes (l.text ++ c) := by
  have hall := l.textBytes_text
  obtain ⟨x, text, htext⟩ := List.exists_cons_of_ne_nil l.text_ne_nil
  have hx : textBytes (x :: text) = textBytes text + 1 := by
    refine List.countP_cons_of_pos (decide_eq_true ⟨?_, ?_⟩)
    · exact fun h => l.cr_not_mem (by rw [htext, h]; exact List.mem_cons_self)
    · exact fun h => l.lf_not_mem (by rw [htext, h]; exact List.mem_cons_self)
  rw [htext, List.cons_append, List.tail_cons]
  have hsum := textBytes_append (x :: text) c
  rw [List.cons_append] at hsum
  rw [hsum, textBytes_append, hx]
  omega

/-- A CR behind the LF of the first line. -/
theorem spoils_of_lf_cr (hcr : CR ∈ b) (h : l.text ++ LF :: b ++ rest = stream lines) :
    Spoils lines (l.text ++ LF :: b) rest := by
  obtain ⟨p, q, rfl, hp⟩ := List.eq_append_cons_of_mem hcr
  have hpre : CR ∉ l.text ++ LF :: p := by
    intro hmem
    rcases List.mem_append.mp hmem with hmem | hmem
    · exact l.cr_not_mem hmem
    · exact hp ((List.mem_cons.mp hmem).resolve_left (by decide))
  have hassoc : l.text ++ LF :: (p ++ CR :: q) = (l.text ++ LF :: p) ++ CR :: q := by
    rw [List.append_assoc, List.cons_append]
  have hcut := extract_of_cr q hpre
  rw [← hassoc] at hcut
  split at hcut
  · exact spoils_of_dropped hcut (textBytes_text_tail l _) h
  · exact spoils_of_lf (List.mem_append_right _ List.mem_cons_self) hcut

theorem Line.not_skipped (l : Line) :
    ¬ (l.text.length = 0 ∨ l.text.length > MAX_ASCII_FRAME_LEN) := by
  have hpos := List.length_pos_iff.mpr l.text_ne_nil
  have hle := l.text_le
  omega

/-- Only a part of the first line has come. -/
theorem drain_part {t : List Byte} (htext : l.text = b ++ t) (hrest : rest ≠ [])
    (h : b ++ rest = stream (l :: lines)) :
    (LfAfterCr false b → Settles (l :: lines) b rest) ∧
      (¬ LfAfterCr false b → Spoils (l :: lines) b rest) := by
  have hcr : CR ∉ b := fun hmem => l.cr_not_mem (htext ▸ List.mem_append_left t hmem)
  have hlf : LF ∉ b := fun hmem => l.lf_not_mem (htext ▸ List.mem_append_left t hmem)
  have hcut := drained_of_none (extract_of_no_end hcr hlf)
  refine ⟨fun _ => ⟨[], l :: lines, ?_, rfl, Or.inl ?_, fun hnil => absurd hnil hrest⟩,
    fun hbad => absurd (lfAfterCr_of_no_cr hcr) hbad⟩
  · rw [hcut]
    rfl
  · rw [hcut]
    exact h

/-- The first line is there, and the drain goes on behind it. -/
theorem drain_line {c : List Byte} (hcut : extract (l.text ++ c) = (some l.text, b'))
    (hiff : LfAfterCr false (l.text ++ c) ↔ LfAfterCr false b')
    (ih : (LfAfterCr false b' → Settles lines b' rest) ∧
      (¬ LfAfterCr false b' → Spoils lines b' rest)) :
    (LfAfterCr false (l.text ++ c) → Settles (l :: lines) (l.text ++ c) rest) ∧
      (¬ LfAfterCr false (l.text ++ c) → Spoils (l :: lines) (l.text ++ c) rest) :=
  ⟨fun hgood => (ih.1 (hiff.mp hgood)).cons (drained_of_some hcut),
    fun hbad => (ih.2 (mt hiff.mpr hbad)).cons (drained_of_some hcut)⟩

/-- A drain that begins at the start of a line. -/
theorem drain_at_start (lines : List Line) {b rest : List Byte} (h : b ++ rest = stream lines) :
    (LfAfterCr false b → Settles lines b rest) ∧ (¬ LfAfterCr false b → Spoils lines b rest) := by
  induction lines generalizing b with
  | nil =>
    obtain ⟨rfl, rfl⟩ := List.append_eq_nil_iff.mp h
    have hcut : drained [] = ([], []) := drained_of_none rfl
    refine ⟨fun _ => ⟨[], [], by rw [hcut]; rfl, rfl, Or.inl (by rw [hcut]; rfl), fun _ => rfl⟩,
      fun hbad => absurd trivial hbad⟩
  | cons l lines ih =>
    have hsplit := h
    rw [stream_cons] at hsplit
    have hend : l.ending.bytes ++ stream lines ≠ [] :=
      fun hnil => l.ending.bytes_ne_nil (List.append_eq_nil_iff.mp hnil).1
    obtain ⟨t, htext, hrest⟩ | ⟨c, rfl, hc⟩ := List.append_eq_append_iff.mp hsplit
    · refine drain_part htext ?_ h
      rw [hrest]
      exact fun hnil => hend (List.append_eq_nil_iff.mp hnil).2
    cases c with
    | nil =>
      have hne : rest ≠ [] := fun hnil => hend (by rw [hc, hnil]; rfl)
      rw [List.append_nil] at h ⊢
      exact drain_part (List.append_nil l.text).symm hne h
    | cons e c =>
      have hlong := l.not_skipped
      cases hending : l.ending with
      | cr =>
        rw [hending] at hc
        obtain ⟨rfl, hlines⟩ := List.cons.inj hc
        have hhead := head_stream hlines.symm
        have hcut := extract_of_cr c l.cr_not_mem
        rw [if_neg hlong, if_neg hhead] at hcut
        refine drain_line hcut ?_ (ih hlines.symm)
        exact (lfAfterCr_text l.cr_not_mem l.lf_not_mem _).trans (lfAfterCr_cr hhead)
      | crlf =>
        rw [hending] at hc
        obtain ⟨rfl, hlf⟩ := List.cons.inj hc
        have hcut := extract_of_cr c l.cr_not_mem
        rw [if_neg hlong] at hcut
        cases c with
        | nil =>
          -- the LF comes with a later chunk
          have hdrained := drained_of_some hcut
          have hempty : drained [] = ([], []) := drained_of_none rfl
          rw [if_neg (fun h => Option.some_ne_none LF h.symm), hempty] at hdrained
          refine ⟨fun _ => ⟨[l], lines, by rw [hdrained]; rfl, rfl, Or.inr ?_, fun hnil => ?_⟩,
            fun hbad => absurd ?_ hbad⟩
          · rw [hdrained]
            exact hlf.symm
          · rw [hnil] at hlf
            cases hlf
          · have hhead : ([] : List Byte).head? ≠ some LF := fun h => Option.some_ne_none LF h.symm
            rw [lfAfterCr_text l.cr_not_mem l.lf_not_mem, lfAfterCr_cr hhead]
            trivial
        | cons e' c =>
          obtain ⟨rfl, hlines⟩ := List.cons.inj hlf
          have hhead : (LF :: c).head? = some LF := rfl
          rw [if_pos hhead] at hcut
          refine drain_line hcut ?_ (ih hlines.symm)
          exact (lfAfterCr_text l.cr_not_mem l.lf_not_mem _).trans lfAfterCr_crlf
      | lf =>
        rw [hending] at hc
        obtain ⟨rfl, hlines⟩ := List.cons.inj hc
        by_cases hcr : CR ∈ c
        · have hbad : ¬ LfAfterCr false (l.text ++ LF :: c) := by
            rw [lfAfterCr_text l.cr_not_mem l.lf_not_mem]
            exact not_lfAfterCr_lf hcr
          exact ⟨fun hgood => absurd hgood hbad, fun _ => spoils_of_lf_cr hcr h⟩
        · have hnone : CR ∉ l.text ++ LF :: c := by
            intro hmem
            rcases List.mem_append.mp hmem with hmem | hmem
            · exact l.cr_not_mem hmem
            · exact hcr ((List.mem_cons.mp hmem).resolve_left (by decide))
          have hcut := extract_of_lf l.lf_not_mem hnone
          rw [if_neg hlong] at hcut
          exact drain_line hcut
            ⟨fun _ => lfAfterCr_of_no_cr hcr, fun _ => lfAfterCr_of_no_cr hnone⟩ (ih hlines.symm)

/-- A drain that finds the LF of the line before at the front. -/
theorem drain_at_lf (h : LF :: b ++ rest = LF :: stream lines) :
    (CR ∉ b.take MAX_ASCII_FRAME_LEN → drained (LF :: b) = ([], b)) ∧
      (CR ∈ b.take MAX_ASCII_FRAME_LEN → Spoils lines (LF :: b) rest) := by
  by_cases hcr : CR ∈ b
  · obtain ⟨p, q, rfl, hp⟩ := List.eq_append_cons_of_mem hcr
    have hpre : CR ∉ LF :: p := fun hmem => hp ((List.mem_cons.mp hmem).resolve_left (by decide))
    have hcut := extract_of_cr q hpre
    rw [List.length_cons] at hcut
    have htake : CR ∈ (p ++ CR :: q).take MAX_ASCII_FRAME_LEN ↔
        p.length < MAX_ASCII_FRAME_LEN := by
      rw [List.take_append]
      constructor
      · intro hmem
        rcases List.mem_append.mp hmem with hmem | hmem
        · exact absurd (List.mem_of_mem_take hmem) hp
        · by_contra hle
          rw [Nat.sub_eq_zero_of_le (Nat.not_lt.mp hle)] at hmem
          cases hmem
      · intro hlt
        obtain ⟨k, hk⟩ := Nat.exists_eq_add_of_lt hlt
        refine List.mem_append_right _ ?_
        have hsub : MAX_ASCII_FRAME_LEN - p.length = k + 1 := by omega
        rw [hsub, List.take_succ_cons]
        exact List.mem_cons_self
    rw [htake]
    constructor
    · intro hge
      rw [if_pos (Or.inr (by omega))] at hcut
      exact drained_of_none hcut
    · intro hlt
      rw [if_neg (by omega)] at hcut
      exact spoils_of_lf List.mem_cons_self hcut
  · have hnone : CR ∉ [] ++ LF :: b := fun hmem =>
      hcr ((List.mem_cons.mp hmem).resolve_left (by decide))
    have hcut := (extract_of_lf List.not_mem_nil hnone).trans (if_pos (Or.inl rfl))
    exact ⟨fun _ => drained_of_none hcut, fun hmem => absurd (List.mem_of_mem_take hmem) hcr⟩

end Drain

/-! ### The chunks of a port -/

section Feed

theorem accepted_eq {b : List Byte} (h : b.length ≤ MAX_ASCII_FRAME_LEN * 2) :
    accepted b = drained b :=
  if_neg (Nat.not_lt.mpr h)

theorem feed_sublist (b : List Byte) (cs : List (List Byte)) :
    ((Framer.feed accepted b cs).1.flatten).Sublist (b ++ cs.flatten) := by
  induction cs generalizing b with
  | nil => exact List.nil_sublist _
  | cons c cs ih =>
    rw [Framer.feed]
    simp only [List.flatten_append, List.flatten_cons]
    calc ((accepted (b ++ c)).1.flatten ++
          (Framer.feed accepted (accepted (b ++ c)).2 cs).1.flatten).Sublist
          ((accepted (b ++ c)).1.flatten ++ ((accepted (b ++ c)).2 ++ cs.flatten)) :=
          (ih _).append_left _
      _ = (accepted (b ++ c)).1.flatten ++ (accepted (b ++ c)).2 ++ cs.flatten :=
          (List.append_assoc _ _ _).symm
      List.Sublist _ (b ++ c ++ cs.flatten) := (accepted_sublist (b ++ c)).append_right _
      _ = b ++ (c ++ cs.flatten) := List.append_assoc _ _ _

/-- A stream that is short enough never fills the buffer. -/
theorem withinCap_of_length {b : List Byte} {cs : List (List Byte)}
    (h : (b ++ cs.flatten).length ≤ MAX_ASCII_FRAME_LEN * 2) : WithinCap b cs := by
  induction cs generalizing b with
  | nil => trivial
  | cons c cs ih =>
    rw [List.flatten_cons, ← List.append_assoc, List.length_append] at h
    have hleft := (accepted_sublist (b ++ c)).length_le
    rw [List.length_append] at hleft
    refine ⟨by omega, ih ?_⟩
    rw [List.length_append]
    omega

/-- Nothing that comes later repairs a drain that has spoiled the lines. -/
theorem Spoils.feed_ne {lines : List Line} {b : List Byte} {cs : List (List Byte)}
    (h : Spoils lines b cs.flatten) :
    (drained b).1 ++ (Framer.feed accepted (drained b).2 cs).1 ≠ lines.map Line.text :=
  h _ ((feed_sublist (drained b).2 cs).countP_le)

theorem feed_iff {lines : List Line} {b : List Byte} (cs : List (List Byte))
    (hpending : Pending lines b cs.flatten) (hend : cs = [] → lines = [])
    (hcap : WithinCap b cs) :
    (Framer.feed accepted b cs).1 = lines.map Line.text ↔ KeepsUp b cs := by
  induction cs generalizing lines b with
  | nil =>
    rw [hend rfl]
    exact ⟨fun _ => trivial, fun _ => rfl⟩
  | cons c cs ih =>
    rw [WithinCap, accepted_eq hcap.1] at hcap
    rw [Framer.feed, KeepsUp, accepted_eq hcap.1]
    rw [Pending, List.flatten_cons, ← List.append_assoc] at hpending
    rcases hpending with hstart | hlf
    · have hhead := head_stream hstart
      have hreadable : Readable (b ++ c) ↔ LfAfterCr false (b ++ c) :=
        ⟨fun h => h.2 hhead, fun h => ⟨fun hlf => absurd hlf hhead, fun _ => h⟩⟩
      have hlast : ∀ rest, b ++ c = LF :: rest → rest = [] :=
        fun rest heq => absurd (congrArg List.head? heq) hhead
      obtain ⟨hgood, hbad⟩ := drain_at_start lines hstart
      rw [hreadable]
      by_cases hread : LfAfterCr false (b ++ c)
      · obtain ⟨done, left, hout, rfl, hleft, hdone⟩ := hgood hread
        rw [hout, List.map_append, List.append_cancel_left_eq,
          ih hleft (fun hnil => hdone (by rw [hnil]; rfl)) hcap.2]
        exact ⟨fun h => ⟨hread, fun _ => hlast, h⟩, fun h => h.2.2⟩
      · exact ⟨fun h => absurd h (hbad hread).feed_ne, fun h => absurd h.1 hread⟩
    · cases hbuf : b ++ c with
      | nil =>
        -- an empty read, and the LF is still to come
        rw [hbuf] at hcap hlf
        have hcut : drained [] = ([], []) := drained_of_none rfl
        rw [hcut] at hcap ⊢
        have hmore : cs ≠ [] := by
          rintro rfl
          cases hlf
        rw [List.nil_append, ih (Or.inr hlf) (fun hnil => absurd hnil hmore) hcap.2]
        have hreadable : Readable [] :=
          ⟨fun h => absurd h.symm (Option.some_ne_none LF), fun _ => trivial⟩
        exact ⟨fun h => ⟨hreadable, fun hnil => absurd hnil hmore, h⟩, fun h => h.2.2⟩
      | cons x rest =>
        rw [hbuf] at hcap hlf
        obtain rfl : x = LF := (List.cons.inj hlf).1
        have hlines : rest ++ cs.flatten = stream lines := (List.cons.inj hlf).2
        have hreadable : Readable (LF :: rest) ↔ CR ∉ rest.take MAX_ASCII_FRAME_LEN :=
          ⟨fun h => h.1 rfl, fun h => ⟨fun _ => h, fun hne => absurd rfl hne⟩⟩
        obtain ⟨hgood, hbad⟩ := drain_at_lf hlf
        rw [hreadable]
        by_cases hcr : CR ∈ rest.take MAX_ASCII_FRAME_LEN
        · exact ⟨fun h => absurd h (hbad hcr).feed_ne, fun h => absurd hcr h.1⟩
        · rw [hgood hcr] at hcap ⊢
          rw [List.nil_append]
          by_cases hnil : cs = []
          · subst hnil
            rw [List.flatten_nil, List.append_nil] at hlines
            constructor
            · intro h
              have hnone : lines = [] := List.map_eq_nil_iff.mp h.symm
              rw [hnone] at hlines
              exact ⟨hcr, fun _ rest' heq => (List.cons.inj heq).2 ▸ hlines, trivial⟩
            · intro h
              have hrest : rest = [] := h.2.1 rfl rest rfl
              rw [hrest] at hlines
              rw [stream_eq_nil.mp hlines.symm]
              rfl
          · rw [ih (Or.inl hlines) (fun h => absurd h hnil) hcap.2]
            exact ⟨fun h => ⟨hcr, fun h' => absurd h' hnil, h⟩, fun h => h.2.2⟩

end Feed

/-- The lines of a port come out as they were sent, whatever the other ports receive, exactly
when every drain of the port meets a buffer it can cut at the ends of the lines. -/
theorem lines_delivered_iff (idx : Int) (lines : List Line) (cs : List (Int × List Byte))
    (hcut : (onPort idx cs).flatten = stream lines) (hcap : WithinCap [] (onPort idx cs)) :
    (∃ out a, feedAll empty cs = some (out, a) ∧ onPort idx out = lines.map Line.text) ↔
      KeepsUp [] (onPort idx cs) := by
  obtain ⟨out, a, hfeed, hports⟩ := feedAll_spec empty cs
  have hout : onPort idx out = (Framer.feed accepted [] (onPort idx cs)).1 :=
    congrArg Prod.fst (hports idx)
  have hnone : onPort idx cs = [] → lines = [] := by
    intro hnil
    rw [hnil] at hcut
    exact stream_eq_nil.mp hcut.symm
  rw [← feed_iff (onPort idx cs) (Or.inl hcut) hnone hcap, ← hout]
  constructor
  · rintro ⟨out', a', hfeed', hlines⟩
    rw [hfeed] at hfeed'
    cases hfeed'
    exact hlines
  · exact fun h => ⟨out, a, hfeed, h⟩

/-- A line of one letter. -/
def lineA (ending : LineEnd) : Line where
  text := [0x41]
  ending := ending
  text_ne_nil := by decide
  text_le := by decide
  cr_not_mem := by decide
  lf_not_mem := by decide

theorem lines_delivered_iff_two :
    (feedAll empty [(0, [0x41, 0x0D, 0x0A, 0x41, 0x0A])]).map (·.1) =
      some [(0, [0x41]), (0, [0x41])] ∧
    KeepsUp [] [[0x41, 0x0D, 0x0A, 0x41, 0x0A]] := by
  have hout : (feedAll empty [(0, [0x41, 0x0D, 0x0A, 0x41, 0x0A])]).map (·.1) =
      some [(0, [0x41]), (0, [0x41])] := by decide
  obtain ⟨⟨out, a⟩, hfeed, rfl⟩ := Option.map_eq_some_iff.mp hout
  have hcap : WithinCap [] (onPort 0 [(0, [0x41, 0x0D, 0x0A, 0x41, 0x0A])]) :=
    withinCap_of_length (by decide)
  exact ⟨hout, (lines_delivered_iff 0 [lineA .crlf, lineA .lf] _ rfl hcap).mp
    ⟨_, a, hfeed, rfl⟩⟩

/-- The LF of a CRLF that comes with the next chunk is taken for the start of the next line, and
the end of a line that an LF ends is missed when a CR is there too. -/
theorem lf_taken_into_line :
    ¬ (∀ (lines : List Line) (cs : List (Int × List Byte)),
      (onPort 0 cs).flatten = stream lines → WithinCap [] (onPort 0 cs) →
      ∃ out a, feedAll empty cs = some (out, a) ∧ onPort 0 out = lines.map Line.text) ∧
    (feedAll empty [(0, [0x41, 0x0D]), (0, [0x0A, 0x41, 0x0D])]).map (·.1) =
      some [(0, [0x41]), (0, [0x0A, 0x41])] ∧
    (feedAll empty [(0, [0x41, 0x0A, 0x41, 0x0D])]).map (·.1) =
      some [(0, [0x41, 0x0A, 0x41])] := by
  have hsplit : (feedAll empty [(0, [0x41, 0x0D]), (0, [0x0A, 0x41, 0x0D])]).map (·.1) =
      some [(0, [0x41]), (0, [0x0A, 0x41])] := by decide
  refine ⟨fun h => ?_, hsplit, by decide⟩
  obtain ⟨out, a, hfeed, hlines⟩ := h [lineA .crlf, lineA .cr]
    [(0, [0x41, 0x0D]), (0, [0x0A, 0x41, 0x0D])] rfl (withinCap_of_length (by decide))
  rw [hfeed] at hsplit
  obtain rfl : out = [(0, [0x41]), (0, [0x0A, 0x41])] := Option.some.inj hsplit
  exact absurd hlines (by decide)

end AsciiFrameAssembler
end EnergyStorage
