import Mathlib.Data.Nat.Bitwise

/-! # The 29-bit identifiers of J1939

From the top: priority (3 bits), a reserved bit, the data page, PF, PS and the source address.
Below PF 240 the PS byte is a destination and does not belong to the parameter group. -/

namespace EnergyStorage
namespace J1939

structure J1939Id where
  priority : BitVec 8 := 6
  dp : BitVec 8 := 0
  pf : BitVec 8 := 0
  ps : BitVec 8 := 0
  sa : BitVec 8 := 0
  deriving DecidableEq

namespace J1939Id

def isPdu1 (x : J1939Id) : Bool := x.pf < 240#8

def pgn (x : J1939Id) : BitVec 32 :=
  if x.isPdu1 = true then
    (x.dp.setWidth 32 <<< 16) ||| (x.pf.setWidth 32 <<< 8) ||| 0#32
  else (x.dp.setWidth 32 <<< 16) ||| (x.pf.setWidth 32 <<< 8) ||| x.ps.setWidth 32

def dst (x : J1939Id) : BitVec 8 := if x.isPdu1 = true then x.ps else 0xFF

end J1939Id

def parseId29 (id29 : BitVec 32) : J1939Id where
  priority := ((id29 >>> 26) &&& 0x7#32).setWidth 8
  dp := ((id29 >>> 24) &&& 0x1#32).setWidth 8
  pf := ((id29 >>> 16) &&& 0xFF#32).setWidth 8
  ps := ((id29 >>> 8) &&& 0xFF#32).setWidth 8
  sa := (id29 &&& 0xFF#32).setWidth 8

def buildId29 (priority dp pf ps sa : BitVec 8) : BitVec 32 :=
  ((priority &&& 0x7#8).setWidth 32 <<< 26) ||| (0#32 <<< 25) |||
    ((dp &&& 0x1#8).setWidth 32 <<< 24) ||| (pf.setWidth 32 <<< 16) ||| (ps.setWidth 32 <<< 8) |||
    sa.setWidth 32

/-- The identifier with these fields. -/
def J1939Id.id29 (x : J1939Id) : BitVec 32 := buildId29 x.priority x.dp x.pf x.ps x.sa

def buildId29FromPgn (pgn : BitVec 32) (priority sa dst : BitVec 8) : BitVec 32 :=
  let dp := ((pgn >>> 16) &&& 0x1#32).setWidth 8
  let pf := ((pgn >>> 8) &&& 0xFF#32).setWidth 8
  let ps := if pf < 240#8 then dst else (pgn &&& 0xFF#32).setWidth 8
  buildId29 priority dp pf ps sa

/-! ### The fields as numbers -/

/-- Bits put under a number that ends in zeros. -/
theorem or_eq_add {x y : Nat} (n : Nat) (hx : x % 2 ^ n = 0) (hy : y < 2 ^ n) :
    x ||| y = x + y := by
  have hmul : x = 2 ^ n * (x / 2 ^ n) := by
    have := Nat.div_add_mod x (2 ^ n)
    omega
  rw [hmul]
  exact (Nat.two_pow_add_eq_or_of_lt hy (x / 2 ^ n)).symm

theorem and_seven (n : Nat) : n &&& 7 = n % 8 := Nat.and_two_pow_sub_one_eq_mod n 3

theorem and_byte (n : Nat) : n &&& 255 = n % 256 := Nat.and_two_pow_sub_one_eq_mod n 8

/-- Five fields beside each other. -/
theorem or_fields {p d f q a : Nat} (hd : d < 2) (hf : f < 256) (hq : q < 256) (ha : a < 256) :
    p * 67108864 ||| d * 16777216 ||| f * 65536 ||| q * 256 ||| a =
      p * 67108864 + d * 16777216 + f * 65536 + q * 256 + a := by
  have h26 : p * 67108864 ||| d * 16777216 = p * 67108864 + d * 16777216 :=
    or_eq_add 26 (by omega) (by omega)
  have h24 : p * 67108864 + d * 16777216 ||| f * 65536 =
      p * 67108864 + d * 16777216 + f * 65536 := or_eq_add 24 (by omega) (by omega)
  have h16 : p * 67108864 + d * 16777216 + f * 65536 ||| q * 256 =
      p * 67108864 + d * 16777216 + f * 65536 + q * 256 := or_eq_add 16 (by omega) (by omega)
  rw [h26, h24, h16, or_eq_add 8 (by omega) (by omega)]

/-- A field that fits into 32 bits at its place. -/
theorem mod_mul_mod {n k : Nat} (hn : n * k < 4294967296) (hk : 0 < k) :
    n % 4294967296 * k % 4294967296 = n * k := by
  have hle : n ≤ n * k := Nat.le_mul_of_pos_right n hk
  rw [Nat.mod_eq_of_lt (hle.trans_lt hn), Nat.mod_eq_of_lt hn]

theorem toNat_buildId29 (priority dp pf ps sa : BitVec 8) :
    (buildId29 priority dp pf ps sa).toNat =
      priority.toNat % 8 * 67108864 + dp.toNat % 2 * 16777216 + pf.toNat * 65536 +
        ps.toNat * 256 + sa.toNat := by
  have hpf := pf.isLt
  have hps := ps.isLt
  have hsa := sa.isLt
  unfold buildId29
  simp only [BitVec.toNat_or, BitVec.toNat_shiftLeft, BitVec.toNat_setWidth, BitVec.toNat_and,
    BitVec.toNat_ofNat, Nat.shiftLeft_eq, Nat.reducePow, Nat.reduceMod, Nat.zero_mul, Nat.zero_mod,
    Nat.or_zero, and_seven, Nat.and_one_is_mod]
  have hsa32 : sa.toNat % 4294967296 = sa.toNat := by omega
  rw [mod_mul_mod, mod_mul_mod, mod_mul_mod, mod_mul_mod, hsa32,
    or_fields (Nat.mod_lt _ Nat.two_pos) hpf hps hsa] <;> omega

theorem toNat_parseId29 (id29 : BitVec 32) :
    (parseId29 id29).priority.toNat = id29.toNat / 67108864 % 8 ∧
      (parseId29 id29).dp.toNat = id29.toNat / 16777216 % 2 ∧
      (parseId29 id29).pf.toNat = id29.toNat / 65536 % 256 ∧
      (parseId29 id29).ps.toNat = id29.toNat / 256 % 256 ∧
      (parseId29 id29).sa.toNat = id29.toNat % 256 := by
  unfold parseId29
  simp only [BitVec.toNat_setWidth, BitVec.toNat_and, BitVec.toNat_ushiftRight, BitVec.toNat_ofNat,
    Nat.shiftRight_eq_div_pow, Nat.reducePow, Nat.reduceMod, and_seven, and_byte,
    Nat.and_one_is_mod]
  omega

theorem or_group {d f q : Nat} (hf : f < 256) (hq : q < 256) :
    d * 65536 ||| f * 256 ||| q = d * 65536 + f * 256 + q := by
  have h16 : d * 65536 ||| f * 256 = d * 65536 + f * 256 := or_eq_add 16 (by omega) (by omega)
  rw [h16, or_eq_add 8 (by omega) hq]

theorem toNat_pgn (x : J1939Id) :
    x.pgn.toNat = x.dp.toNat * 65536 + x.pf.toNat * 256 +
      if x.isPdu1 = true then 0 else x.ps.toNat := by
  have hdp : x.dp.toNat % 4294967296 * 65536 % 4294967296 = x.dp.toNat * 65536 :=
    mod_mul_mod (by have := x.dp.isLt; omega) (by omega)
  have hpf : x.pf.toNat % 4294967296 * 256 % 4294967296 = x.pf.toNat * 256 :=
    mod_mul_mod (by have := x.pf.isLt; omega) (by omega)
  have hps : x.ps.toNat % 4294967296 = x.ps.toNat :=
    Nat.mod_eq_of_lt (x.ps.isLt.trans (by decide))
  unfold J1939Id.pgn
  split_ifs <;>
    simp only [BitVec.toNat_or, BitVec.toNat_shiftLeft, BitVec.toNat_setWidth, BitVec.toNat_ofNat,
      Nat.shiftLeft_eq, Nat.reducePow, Nat.zero_mod, hdp, hpf, hps]
  · exact or_group x.pf.isLt (by decide)
  · exact or_group x.pf.isLt x.ps.isLt

/-! ### Round trips -/

/-- The identifier that is built from the fields of another one is the same without the bits
that are no field. -/
theorem toNat_build_parse (id29 : BitVec 32) :
    (parseId29 id29).id29.toNat =
      id29.toNat % 536870912 - id29.toNat / 33554432 % 2 * 33554432 := by
  obtain ⟨hpriority, hdp, hpf, hps, hsa⟩ := toNat_parseId29 id29
  rw [J1939Id.id29, toNat_buildId29, hpriority, hdp, hpf, hps, hsa]
  omega

theorem J1939Id.eq_of_toNat {x y : J1939Id} (hpriority : x.priority.toNat = y.priority.toNat)
    (hdp : x.dp.toNat = y.dp.toNat) (hpf : x.pf.toNat = y.pf.toNat)
    (hps : x.ps.toNat = y.ps.toNat) (hsa : x.sa.toNat = y.sa.toNat) : x = y := by
  cases x
  cases y
  obtain rfl := BitVec.eq_of_toNat_eq hpriority
  obtain rfl := BitVec.eq_of_toNat_eq hdp
  obtain rfl := BitVec.eq_of_toNat_eq hpf
  obtain rfl := BitVec.eq_of_toNat_eq hps
  obtain rfl := BitVec.eq_of_toNat_eq hsa
  rfl

theorem parse_build (priority dp pf ps sa : BitVec 8) :
    parseId29 (buildId29 priority dp pf ps sa) = ⟨priority &&& 7#8, dp &&& 1#8, pf, ps, sa⟩ := by
  have hpf := pf.isLt
  have hps := ps.isLt
  have hsa := sa.isLt
  obtain ⟨h1, h2, h3, h4, h5⟩ := toNat_parseId29 (buildId29 priority dp pf ps sa)
  rw [toNat_buildId29] at h1 h2 h3 h4 h5
  refine J1939Id.eq_of_toNat ?_ ?_ ?_ ?_ ?_
  · show _ = (priority &&& 7#8).toNat
    rw [BitVec.toNat_and, h1]
    show _ = priority.toNat &&& 7
    rw [and_seven]
    omega
  · show _ = (dp &&& 1#8).toNat
    rw [BitVec.toNat_and, h2]
    show _ = dp.toNat &&& 1
    rw [Nat.and_one_is_mod]
    omega
  · show _ = pf.toNat
    omega
  · show _ = ps.toNat
    omega
  · show _ = sa.toNat
    omega

theorem toNat_pgn_build (pgn : BitVec 32) (priority sa dst : BitVec 8) :
    (parseId29 (buildId29FromPgn pgn priority sa dst)).pgn.toNat =
      pgn.toNat / 65536 % 2 * 65536 + pgn.toNat / 256 % 256 * 256 +
        if pgn.toNat / 256 % 256 < 240 then 0 else pgn.toNat % 256 := by
  have hdp : (((pgn >>> 16) &&& 1#32).setWidth 8 &&& 1#8).toNat = pgn.toNat / 65536 % 2 := by
    simp only [BitVec.toNat_and, BitVec.toNat_setWidth, BitVec.toNat_ushiftRight,
      BitVec.toNat_ofNat, Nat.shiftRight_eq_div_pow, Nat.reducePow, Nat.reduceMod,
      Nat.and_one_is_mod]
    omega
  have hpf : (((pgn >>> 8) &&& 255#32).setWidth 8).toNat = pgn.toNat / 256 % 256 := by
    simp only [BitVec.toNat_and, BitVec.toNat_setWidth, BitVec.toNat_ushiftRight,
      BitVec.toNat_ofNat, Nat.shiftRight_eq_div_pow, Nat.reducePow, Nat.reduceMod, and_byte]
    omega
  have hps : ((pgn &&& 255#32).setWidth 8).toNat = pgn.toNat % 256 := by
    simp only [BitVec.toNat_and, BitVec.toNat_setWidth, BitVec.toNat_ofNat, Nat.reducePow,
      Nat.reduceMod, and_byte]
    omega
  have hlt : ((pgn >>> 8) &&& 255#32).setWidth 8 < 240#8 ↔ pgn.toNat / 256 % 256 < 240 := by
    rw [BitVec.lt_def, hpf]
    rfl
  unfold buildId29FromPgn
  rw [parse_build, toNat_pgn, J1939Id.isPdu1]
  dsimp only
  rw [hdp, hpf]
  simp only [decide_eq_true_eq]
  by_cases h : pgn.toNat / 256 % 256 < 240
  · have hpdu := hlt.mpr h
    simp only [hpdu, h, if_true]
  · have hpdu : ¬ ((pgn >>> 8) &&& 255#32).setWidth 8 < 240#8 := fun hp => h (hlt.mp hp)
    simp only [hpdu, h, if_false, hps]

/-- Fields, identifiers and parameter groups survive the way through each other: the fields up
to the bits of the priority and the data page that an identifier has room for, the identifiers
exactly if they have 29 bits and the reserved one is zero, and the groups exactly if they have
17 bits and, below PF 240, none in the place of the destination. -/
theorem j1939_round_trips (priority dp pf ps sa dst : BitVec 8) (id29 pgn : BitVec 32) :
    parseId29 (buildId29 priority dp pf ps sa) = ⟨priority &&& 7#8, dp &&& 1#8, pf, ps, sa⟩ ∧
      ((parseId29 id29).id29 = id29 ↔
        id29.toNat < 536870912 ∧ id29.toNat / 33554432 % 2 = 0) ∧
      let x := parseId29 (buildId29FromPgn pgn priority sa dst)
      x.sa = sa ∧ (x.isPdu1 = true → x.dst = dst) ∧
        (x.pgn = pgn ↔
          pgn.toNat < 131072 ∧ (pgn.toNat / 256 % 256 < 240 → pgn.toNat % 256 = 0)) := by
  refine ⟨parse_build priority dp pf ps sa, ?_, ?_, ?_, ?_⟩
  · rw [← BitVec.toNat_inj, toNat_build_parse id29]
    omega
  · rw [buildId29FromPgn, parse_build]
  · rw [buildId29FromPgn, parse_build]
    intro hpdu
    rw [J1939Id.dst, if_pos hpdu]
    exact if_pos (of_decide_eq_true hpdu)
  · rw [← BitVec.toNat_inj, toNat_pgn_build]
    split_ifs <;> omega

end J1939
end EnergyStorage
