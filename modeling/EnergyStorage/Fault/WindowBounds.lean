import EnergyStorage.Fault.HistoryCache

/-! # The window in the types of the source

Page numbers have 16 bits, offsets and limits 32.  None of the computations of a window leaves
its type. -/

namespace EnergyStorage
namespace Fault

open Lib Lib.Paging

namespace FaultHistoryCache

/-- `clampPage_`. -/
def clampPage16 (totalPages page : BitVec 16) : BitVec 16 :=
  if totalPages = 0 then 1
  else if page < 1 then 1
  else if totalPages < page then totalPages
  else page

/-- The comparisons are made in `int`, what is stored is cut to 16 bits. -/
def window16 (windowPages totalPages page : BitVec 16) : BitVec 16 × BitVec 16 :=
  let half := windowPages / 2
  if windowPages ≤ 1 then (page, page)
  else if page.toNat ≤ 1 + half.toNat then
    (1, if windowPages < totalPages then windowPages else totalPages)
  else if totalPages.toNat ≤ page.toNat + half.toNat then
    (if windowPages.toNat - 1 < totalPages.toNat then totalPages - windowPages + 1 else 1,
      totalPages)
  else (page - half, page - half + windowPages - 1)

/-- The offset and the limit of the query for the pages from `start` to `stop`. -/
def range32 (pageSize start stop : BitVec 16) : BitVec 32 × BitVec 32 :=
  ((start.setWidth 32 - 1) * pageSize.setWidth 32,
    (stop.setWidth 32 - start.setWidth 32 + 1) * pageSize.setWidth 32)

section

variable {windowPages totalPages page pageSize start stop : BitVec 16}

theorem toNat_clampPage16 (totalPages page : BitVec 16) :
    (clampPage16 totalPages page).toNat = clampTo totalPages.toNat page.toNat := by
  have hzero : totalPages = 0 ↔ totalPages.toNat = 0 := BitVec.toNat_eq
  have hone : (1 : BitVec 16).toNat = 1 := rfl
  unfold clampPage16 clampTo
  simp only [hzero, BitVec.lt_def, hone]
  split
  · rfl
  · split
    · rfl
    · split <;> rfl

/-- The window in 16 bits is the one of the numbers. -/
theorem toNat_window16 (windowPages totalPages page : BitVec 16) :
    (window16 windowPages totalPages page).map BitVec.toNat BitVec.toNat =
      windowAround windowPages.toNat totalPages.toNat page.toNat := by
  have hw := windowPages.isLt
  have ht := totalPages.isLt
  have hp := page.isLt
  have hone : (1 : BitVec 16).toNat = 1 := rfl
  have hhalf : (windowPages / 2).toNat = windowPages.toNat / 2 := rfl
  unfold window16 windowAround
  simp only [BitVec.le_def, BitVec.lt_def, hhalf, hone]
  by_cases hsmall : windowPages.toNat ≤ 1
  · rw [if_pos hsmall, if_pos hsmall]
    rfl
  rw [if_neg hsmall, if_neg hsmall]
  by_cases hfirst : page.toNat ≤ 1 + windowPages.toNat / 2
  · rw [if_pos hfirst, if_pos hfirst]
    refine Prod.ext rfl ?_
    show BitVec.toNat (if _ then _ else _) = _
    split <;> dsimp only <;> omega
  rw [if_neg hfirst, if_neg hfirst]
  by_cases hlast : totalPages.toNat ≤ page.toNat + windowPages.toNat / 2
  · rw [if_pos hlast, if_pos hlast]
    refine Prod.ext ?_ rfl
    show BitVec.toNat (if _ then _ else _) = _
    split
    · rw [BitVec.toNat_add, BitVec.toNat_sub, hone]
      dsimp only
      omega
    · rfl
  · rw [if_neg hlast, if_neg hlast]
    have hstart : (page - windowPages / 2).toNat = page.toNat - windowPages.toNat / 2 := by
      rw [BitVec.toNat_sub, hhalf]
      omega
    refine Prod.ext hstart ?_
    show (page - windowPages / 2 + windowPages - 1).toNat = _
    rw [BitVec.toNat_sub, BitVec.toNat_add, hstart, hone]
    dsimp only
    omega

/-- A window is as long as it may be and as there are pages for it. -/
theorem length_windowAround {windowPages totalPages page : Nat} (hpos : 0 < page)
    (hle : page ≤ totalPages) :
    (windowAround windowPages totalPages page).2 + 1 -
        (windowAround windowPages totalPages page).1 =
      min totalPages (max 1 windowPages) := by
  unfold windowAround
  split
  · dsimp only
    omega
  · split
    · dsimp only
      omega
    · split
      · dsimp only
        split <;> omega
      · dsimp only
        omega

/-- The offset counts the rows before the window, the limit those of its pages. -/
theorem toNat_range32 (hpos : 0 < start.toNat) (hle : start ≤ stop) (pageSize : BitVec 16) :
    (range32 pageSize start stop).1.toNat = (start.toNat - 1) * pageSize.toNat ∧
      (range32 pageSize start stop).2.toNat =
        (stop.toNat - start.toNat + 1) * pageSize.toNat := by
  have hstop := stop.isLt
  have hsize := pageSize.isLt
  have hone : (1 : BitVec 32).toNat = 1 := rfl
  rw [BitVec.le_def] at hle
  -- at most `65535` pages of at most `65535` rows
  have hfits : ∀ n, n ≤ 65535 → n * pageSize.toNat < 2 ^ 32 := by
    intro n hn
    calc n * pageSize.toNat ≤ 65535 * 65535 := Nat.mul_le_mul hn (by omega)
      _ < 2 ^ 32 := by decide
  have hwide : ∀ x : BitVec 16, (x.setWidth 32).toNat = x.toNat := by
    intro x
    rw [BitVec.toNat_setWidth]
    exact Nat.mod_eq_of_lt (by omega)
  have hbefore : (start.setWidth 32 - 1).toNat = start.toNat - 1 := by
    rw [BitVec.toNat_sub, hwide, hone]
    omega
  have hpages :
      (stop.setWidth 32 - start.setWidth 32 + 1).toNat = stop.toNat - start.toNat + 1 := by
    rw [BitVec.toNat_add, BitVec.toNat_sub, hwide, hwide, hone]
    omega
  constructor
  · show ((start.setWidth 32 - 1) * pageSize.setWidth 32).toNat = _
    rw [BitVec.toNat_mul, hbefore, hwide]
    exact Nat.mod_eq_of_lt (hfits _ (by omega))
  · show ((stop.setWidth 32 - start.setWidth 32 + 1) * pageSize.setWidth 32).toNat = _
    rw [BitVec.toNat_mul, hpages, hwide]
    exact Nat.mod_eq_of_lt (hfits _ (by omega))

/-- What `refreshWindow` makes of the numbers is what the source makes of the words. -/
theorem windowAround_clampPage {c : FaultHistoryCache}
    (hwindow : c.sizes.windowPages = windowPages.toNat) (htotal : c.totalPages = totalPages.toNat)
    (page : BitVec 16) :
    windowAround c.sizes.windowPages c.totalPages (c.clampPage page.toNat) =
      (window16 windowPages totalPages (clampPage16 totalPages page)).map
        BitVec.toNat BitVec.toNat := by
  rw [toNat_window16, toNat_clampPage16, hwindow, clampPage, htotal]

/-- The query takes the offset and the limit in a signed `int`, which has room for both up to
`2 ^ 15` rows a page. -/
theorem loadHistoryRange_pages (hpos : 0 < start.toNat) (hle : start ≤ stop)
    (hsize : pageSize.toNat ≤ 2 ^ 15) (db : SqliteFaultSink) :
    db.loadHistoryRange .done (range32 pageSize start stop).1.toNat
        (range32 pageSize start stop).2.toNat =
      some ((List.range' start.toNat (stop.toNat + 1 - start.toNat)).flatMap fun k =>
        Paging.page pageSize.toNat k db.clearedRows) := by
  obtain ⟨hoffset, hlimit⟩ := toNat_range32 hpos hle pageSize
  have hstop := stop.isLt
  rw [BitVec.le_def] at hle
  have hcount : stop.toNat - start.toNat + 1 = stop.toNat + 1 - start.toNat := by omega
  have hfits : ∀ n, n ≤ 65535 → n * pageSize.toNat < 2 ^ 31 := by
    intro n hn
    calc n * pageSize.toNat ≤ 65535 * 2 ^ 15 := Nat.mul_le_mul hn hsize
      _ < 2 ^ 31 := by decide
  have hbind : ∀ n, n < 2 ^ 31 → bindInt n = n := by
    intro n hn
    have hmod : n % 2 ^ 32 = n := Nat.mod_eq_of_lt (by omega)
    rw [bindInt, BitVec.toInt_eq_toNat_cond, BitVec.toNat_ofNat, hmod, if_pos (by omega)]
  rw [hoffset, hlimit, hcount, flatMap_page hpos]
  unfold SqliteFaultSink.loadHistoryRange
  split
  · rename_i hnone
    rw [hnone]
    exact congrArg some (List.take_zero).symm
  · rw [hbind _ (hfits _ (by omega)), hbind _ (hfits _ (by omega)), limitOffset,
      if_neg (by omega)]
    rfl

end

/-- Around any page the window lies within the pages, holds the page and is as long as it can be;
offset and limit are exact, and the query gives the rows of those pages. -/
theorem window_exact {totalPages : BitVec 16} (htotal : 1 ≤ totalPages)
    (windowPages page pageSize : BitVec 16) :
    let near := clampPage16 totalPages page
    let w := window16 windowPages totalPages near
    let q := range32 pageSize w.1 w.2
    1 ≤ w.1 ∧ w.1 ≤ near ∧ near ≤ w.2 ∧ w.2 ≤ totalPages ∧
      w.2.toNat + 1 - w.1.toNat = min totalPages.toNat (max 1 windowPages.toNat) ∧
      q.1.toNat = (w.1.toNat - 1) * pageSize.toNat ∧
      q.2.toNat = (w.2.toNat + 1 - w.1.toNat) * pageSize.toNat ∧
      -- a layout has five rows at most
      (pageSize.toNat ≤ 2 ^ 15 → ∀ db : SqliteFaultSink,
        db.loadHistoryRange .done q.1.toNat q.2.toNat =
          some ((List.range' w.1.toNat (w.2.toNat + 1 - w.1.toNat)).flatMap fun k =>
            Paging.page pageSize.toNat k db.clearedRows)) := by
  intro near w q
  have hone : (1 : BitVec 16).toNat = 1 := rfl
  have hne : totalPages.toNat ≠ 0 := by
    rw [BitVec.le_def] at htotal
    omega
  have hclamp : near.toNat = clampTo totalPages.toNat page.toNat :=
    toNat_clampPage16 totalPages page
  have hpos : 0 < near.toNat := by
    rw [hclamp]
    exact clampTo_pos _ _
  have hle : near.toNat ≤ totalPages.toNat := by
    rw [hclamp, clampTo_eq_clamp hne]
    exact clamp_le hne _
  have hwindow : windowAround windowPages.toNat totalPages.toNat near.toNat =
      (w.1.toNat, w.2.toNat) := (toNat_window16 windowPages totalPages near).symm
  obtain ⟨hstart, hbefore, hafter, hstop⟩ :=
    @windowAround_spec windowPages.toNat _ _ hpos hle
  have hlength := @length_windowAround windowPages.toNat _ _ hpos hle
  rw [hwindow] at hstart hbefore hafter hstop hlength
  dsimp only at hstart hbefore hafter hstop hlength
  have horder : w.1 ≤ w.2 := BitVec.le_def.mpr (hbefore.trans hafter)
  obtain ⟨hoffset, hlimit⟩ := toNat_range32 hstart horder pageSize
  refine ⟨BitVec.le_def.mpr (by omega), BitVec.le_def.mpr hbefore, BitVec.le_def.mpr hafter,
    BitVec.le_def.mpr hstop, hlength, hoffset, ?_, ?_⟩
  · rw [hlimit]
    congr 1
    omega
  · intro hsize db
    exact loadHistoryRange_pages hstart horder hsize db

/-- Page 4 of 5 with windows of two pages. -/
theorem window_exact_even :
    let w := window16 2 5 (clampPage16 5 4)
    1 ≤ w.1 ∧ w.2 = 5 ∧ w.2.toNat + 1 - w.1.toNat = 2 := by
  have h := @window_exact 5 (by decide) 2 4 5
  exact ⟨h.1, by decide, h.2.2.2.2.1⟩

end FaultHistoryCache
end Fault
end EnergyStorage
