import Imt.Hid

/-!
# The report size calculator

`wmtHidReportSize` is `wmt_hid_report_size`: over the items of one kind and report id it keeps
the least start `lpos` and the greatest end `hpos = pos + size * count`, in `uint32_t`, and
returns `(hpos - lpos + 7) / 8`, or `0` bytes when `lpos > hpos`.

* `wmtHidReportSize_perm`, `wmtHidReportSize_filter`: the result depends only on the multiset
  of matching items: any order, and any other items in between.
* `wmtHidReportSize_none`: `0` when no item matches.
* `wmtHidReportSize_eq_spec`: the exact size `reportSizeSpec` whenever no matching item ends at
  or past bit `2 ^ 32 - 7`.
* `wmtHidReportSize_wraps`: an item of `2 ^ 27` fields of 32 bits ends at bit `2 ^ 32`, the
  `uint32_t` end wraps to `0`, and the calculator returns `0` where `2 ^ 29` bytes are spanned.
-/

namespace Imt

/-- The items `wmt_hid_report_size` measures: those of kind `k` in report `id`. -/
def reportItem (k : HidKind) (id : Nat) (h : HidItem) : Bool :=
  h.kind == k && h.reportID == id

/-- One item of `wmt_hid_report_size`'s loop on `(hpos, lpos)`. -/
def reportSizeStep (k : HidKind) (id : Nat) (acc : BitVec 32 × BitVec 32) (h : HidItem) :
    BitVec 32 × BitVec 32 :=
  if reportItem k id h then
    let temp := h.loc.pos + h.loc.size * h.loc.count
    (if acc.1 < temp then temp else acc.1, if acc.2 > h.loc.pos then h.loc.pos else acc.2)
  else acc

/-- `wmt_hid_report_size`. -/
def wmtHidReportSize (items : List HidItem) (k : HidKind) (id : Nat) : Nat :=
  let acc := items.foldl (reportSizeStep k id) (0, 0xFFFFFFFF)
  let temp : BitVec 32 := if acc.2 > acc.1 then 0 else acc.1 - acc.2
  ((temp + 7) / 8).toNat

/-- The exact end `pos + size * count` of an item's bits. -/
def itemEnd (h : HidItem) : Nat := h.loc.pos.toNat + h.loc.size.toNat * h.loc.count.toNat

/-- The greatest exact end of the items, `0` for none. -/
def maxEnd (m : List HidItem) : Nat := m.foldr (fun h e => max (itemEnd h) e) 0

/-- The least start of the items, `2 ^ 32 - 1` for none. -/
def minStart (m : List HidItem) : Nat := m.foldr (fun h s => min h.loc.pos.toNat s) (2 ^ 32 - 1)

/-- What the calculator is for: `⌈(E - S) / 8⌉` bytes for the least start `S` and the greatest
end `E` of the matching items, both exact, and `0` when no item matches. -/
def reportSizeSpec (items : List HidItem) (k : HidKind) (id : Nat) : Nat :=
  let m := items.filter (reportItem k id)
  if m = [] then 0 else (maxEnd m - minStart m + 7) / 8

private theorem hpos_toNat (a t : BitVec 32) :
    (if a < t then t else a).toNat = max a.toNat t.toNat := by
  split_ifs with h <;> rw [BitVec.lt_def] at h <;> omega

private theorem lpos_toNat (a p : BitVec 32) :
    (if a > p then p else a).toNat = min a.toNat p.toNat := by
  split_ifs with h <;> rw [gt_iff_lt, BitVec.lt_def] at h <;> omega

theorem reportSizeStep_comm (k : HidKind) (id : Nat) (a : BitVec 32 × BitVec 32)
    (x y : HidItem) :
    reportSizeStep k id (reportSizeStep k id a x) y =
      reportSizeStep k id (reportSizeStep k id a y) x := by
  unfold reportSizeStep
  by_cases hx : reportItem k id x <;> by_cases hy : reportItem k id y <;>
    simp only [hx, hy, if_true, Bool.false_eq_true, if_false]
  apply Prod.ext <;> apply BitVec.eq_of_toNat_eq <;> simp only [hpos_toNat, lpos_toNat]
  exacts [Nat.max_right_comm _ _ _, Nat.min_right_comm _ _ _]

theorem wmtHidReportSize_perm {l₁ l₂ : List HidItem} (p : l₁.Perm l₂) (k : HidKind) (id : Nat) :
    wmtHidReportSize l₁ k id = wmtHidReportSize l₂ k id := by
  simp only [wmtHidReportSize,
    p.foldl_eq' (fun x _ y _ z => reportSizeStep_comm k id z x y)]

theorem foldl_reportSizeStep_filter (k : HidKind) (id : Nat) (items : List HidItem)
    (a : BitVec 32 × BitVec 32) :
    (items.filter (reportItem k id)).foldl (reportSizeStep k id) a =
      items.foldl (reportSizeStep k id) a := by
  induction items generalizing a with
  | nil => rfl
  | cons h hs ih =>
    by_cases hm : reportItem k id h
    · simp [List.filter_cons, hm, ih]
    · simp [List.filter_cons, hm, ih, reportSizeStep]

theorem wmtHidReportSize_filter (items : List HidItem) (k : HidKind) (id : Nat) :
    wmtHidReportSize (items.filter (reportItem k id)) k id = wmtHidReportSize items k id := by
  simp only [wmtHidReportSize, foldl_reportSizeStep_filter]

theorem wmtHidReportSize_none (items : List HidItem) (k : HidKind) (id : Nat)
    (h : ∀ hi ∈ items, reportItem k id hi = false) : wmtHidReportSize items k id = 0 := by
  rw [← wmtHidReportSize_filter, List.filter_eq_nil_iff.mpr (by simpa using h)]
  unfold wmtHidReportSize
  simp only [List.foldl_nil]
  decide

/-- One matching item that ends below `2 ^ 32`: the accumulators become the exact maximum and
minimum. -/
theorem reportSizeStep_toNat {k : HidKind} {id : Nat} {h : HidItem} (hm : reportItem k id h)
    (he : itemEnd h < 2 ^ 32) (a : BitVec 32 × BitVec 32) :
    (reportSizeStep k id a h).1.toNat = max a.1.toNat (itemEnd h) ∧
      (reportSizeStep k id a h).2.toNat = min a.2.toNat h.loc.pos.toNat := by
  have hmul : h.loc.size.toNat * h.loc.count.toNat < 2 ^ 32 := by unfold itemEnd at he; omega
  have ht : (h.loc.pos + h.loc.size * h.loc.count).toNat = itemEnd h := by
    rw [BitVec.toNat_add, BitVec.toNat_mul, Nat.mod_eq_of_lt hmul]; exact Nat.mod_eq_of_lt he
  simp only [reportSizeStep, hm, if_true, hpos_toNat, lpos_toNat, ht, and_self]

theorem foldl_reportSizeStep_toNat (k : HidKind) (id : Nat) (items : List HidItem)
    (hend : ∀ h ∈ items, reportItem k id h → itemEnd h < 2 ^ 32) (a : BitVec 32 × BitVec 32) :
    (items.foldl (reportSizeStep k id) a).1.toNat =
        max a.1.toNat (maxEnd (items.filter (reportItem k id))) ∧
      (items.foldl (reportSizeStep k id) a).2.toNat =
        min a.2.toNat (minStart (items.filter (reportItem k id))) := by
  induction items generalizing a with
  | nil =>
    have := a.2.isLt
    simp only [List.foldl_nil, List.filter_nil, maxEnd, minStart, List.foldr_nil]
    omega
  | cons h hs ih =>
    have ih' := ih (fun x hx => hend x (List.mem_cons_of_mem h hx))
    by_cases hm : reportItem k id h
    · obtain ⟨h1, h2⟩ := reportSizeStep_toNat hm (hend h (List.mem_cons_self h hs) hm) a
      simp only [List.foldl_cons, List.filter_cons, hm, if_true, ih', h1, h2, maxEnd, minStart,
        List.foldr_cons]
      exact ⟨Nat.max_assoc _ _ _, Nat.min_assoc _ _ _⟩
    · simpa [List.filter_cons, hm, reportSizeStep] using ih' a

theorem minStart_le_maxEnd {m : List HidItem} (hm : m ≠ []) : minStart m ≤ maxEnd m := by
  induction m with
  | nil => exact absurd rfl hm
  | cons h hs ih =>
    simp only [minStart, maxEnd, List.foldr_cons] at ih ⊢
    rcases hs with _ | ⟨x, xs⟩
    · simp only [List.foldr_nil, itemEnd]; omega
    · have := ih (List.cons_ne_nil x xs)
      unfold itemEnd; omega

theorem minStart_le (m : List HidItem) : minStart m ≤ 2 ^ 32 - 1 := by
  induction m with
  | nil => exact Nat.le_refl _
  | cons h hs ih => simp only [minStart, List.foldr_cons] at ih ⊢; omega

theorem maxEnd_lt (m : List HidItem) (hend : ∀ h ∈ m, itemEnd h + 7 < 2 ^ 32) :
    maxEnd m + 7 < 2 ^ 32 := by
  induction m with
  | nil => decide
  | cons h hs ih =>
    have h1 := ih (fun x hx => hend x (List.mem_cons_of_mem h hx))
    have h2 := hend h (List.mem_cons_self h hs)
    simp only [maxEnd, List.foldr_cons] at h1 ⊢; omega

/-- With no end at or past `2 ^ 32 - 7`, the calculator returns the exact size. -/
theorem wmtHidReportSize_eq_spec (items : List HidItem) (k : HidKind) (id : Nat)
    (hend : ∀ h ∈ items, reportItem k id h → itemEnd h + 7 < 2 ^ 32) :
    wmtHidReportSize items k id = reportSizeSpec items k id := by
  obtain ⟨h1, h2⟩ := foldl_reportSizeStep_toNat k id items
    (fun h hh hm => by have := hend h hh hm; omega) (0, 0xFFFFFFFF)
  have hE := maxEnd_lt (items.filter (reportItem k id))
    (fun h hh => by rw [List.mem_filter] at hh; exact hend h hh.1 hh.2)
  have hS := minStart_le (items.filter (reportItem k id))
  have e0 : (0 : BitVec 32).toNat = 0 := rfl
  have e1 : (0xFFFFFFFF : BitVec 32).toNat = 2 ^ 32 - 1 := rfl
  rw [e0, Nat.zero_max] at h1
  rw [e1, min_eq_right hS] at h2
  unfold wmtHidReportSize reportSizeSpec
  generalize items.foldl (reportSizeStep k id) (0, 0xFFFFFFFF) = acc at h1 h2
  generalize items.filter (reportItem k id) = m at h1 h2 hE hS
  dsimp only
  rcases m with _ | ⟨x, xs⟩
  · simp only [maxEnd, minStart, List.foldr_nil] at h1 h2
    rw [if_pos rfl, if_pos (show acc.2 > acc.1 by rw [gt_iff_lt, BitVec.lt_def]; omega)]
    rfl
  · have hle := minStart_le_maxEnd (List.cons_ne_nil x xs)
    rw [if_neg (List.cons_ne_nil x xs),
      if_neg (show ¬acc.2 > acc.1 by rw [gt_iff_lt, BitVec.lt_def]; omega)]
    have e2 : (2 : Nat) ^ 32 = 4294967296 := rfl
    have e7 : (7 : BitVec 32).toNat = 7 := rfl
    have e8 : (8 : BitVec 32).toNat = 8 := rfl
    simp only [BitVec.toNat_udiv, BitVec.toNat_add, BitVec.toNat_sub, h1, h2, e2, e7, e8] at hE ⊢
    omega

/-- An array input item of report 1 at depth 0: `2 ^ 27` fields of 32 bits from bit 0, as the
parser gives for `Report Size (32)`, `Report Count (134217728)`, `Input (Data, Array)`. -/
def wideItem : HidItem := ⟨.input, 0, 0, 1, 0, 0, 0, ⟨32, 0x8000000, 0⟩⟩

/-- Its end `2 ^ 32` wraps to `0` in `uint32_t`: the calculator returns `0` bytes for a report
that spans `2 ^ 29`. -/
theorem wmtHidReportSize_wraps :
    wmtHidReportSize [wideItem] .input 1 = 0 ∧ reportSizeSpec [wideItem] .input 1 = 2 ^ 29 := by
  decide

end Imt
