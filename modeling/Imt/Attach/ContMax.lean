import Imt.Attach
import Imt.Parse.Pin

/-!
# The slot range

`wmt_hid_parse` sets `sc->ai[WMT_SLOT]` to `0 .. cont_count_max - 1` (lines 782-797):
`cont_count_max` is the logical maximum of the last Contact Count Maximum item of pass 1, or the
finger count when that is below 1, capped at `MAX_MT_SLOTS`. `wmt_cont_max_parse` (lines
838-856) then replaces the range's size by the Contact Count Maximum of a feature report when
that is nonzero, capped the same way.

* `wmtHidParse_slot`: the range after a successful parse. The finger count is a `size_t` that
  line 786 converts to `int32_t`.
* `wmtContMaxParse_slot`, `contMaxRun_slot`: one call, then a run of calls on any reports, from a
  range `0 .. max` with `0 ≤ max < MAX_MT_SLOTS`: the last nonzero value read sets the range.
* `contMaxRun_slotRange`: after the parse and any run of calls the range is `0 .. m - 1` with
  `1 ≤ m ≤ MAX_MT_SLOTS`, `m` as `claimedSlots` computes it from the descriptor and the values
  read. The finger count has to stay below `2 ^ 31` for `int32_t` to hold it; a descriptor has
  at most 65535 bytes (`d_len` is a `uint16_t`) and every End Collection item is one of them, so
  every descriptor has fewer closes than that.
-/

namespace Imt

section

variable (E : Hid)

/-- After a successful parse the slot range is `0 .. c - 1`, where `c` is pass 1's Contact Count
Maximum, or the finger count as an `int32_t` when that is below 1, capped at `MAX_MT_SLOTS`. -/
theorem wmtHidParse_slot {sc : ImtSoftc} {items : List HidItem}
    (h : (wmtHidParse E true sc items).1 ≠ 0) :
    (wmtHidParse E true sc items).2.ai wmtSlot =
      ⟨0, min (if (featureWalk E true sc items).contCountMax < 1 then
          toInt32 (ctlWalk E items).cont
        else (featureWalk E true sc items).contCountMax) E.maxMtSlots - 1, 0⟩ := by
  obtain ⟨-, he⟩ := wmtHidParse_pos E h
  rw [he, wmtHidParseFinish_slot, inputWalk_ctl]

/-- One call on a range `0 .. max` with `0 ≤ max < MAX_MT_SLOTS`: a nonzero value read, capped at
`MAX_MT_SLOTS`, becomes the range's size, and a zero leaves the range. When the range already
has that size, line 851's comparison skips the write, which changes nothing either. -/
theorem wmtContMaxParse_slot (hE : E.maxMtSlots < 2 ^ 32) (sc : ImtSoftc) (rPtr : Buf)
    (rLen : Nat) (h0 : 0 ≤ (sc.ai wmtSlot).max) (hm : (sc.ai wmtSlot).max < E.maxMtSlots) :
    (wmtContMaxParse E sc rPtr rLen).ai wmtSlot =
      if (E.hidGetDataUnsigned rPtr rLen sc.contMaxLoc).toNat = 0 then sc.ai wmtSlot
      else { sc.ai wmtSlot with
        max := min ((E.hidGetDataUnsigned rPtr rLen sc.contMaxLoc).toNat : Int) E.maxMtSlots -
          1 } := by
  unfold wmtContMaxParse
  generalize (E.hidGetDataUnsigned rPtr rLen sc.contMaxLoc).toNat = d
  have hcm : ((if d > E.maxMtSlots then E.maxMtSlots else d : Nat) : Int) =
      min (d : Int) E.maxMtSlots := by split_ifs <;> omega
  dsimp only
  rw [hcm]
  by_cases hd : d = 0
  · rw [if_neg (by omega), if_pos hd]
  rw [if_neg hd]
  by_cases hc : min (d : Int) E.maxMtSlots = ((sc.ai wmtSlot).max + 1) % 2 ^ 32
  · -- the range already has that size: nothing is written
    rw [if_neg fun h => h.2 hc, hc, Int.emod_eq_of_lt (by omega) (by omega), Int.add_sub_cancel]
  · rw [if_pos ⟨by omega, hc⟩]
    exact Function.update_same wmtSlot _ sc.ai

/-- The values that `wmt_cont_max_parse` decodes from the reports, at the softc's Contact Count
Maximum location. -/
def contMaxReads (sc : ImtSoftc) (reports : List (Buf × Nat)) : List Nat :=
  reports.map fun r => (E.hidGetDataUnsigned r.1 r.2 sc.contMaxLoc).toNat

/-- `wmt_cont_max_parse` on each report in turn. -/
def contMaxRun (sc : ImtSoftc) (reports : List (Buf × Nat)) : ImtSoftc :=
  reports.foldl (fun s r => wmtContMaxParse E s r.1 r.2) sc

/-- The last nonzero value of a list. -/
def lastNonzero (reads : List Nat) : Option Nat := (reads.filter (· ≠ 0)).getLast?

theorem lastNonzero_cons (d : Nat) (ds : List Nat) :
    lastNonzero (d :: ds) = (lastNonzero ds).or (if d = 0 then none else some d) := by
  unfold lastNonzero
  by_cases hd : d = 0
  · simp [hd]
  · rw [List.filter_cons_of_pos (by simpa using hd), List.getLast?_cons]
    cases (ds.filter (· ≠ 0)).getLast? <;> simp [hd]

theorem lastNonzero_ne_zero {reads : List Nat} {d : Nat} (h : lastNonzero reads = some d) :
    d ≠ 0 := by
  simpa using (List.mem_filter.mp (List.mem_of_getLast?_eq_some h)).2

/-- A run of calls from a range `0 .. max` with `0 ≤ max < MAX_MT_SLOTS`: the last nonzero value
read, capped at `MAX_MT_SLOTS`, is the range's size, and without one the range stays. -/
theorem contMaxRun_slot (hE : E.maxMtSlots < 2 ^ 32) (reports : List (Buf × Nat)) (sc : ImtSoftc)
    (h0 : 0 ≤ (sc.ai wmtSlot).max) (hm : (sc.ai wmtSlot).max < E.maxMtSlots) :
    (contMaxRun E sc reports).ai wmtSlot =
      ((lastNonzero (contMaxReads E sc reports)).map fun d =>
        { sc.ai wmtSlot with max := min (d : Int) E.maxMtSlots - 1 }).getD (sc.ai wmtSlot) := by
  induction reports generalizing sc with
  | nil => rfl
  | cons r rs ih =>
    have hstep := wmtContMaxParse_slot E hE sc r.1 r.2 h0 hm
    have hloc : (wmtContMaxParse E sc r.1 r.2).contMaxLoc = sc.contMaxLoc := by
      obtain ⟨ai, hai⟩ := wmtContMaxParse_frame E sc r.1 r.2
      rw [hai]
    -- the call keeps `0 ≤ max < MAX_MT_SLOTS`
    have hinv : 0 ≤ ((wmtContMaxParse E sc r.1 r.2).ai wmtSlot).max ∧
        ((wmtContMaxParse E sc r.1 r.2).ai wmtSlot).max < E.maxMtSlots := by
      have := E.maxMtSlots_pos
      rw [hstep]
      split_ifs
      · exact ⟨h0, hm⟩
      · dsimp only; omega
    rw [show contMaxRun E sc (r :: rs) = contMaxRun E (wmtContMaxParse E sc r.1 r.2) rs from rfl,
      ih _ hinv.1 hinv.2, show contMaxReads E sc (r :: rs) =
        (E.hidGetDataUnsigned r.1 r.2 sc.contMaxLoc).toNat :: contMaxReads E sc rs from rfl,
      lastNonzero_cons, contMaxReads, hloc, ← contMaxReads, hstep]
    cases lastNonzero (contMaxReads E sc rs) <;> split_ifs <;> rfl

end

/-- The size `m` of the slot range, from the descriptor and the values read: the last nonzero
Contact Count Maximum decoded from a feature report, capped at `MAX_MT_SLOTS`; without one, the
logical maximum of pass 1's last Contact Count Maximum item, or the number of finger collections
when that is below 1, capped at `MAX_MT_SLOTS`. -/
def claimedSlots (E : Hid) (items : List HidItem) (reads : List Nat) : Int :=
  match lastNonzero reads with
  | some d => min (d : Int) E.maxMtSlots
  | none =>
    let lm := ((ccmTakenItems E items).getLast?.map HidItem.logicalMaximum).getD 0
    min (if lm < 1 then ((fingerCloses E items).length : Int) else lm) E.maxMtSlots

/-- After a successful parse and any run of `wmt_cont_max_parse` calls, the slot range is
`0 .. m - 1` with `1 ≤ m ≤ MAX_MT_SLOTS`, `m` given by `claimedSlots`, for a stream with fewer
than `2 ^ 31` End Collection items. -/
theorem contMaxRun_slotRange (E : Hid) (hE : E.maxMtSlots < 2 ^ 32) (sc : ImtSoftc)
    (items : List HidItem) (reports : List (Buf × Nat)) (hok : (wmtHidParse E true sc items).1 ≠ 0)
    (hcl : items.countP (fun hi => hi.kind == .endcollection) < 2 ^ 31) :
    ((contMaxRun E (wmtHidParse E true sc items).2 reports).ai wmtSlot).min = 0 ∧
      ((contMaxRun E (wmtHidParse E true sc items).2 reports).ai wmtSlot).max =
        claimedSlots E items (contMaxReads E (wmtHidParse E true sc items).2 reports) - 1 ∧
      1 ≤ claimedSlots E items (contMaxReads E (wmtHidParse E true sc items).2 reports) ∧
      claimedSlots E items (contMaxReads E (wmtHidParse E true sc items).2 reports) ≤
        E.maxMtSlots := by
  have hM := E.maxMtSlots_pos
  -- the finger count is at least one and below `2 ^ 31`: `int32_t` holds it
  have hc0 := ctlWalk_cont_pos E hok
  have hc1 : (ctlWalk E items).cont < 2 ^ 31 :=
    (ctlWalk_cont E items ▸ fingerCloses_length_le E items).trans_lt hcl
  have hparse := wmtHidParse_slot E hok
  rw [featureWalk_contCountMax, toInt32_of_lt hc1, ctlWalk_cont] at hparse
  rw [ctlWalk_cont] at hc0
  unfold claimedSlots
  generalize ((ccmTakenItems E items).getLast?.map HidItem.logicalMaximum).getD 0 = lm at hparse ⊢
  have hdesc : 1 ≤ if lm < 1 then ((fingerCloses E items).length : Int) else lm := by
    split_ifs <;> omega
  have hmax : ((wmtHidParse E true sc items).2.ai wmtSlot).max =
      min (if lm < 1 then ((fingerCloses E items).length : Int) else lm) E.maxMtSlots - 1 := by
    rw [hparse]
  rw [contMaxRun_slot E hE reports _ (by omega) (by omega), hparse]
  cases hl : lastNonzero (contMaxReads E (wmtHidParse E true sc items).2 reports) with
  | none => dsimp only; exact ⟨rfl, rfl, by omega, by omega⟩
  | some d =>
    have := lastNonzero_ne_zero hl
    dsimp only; exact ⟨rfl, rfl, by omega, by omega⟩

/-- One report whose bytes are all 10, after the parse of `sampleTouchpad`. -/
theorem contMaxRun_slotRange_sample :
    Hid.freeBSD.maxMtSlots < 2 ^ 32 ∧ (wmtHidParse Hid.freeBSD true {} sampleTouchpad).1 ≠ 0 ∧
      sampleTouchpad.countP (fun hi => hi.kind == .endcollection) < 2 ^ 31 ∧
      ((contMaxRun Hid.freeBSD (wmtHidParse Hid.freeBSD true {} sampleTouchpad).2
          [(fun _ => 10, 2)]).ai wmtSlot).min = 0 ∧
      ((contMaxRun Hid.freeBSD (wmtHidParse Hid.freeBSD true {} sampleTouchpad).2
          [(fun _ => 10, 2)]).ai wmtSlot).max =
        claimedSlots Hid.freeBSD sampleTouchpad (contMaxReads Hid.freeBSD
          (wmtHidParse Hid.freeBSD true {} sampleTouchpad).2 [(fun _ => 10, 2)]) - 1 ∧
      1 ≤ claimedSlots Hid.freeBSD sampleTouchpad (contMaxReads Hid.freeBSD
          (wmtHidParse Hid.freeBSD true {} sampleTouchpad).2 [(fun _ => 10, 2)]) ∧
      claimedSlots Hid.freeBSD sampleTouchpad (contMaxReads Hid.freeBSD
          (wmtHidParse Hid.freeBSD true {} sampleTouchpad).2 [(fun _ => 10, 2)]) ≤
        Hid.freeBSD.maxMtSlots :=
  ⟨by decide, by decide, by decide,
    contMaxRun_slotRange Hid.freeBSD (by decide) {} sampleTouchpad [(fun _ => 10, 2)] (by decide)
      (by decide)⟩

end Imt
