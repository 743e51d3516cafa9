import Imt.Parse.Probe

/-!
# Which descriptors `wmt_hid_parse` accepts

`mtAccepts` states on the descriptor what `wmt_hid_parse` checks, and `touchType` what it then
returns:

* the last absolute Contact Count Maximum feature item directly inside a touch screen or touch
  pad top-level collection (`ccmItems`) has a report id whose low byte is nonzero: the walk
  keeps `cont_max_rid` in a `uint8_t` and takes `0` for "not found", so a descriptor without
  report ids (all in report `0`) is refused;
* the input walk accepts a Contact Count and a Scan Time item at depth 1 (`topItems`);
* it counts a finger collection (`fingerCloses`);
* it offers an item of every required channel's usage to the first finger (`fingerItems`).

* `inputWalk_caps`: the `caps` bit of a channel that is the first of its usage is set exactly
  when the first finger has an item of that usage, with or without a softc.
* `wmtHidParse_type`: on a well-nested stream `wmt_hid_parse` returns `touchType` when
  `mtAccepts` holds and `0` otherwise, and `touchType` is then `HUD_TOUCHSCREEN` or
  `HUD_TOUCHPAD`.
* `wmtHidParse_noReportId`: a one-finger touch pad without report ids meets every other check
  and is refused.
-/

namespace Imt

section

variable (E : Hid)

/-! ## The `caps` bits of first channels -/

theorem probeItem_caps {c : Fin wmtNUsages} (hc : FirstChan E c) (l : InputLocals)
    (hi : HidItem) :
    usageSupported (inputItem E false l hi).caps c =
      (usageSupported l.caps c || fingerPick E 0 (wmtHidMap E c).usage l.ctl hi) := by
  have hmax := E.maxMtSlots_pos
  unfold inputItem fingerPick
  cases hk : hi.kind <;> dsimp only <;> try simp [hk]
  by_cases ha : l.ctl.accepts E hi = true
  swap
  · simp [ha]
  -- the items that do not go to the search keep `caps`
  by_cases h1 : hi.collevel = 1
  · simp [ha, h1, apply_ite InputLocals.caps]
  by_cases hf : l.ctl.fingerColl = true
  swap
  · simp [ha, h1, hf, apply_ite InputLocals.caps]
  by_cases h2 : hi.collevel = 2
  swap
  · simp [ha, h1, h2, apply_ite InputLocals.caps]
  by_cases h0 : 0 < l.ctl.cont
  · simp [ha, h1, hf, h2, h0, Nat.pos_iff_ne_zero.mp h0, apply_ite InputLocals.caps]
  -- the first finger's search
  rw [Nat.eq_zero_of_not_pos h0]
  simp [ha, h1, hf, h2, Nat.not_le.mpr hmax]
  by_cases hu : (wmtHidMap E c).usage = hi.usage
  · rw [probeSearch_first E hi 0 _ hc hu]
    simp [hu]
  · rw [probeSearch_other E hi 0 _ hu]
    simp [Ne.symm hu]

/-- Without a softc, a first channel's `caps` bit is set when the first finger has an item of
its usage. -/
theorem probeWalk_caps {c : Fin wmtNUsages} (hc : FirstChan E c) (items : List HidItem)
    (l : InputLocals) :
    usageSupported (items.foldl (inputItem E false) l).caps c =
      (usageSupported l.caps c ||
        !(picks (InputCtl.step E) (fingerPick E 0 (wmtHidMap E c).usage) l.ctl items).isEmpty) := by
  rw [foldl_flag (inputItem E false) (fun l => fingerPick E 0 (wmtHidMap E c).usage l.ctl)
      (fun l => usageSupported l.caps c) (probeItem_caps E hc) items l,
    picks_proj _ (InputCtl.step E) InputLocals.ctl _ (inputItem_ctl E false)]

/-- With a softc whose first row of locations is empty, or without one, a first channel's
`caps` bit is set exactly when the first finger has an item of its usage. -/
theorem inputWalk_caps (attach : Bool) (sc : ImtSoftc) (hs : ∀ c, (sc.locs 0 c).size = 0)
    {c : Fin wmtNUsages} (hc : FirstChan E c) (items : List HidItem) :
    usageSupported (inputWalk E attach sc items).caps c =
      !(fingerItems E 0 (wmtHidMap E c).usage items).isEmpty := by
  have hp := probeWalk_caps E hc items { sc := sc }
  rw [usageSupported_zero, Bool.false_or] at hp
  cases attach
  · exact hp
  · exact ((probeSim_walk E items _ _ ⟨rfl, fun _ _ => rfl, fun c _ h => absurd (hs c) h⟩).caps c
      hc).symm.trans hp

/-! ## The type -/

theorem touchKind_ne_zero (hi : HidItem) : touchKind E hi ≠ 0 := by
  unfold touchKind; split
  exacts [E.hudTouchpad_pos.ne', E.hudTouchscreen_pos.ne']

theorem InputCtl.step_touchColl_type {c : InputCtl} (h : c.touchColl = true → c.type ≠ 0)
    (hi : HidItem) : (c.step E hi).touchColl = true → (c.step E hi).type ≠ 0 := by
  intro ht
  rw [InputCtl.step_type]
  split
  · exact touchKind_ne_zero E hi
  rename_i ho
  refine h ?_
  -- a step that opens no touch collection sets no `touch_coll`
  unfold touchOpen touchUsage at ho
  unfold InputCtl.step InputCtl.collection InputCtl.endcollection InputCtl.input at ht
  cases hk : hi.kind <;> simp only [hk, apply_ite InputCtl.touchColl, ite_self] at ht ho <;>
    try exact ht
  case collection =>
    by_cases h1 : hi.collevel = 1
    · by_cases hp : hi.usage = E.hidUsage2 E.hupDigitizers E.hudTouchpad
      · simp [h1, hp] at ho
      · by_cases hs : hi.usage = E.hidUsage2 E.hupDigitizers E.hudTouchscreen
        · simp [h1, hs] at ho
        · simpa [h1, hp, hs] using ht
    · simpa [h1] using ht
  case endcollection => split_ifs at ht <;> exact ht

theorem foldl_step_touchColl_type (items : List HidItem) (c : InputCtl)
    (h : c.touchColl = true → c.type ≠ 0) :
    (items.foldl (InputCtl.step E) c).touchColl = true →
      (items.foldl (InputCtl.step E) c).type ≠ 0 := by
  induction items generalizing c with
  | nil => exact h
  | cons hi his ih => exact ih _ (InputCtl.step_touchColl_type E h hi)

theorem foldl_step_type_ne_zero (items : List HidItem) {c : InputCtl} (h : c.type ≠ 0) :
    (items.foldl (InputCtl.step E) c).type ≠ 0 := by
  induction items generalizing c with
  | nil => exact h
  | cons hi his ih =>
    refine ih ?_
    rw [InputCtl.step_type]
    split
    · exact touchKind_ne_zero E hi
    · exact h

/-- The type of the last touch collection opened at depth 1, `0` for none. -/
def touchType (items : List HidItem) : Nat :=
  ((items.filter (touchOpen E)).getLast?.map (touchKind E)).getD 0

/-- An accepted item lies in a touch collection, so the type is set. -/
theorem touchType_pos {u : Int} {items : List HidItem} (h : topItems E u items ≠ []) :
    0 < touchType E items := by
  obtain ⟨hi, hm⟩ := List.exists_mem_of_ne_nil _ h
  obtain ⟨pre, post, rfl, hp⟩ := (mem_picks _ _).mp hm
  have ht : (pre.foldl (InputCtl.step E) {}).touchColl = true := by
    simp only [topPick, InputCtl.accepts, Bool.and_eq_true] at hp
    exact hp.1.1.2.1.2
  have hne := foldl_step_touchColl_type E pre {} (fun h => absurd h Bool.false_ne_true) ht
  rw [touchType, ← ctlWalk_type, ctlWalk, List.foldl_append, List.foldl_cons]
  exact Nat.pos_of_ne_zero (foldl_step_type_ne_zero E post
    (foldl_step_type_ne_zero E [hi] hne))

/-- What `wmt_hid_parse` checks, stated on the descriptor. -/
def mtAccepts (items : List HidItem) : Bool :=
  ((ccmItems E items).getLast?.any fun hi => hi.reportID % 256 != 0) &&
    !(topItems E (E.hidUsage2 E.hupDigitizers E.hudContactcount) items).isEmpty &&
    !(topItems E (E.hidUsage2 E.hupDigitizers E.hudScanTime) items).isEmpty &&
    !(fingerCloses E items).isEmpty &&
    !wmtUsages.any fun i =>
      (wmtHidMap E i).required && (fingerItems E 0 (wmtHidMap E i).usage items).isEmpty

theorem beq_zero_length (l : List HidItem) : (l.length == 0) = l.isEmpty := by
  cases l <;> rfl

theorem getD_map_getLast?_eq_zero (o : Option HidItem) :
    ((o.map fun hi => hi.reportID % 256).getD 0 == 0) = !(o.any fun hi => hi.reportID % 256 != 0) := by
  cases o <;> simp [bne]

/-- `wmt_hid_parse` returns the type of the last touch collection when the descriptor passes
`mtAccepts`, and `0` otherwise; the type is then nonzero. -/
theorem wmtHidParse_type (attach : Bool) (sc : ImtSoftc) (items : List HidItem)
    (hw : wellNested 0 items = true) (hs : ∀ c, (sc.locs 0 c).size = 0) :
    (wmtHidParse E attach sc items).1 = (if mtAccepts E items then touchType E items else 0) ∧
      (mtAccepts E items = true → 0 < touchType E items) := by
  refine ⟨?_, fun h => ?_⟩
  · have hcaps : ∀ c, FirstChan E c →
        usageSupported (inputWalk E attach (featureWalk E attach sc items).sc items).caps c =
          !(fingerItems E 0 (wmtHidMap E c).usage items).isEmpty :=
      fun c hc => inputWalk_caps E attach _ (by rw [featureWalk_locs]; exact hs) hc items
    have hreq := required_any_congr E hcaps
    simp only [Bool.not_not] at hreq
    unfold wmtHidParse
    simp only [inputWalk_ctl, ctlWalk_contCountFound, ctlWalk_scanTimeFound, ctlWalk_cont,
      ctlWalk_type, hreq, featureWalk_contMaxRid E attach sc items hw, getD_map_getLast?_eq_zero,
      mtAccepts, touchType, Bool.not_not, beq_zero_length]
    generalize ((ccmItems E items).getLast?.any fun hi => hi.reportID % 256 != 0) = a
    generalize (topItems E (E.hidUsage2 E.hupDigitizers E.hudContactcount) items).isEmpty = b
    generalize (topItems E (E.hidUsage2 E.hupDigitizers E.hudScanTime) items).isEmpty = b'
    generalize (fingerCloses E items).isEmpty = d
    generalize (wmtUsages.any fun i =>
      (wmtHidMap E i).required && (fingerItems E 0 (wmtHidMap E i).usage items).isEmpty) = r
    cases attach <;> cases a <;> cases b <;> cases b' <;> cases d <;> cases r <;> rfl
  · simp only [mtAccepts, Bool.and_eq_true, Bool.not_eq_true', List.isEmpty_eq_false] at h
    exact touchType_pos E h.1.1.1.2

end

theorem wmtHidParse_type_sample :
    wellNested 0 sampleTouchpad = true ∧ (∀ c, (({} : ImtSoftc).locs 0 c).size = 0) ∧
      ((wmtHidParse Hid.freeBSD true {} sampleTouchpad).1 =
          (if mtAccepts Hid.freeBSD sampleTouchpad then touchType Hid.freeBSD sampleTouchpad
            else 0) ∧
        (mtAccepts Hid.freeBSD sampleTouchpad = true → 0 < touchType Hid.freeBSD sampleTouchpad)) :=
  ⟨by decide, fun _ => rfl, wmtHidParse_type _ _ _ _ (by decide) fun _ => rfl⟩

/-- `sampleTouchpad` without report ids: every item in report `0`. -/
def noReportIdTouchpad : List HidItem := sampleTouchpad.map fun hi => { hi with reportID := 0 }

/-- It has a Contact Count Maximum item in a touch pad collection, accepted Contact Count and
Scan Time items, a counted finger collection and every required channel's item in it, and
`wmt_hid_parse` refuses it. -/
theorem wmtHidParse_noReportId :
    wellNested 0 noReportIdTouchpad = true ∧ ccmItems Hid.freeBSD noReportIdTouchpad ≠ [] ∧
      topItems Hid.freeBSD (Hid.freeBSD.hidUsage2 0x0d 0x54) noReportIdTouchpad ≠ [] ∧
      topItems Hid.freeBSD (Hid.freeBSD.hidUsage2 0x0d 0x56) noReportIdTouchpad ≠ [] ∧
      fingerCloses Hid.freeBSD noReportIdTouchpad ≠ [] ∧
      (∀ i, (wmtHidMap Hid.freeBSD i).required = true →
        fingerItems Hid.freeBSD 0 (wmtHidMap Hid.freeBSD i).usage noReportIdTouchpad ≠ []) ∧
      (wmtHidParse Hid.freeBSD true {} noReportIdTouchpad).1 = 0 := by
  decide

end Imt
