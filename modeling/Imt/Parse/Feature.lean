import Imt.Coll
import Imt.Map

/-!
# The first walk of `wmt_hid_parse`: feature items

`featureItem` is one item of the loop at lines 614-658 of `imt.c`, on the locals it sets
(`FeatureLocals`). It looks for the Contact Count Maximum and certificate features inside a
touch screen or touch pad top-level collection, and for the Input Mode feature inside a
configuration collection. `attach` says whether the softc pointer is non-null: `imt_probe`
passes `NULL`, and then nothing is written through it.

* `featureItem_touchColl`: on a well-nested stream `touch_coll` says whether the enclosing
  top-level collection is a touch screen or touch pad.
* `featureWalk_contMaxRid`: `cont_max_rid` is the report id of the last Contact Count Maximum
  item directly inside such a collection (`ccmItems`), `0` without one.
* `featureWalk_contCountMax`: `cont_count_max` is the logical maximum of the last Contact Count
  Maximum item the walk takes (`ccmTakenItems`), `0` without one.
* `featureWalk_thqaCertRid`: `thqa_cert_rid` is the report id of the last THQA certificate item
  met in a touch collection (`thqaPick`); its usage, of page `HUP_MICROSOFT`, is negative as an
  `int`, on the item as in the macro.
* `featureWalk_inputModeRid`: `input_mode_rid` is the report id of the last absolute Input Mode
  item met while `conf_coll` is set; `conf_coll` is never cleared (`foldl_featureItem_confColl`),
  since the clearing test of the close branch stands after its `break`.
* `featureWalk_confCollLeak`: a configuration collection followed by a touch pad collection with
  its own Input Mode item: the walk records the second item, which lies in no configuration
  collection (`confModeItems`).
-/

namespace Imt

/-- `HUMS_THQA_CERT`. -/
def humsThqaCert : Nat := 0xC5

/-- The locals of `wmt_hid_parse` that the feature walk sets, and the softc. -/
structure FeatureLocals where
  touchColl : Bool := false
  confColl : Bool := false
  contCountMax : Int := 0
  contMaxRid : Nat := 0
  thqaCertRid : Nat := 0
  inputModeRid : Nat := 0
  sc : ImtSoftc

section

variable (E : Hid) (attach : Bool)

/-- One feature-walk item. The `uint8_t` report ids keep the low byte of `report_ID`. -/
def featureItem (w : FeatureLocals) (hi : HidItem) : FeatureLocals :=
  match hi.kind with
  | .collection =>
    let w := if hi.collevel == 1 && hi.usage == E.hidUsage2 E.hupDigitizers E.hudTouchscreen
      then { w with touchColl := true } else w
    let w := if hi.collevel == 1 && hi.usage == E.hidUsage2 E.hupDigitizers E.hudTouchpad
      then { w with touchColl := true } else w
    if hi.collevel == 1 && hi.usage == E.hidUsage2 E.hupDigitizers E.hudConfig
      then { w with confColl := true } else w
  | .endcollection =>
    if hi.collevel == 0 && w.touchColl then { w with touchColl := false } else w
  | .feature =>
    if hi.collevel == 1 && w.touchColl && hi.usage == E.hidUsage2 E.hupMicrosoft humsThqaCert
    then { w with thqaCertRid := hi.reportID % 256 }
    else
      let w := if hi.collevel == 1 && w.touchColl && wmtHiAbsolute E hi &&
          hi.usage == E.hidUsage2 E.hupDigitizers E.hudContactMax
        then { w with
          contCountMax := hi.logicalMaximum, contMaxRid := hi.reportID % 256,
          sc := if attach then { w.sc with contMaxLoc := hi.loc } else w.sc }
        else w
      if w.confColl && wmtHiAbsolute E hi && hi.usage == E.hidUsage2 E.hupDigitizers E.hudInputMode
      then { w with
        inputModeRid := hi.reportID % 256,
        sc := if attach then { w.sc with inputModeLoc := hi.loc } else w.sc }
      else w
  | _ => w

/-- The feature walk over a descriptor, from the locals' initial values. -/
def featureWalk (sc : ImtSoftc) (items : List HidItem) : FeatureLocals :=
  items.foldl (featureItem E attach) { sc := sc }

/-- The locals without the softc. -/
def FeatureLocals.erase (w : FeatureLocals) : FeatureLocals := { w with sc := {} }

/-- Two locals agree without their softcs when their other fields agree. -/
theorem FeatureLocals.erase_eq {a b : FeatureLocals} (h : a.touchColl = b.touchColl ∧
    a.confColl = b.confColl ∧ a.contCountMax = b.contCountMax ∧ a.contMaxRid = b.contMaxRid ∧
    a.thqaCertRid = b.thqaCertRid ∧ a.inputModeRid = b.inputModeRid) : a.erase = b.erase := by
  obtain ⟨h1, h2, h3, h4, h5, h6⟩ := h
  simp only [FeatureLocals.erase, h1, h2, h3, h4, h5, h6]

theorem FeatureLocals.erase_of_sc {a : FeatureLocals} (h : a.sc = {}) : a.erase = a := by
  cases a; subst h; rfl

/-- Without a softc nothing is written through it. -/
theorem featureItem_false_sc (w : FeatureLocals) (hi : HidItem) :
    (featureItem E false w hi).sc = w.sc := by
  unfold featureItem
  cases hi.kind <;> simp only [apply_ite FeatureLocals.sc, ite_self, Bool.false_eq_true, if_false]

theorem featureItem_erase (w : FeatureLocals) (hi : HidItem) :
    (featureItem E attach w hi).erase = featureItem E false w.erase hi := by
  rw [← FeatureLocals.erase_of_sc (featureItem_false_sc E w.erase hi)]
  apply FeatureLocals.erase_eq
  unfold featureItem
  cases hi.kind <;> simp only [FeatureLocals.erase, apply_ite FeatureLocals.touchColl,
    apply_ite FeatureLocals.confColl, apply_ite FeatureLocals.contCountMax,
    apply_ite FeatureLocals.contMaxRid, apply_ite FeatureLocals.thqaCertRid,
    apply_ite FeatureLocals.inputModeRid, ite_self, and_self]

/-- The locals other than the softc do not depend on the softc or on whether there is one. -/
theorem featureWalk_erase (sc : ImtSoftc) (items : List HidItem) :
    (featureWalk E attach sc items).erase = featureWalk E false {} items := by
  suffices ∀ w : FeatureLocals, (items.foldl (featureItem E attach) w).erase =
      items.foldl (featureItem E false) w.erase from this _
  induction items with
  | nil => intro w; rfl
  | cons hi his ih => intro w; simp only [List.foldl_cons, ih, featureItem_erase]

theorem featureItem_locs (w : FeatureLocals) (hi : HidItem) :
    (featureItem E attach w hi).sc.locs = w.sc.locs := by
  unfold featureItem
  cases hi.kind <;> simp only [apply_ite FeatureLocals.sc, apply_ite ImtSoftc.locs, ite_self]

theorem featureItem_ai (w : FeatureLocals) (hi : HidItem) :
    (featureItem E attach w hi).sc.ai = w.sc.ai := by
  unfold featureItem
  cases hi.kind <;> simp only [apply_ite FeatureLocals.sc, apply_ite ImtSoftc.ai, ite_self]

theorem featureItem_caps (w : FeatureLocals) (hi : HidItem) :
    (featureItem E attach w hi).sc.caps = w.sc.caps := by
  unfold featureItem
  cases hi.kind <;> simp only [apply_ite FeatureLocals.sc, apply_ite ImtSoftc.caps, ite_self]

/-- The feature walk writes no location, axis info or `caps` of the softc. -/
theorem featureWalk_sc (sc : ImtSoftc) (items : List HidItem) :
    (featureWalk E attach sc items).sc.locs = sc.locs ∧
      (featureWalk E attach sc items).sc.ai = sc.ai ∧
      (featureWalk E attach sc items).sc.caps = sc.caps := by
  suffices ∀ w : FeatureLocals, (items.foldl (featureItem E attach) w).sc.locs = w.sc.locs ∧
      (items.foldl (featureItem E attach) w).sc.ai = w.sc.ai ∧
      (items.foldl (featureItem E attach) w).sc.caps = w.sc.caps from this _
  induction items with
  | nil => intro w; exact ⟨rfl, rfl, rfl⟩
  | cons hi his ih =>
    intro w
    rw [List.foldl_cons, (ih _).1, (ih _).2.1, (ih _).2.2, featureItem_locs, featureItem_ai,
      featureItem_caps]
    exact ⟨rfl, rfl, rfl⟩

theorem featureWalk_locs (sc : ImtSoftc) (items : List HidItem) :
    (featureWalk E attach sc items).sc.locs = sc.locs := by
  suffices ∀ w : FeatureLocals, (items.foldl (featureItem E attach) w).sc.locs = w.sc.locs
    from this _
  induction items with
  | nil => intro w; rfl
  | cons hi his ih => intro w; rw [List.foldl_cons, ih, featureItem_locs]

/-! ## The Contact Count Maximum item -/

/-- An absolute Contact Count Maximum feature item directly inside a touch screen or touch pad
top-level collection, seen with the collections open before it. -/
def ccmPick (st : List HidItem) (hi : HidItem) : Bool :=
  hi.kind == .feature && hi.collevel == 1 && inTop (touchUsage E) st && wmtHiAbsolute E hi &&
    hi.usage == E.hidUsage2 E.hupDigitizers E.hudContactMax

/-- The Contact Count Maximum items of a descriptor, in stream order. -/
def ccmItems (items : List HidItem) : List HidItem := picks collStep (ccmPick E) [] items

theorem featureItem_touchColl {st : List HidItem} {w : FeatureLocals} {hi : HidItem}
    (hlev : hi.collevel = (collStep st hi).length) (hend : hi.kind = .endcollection → st ≠ [])
    (ht : w.touchColl = inTop (touchUsage E) st) :
    (featureItem E attach w hi).touchColl = inTop (touchUsage E) (collStep st hi) := by
  refine topFlag_step _ hlev hend ht (fun hk => ?_) (fun hk => ?_) (fun h1 h2 => ?_) <;>
    unfold featureItem
  · simp only [hk, touchUsage, apply_ite FeatureLocals.touchColl, ite_self]
    by_cases h1 : hi.collevel = 1
    · by_cases hp : hi.usage = E.hidUsage2 E.hupDigitizers E.hudTouchpad <;> simp [h1, hp]
    · simp [h1]
  · simp only [hk, apply_ite FeatureLocals.touchColl]
    by_cases h0 : hi.collevel = 0 <;> simp [h0]
  · cases hk : hi.kind
    case collection => exact absurd hk h1
    case endcollection => exact absurd hk h2
    all_goals simp only [apply_ite FeatureLocals.touchColl, ite_self]

theorem featureItem_contMaxRid {st : List HidItem} {w : FeatureLocals} {hi : HidItem}
    (ht : w.touchColl = inTop (touchUsage E) st) :
    (featureItem E attach w hi).contMaxRid =
      if ccmPick E st hi then hi.reportID % 256 else w.contMaxRid := by
  have hne : E.hidUsage2 E.hupDigitizers E.hudContactMax ≠ E.hidUsage2 E.hupMicrosoft humsThqaCert :=
    E.usages_get_ne 16 18 (by decide)
  unfold featureItem
  cases hk : hi.kind
  case feature =>
    simp only [apply_ite FeatureLocals.contMaxRid, ccmPick, hk, ← ht, beq_self_eq_true,
      Bool.true_and, ite_self]
    split_ifs with h1 h2 <;> try rfl
    -- a Contact Count Maximum item is no THQA certificate item
    simp only [Bool.and_eq_true, beq_iff_eq] at h1 h2
    exact absurd (h2.2.symm.trans h1.2) hne
  all_goals simp only [show ccmPick E st hi = false by rw [ccmPick, hk]; rfl,
    apply_ite FeatureLocals.contMaxRid, ite_self, Bool.false_eq_true, if_false]

theorem foldl_featureItem_contMaxRid (items st : List HidItem) (w : FeatureLocals)
    (hw : wellNested st.length items = true) (ht : w.touchColl = inTop (touchUsage E) st) :
    (items.foldl (featureItem E attach) w).contMaxRid =
      ((picks collStep (ccmPick E) st items).getLast?.map fun hi => hi.reportID % 256).getD
        w.contMaxRid := by
  induction items generalizing st w with
  | nil => rfl
  | cons hi his ih =>
    obtain ⟨hlev, hend, hw⟩ := (wellNested_cons_iff st hi his).mp hw
    rw [List.foldl_cons, ih _ _ hw (featureItem_touchColl E attach hlev hend ht),
      featureItem_contMaxRid E attach ht, picks_cons, List.getLast?_append]
    cases (picks collStep (ccmPick E) (collStep st hi) his).getLast? <;>
      cases ccmPick E st hi <;> rfl

/-- `cont_max_rid` is the low byte of the last Contact Count Maximum item's report id. -/
theorem featureWalk_contMaxRid (sc : ImtSoftc) (items : List HidItem)
    (hw : wellNested 0 items = true) :
    (featureWalk E attach sc items).contMaxRid =
      ((ccmItems E items).getLast?.map fun hi => hi.reportID % 256).getD 0 :=
  foldl_featureItem_contMaxRid E attach items [] _ hw rfl

/-- Pass 1's own test for a Contact Count Maximum item (lines 640-642), on its locals. -/
def ccmTaken (w : FeatureLocals) (hi : HidItem) : Bool :=
  hi.kind == .feature && hi.collevel == 1 && w.touchColl && wmtHiAbsolute E hi &&
    hi.usage == E.hidUsage2 E.hupDigitizers E.hudContactMax

/-- The Contact Count Maximum items that pass 1 takes, in stream order. -/
def ccmTakenItems (items : List HidItem) : List HidItem :=
  picks (featureItem E false) (ccmTaken E) { sc := {} } items

theorem featureItem_contCountMax (w : FeatureLocals) (hi : HidItem) :
    (featureItem E attach w hi).contCountMax =
      if ccmTaken E w hi then hi.logicalMaximum else w.contCountMax := by
  have hne : E.hidUsage2 E.hupDigitizers E.hudContactMax ≠ E.hidUsage2 E.hupMicrosoft humsThqaCert :=
    E.usages_get_ne 16 18 (by decide)
  unfold featureItem
  cases hk : hi.kind
  case feature =>
    simp only [apply_ite FeatureLocals.contCountMax, ccmTaken, hk, beq_self_eq_true,
      Bool.true_and, ite_self]
    split_ifs with h1 h2 <;> try rfl
    -- a Contact Count Maximum item is no THQA certificate item
    simp only [Bool.and_eq_true, beq_iff_eq] at h1 h2
    exact absurd (h2.2.symm.trans h1.2) hne
  all_goals simp only [show ccmTaken E w hi = false by rw [ccmTaken, hk]; rfl,
    apply_ite FeatureLocals.contCountMax, ite_self, Bool.false_eq_true, if_false]

/-- `cont_count_max` after pass 1 is the logical maximum of the last Contact Count Maximum item
it takes, `0` without one. -/
theorem featureWalk_contCountMax (sc : ImtSoftc) (items : List HidItem) :
    (featureWalk E attach sc items).contCountMax =
      ((ccmTakenItems E items).getLast?.map HidItem.logicalMaximum).getD 0 := by
  rw [featureWalk, foldl_last _ (ccmTaken E) FeatureLocals.contCountMax HidItem.logicalMaximum
    (featureItem_contCountMax E attach) items]
  -- the items taken do not depend on the softc or on whether there is one
  exact congrArg (fun l => (l.getLast?.map HidItem.logicalMaximum).getD 0)
    (picks_proj _ (featureItem E false) FeatureLocals.erase (ccmTaken E) (featureItem_erase E attach)
      items _)

/-! ## The THQA certificate item -/

/-- A feature item of usage `HID_USAGE2(HUP_MICROSOFT, HUMS_THQA_CERT)` directly inside a touch
top-level collection (lines 634-636), on pass 1's locals. -/
def thqaPick (w : FeatureLocals) (hi : HidItem) : Bool :=
  hi.kind == .feature && hi.collevel == 1 && w.touchColl &&
    hi.usage == E.hidUsage2 E.hupMicrosoft humsThqaCert

theorem featureItem_thqaCertRid (w : FeatureLocals) (hi : HidItem) :
    (featureItem E attach w hi).thqaCertRid =
      if thqaPick E w hi then hi.reportID % 256 else w.thqaCertRid := by
  unfold featureItem
  cases hk : hi.kind
  case feature =>
    simp only [apply_ite FeatureLocals.thqaCertRid, thqaPick, hk, beq_self_eq_true, Bool.true_and,
      ite_self]
  all_goals simp only [show thqaPick E w hi = false by rw [thqaPick, hk]; rfl,
    apply_ite FeatureLocals.thqaCertRid, ite_self, Bool.false_eq_true, if_false]

/-- `thqa_cert_rid` is the low byte of the report id of the last THQA certificate item that
pass 1 meets in a touch collection. -/
theorem featureWalk_thqaCertRid (sc : ImtSoftc) (items : List HidItem) :
    (featureWalk E attach sc items).thqaCertRid =
      ((picks (featureItem E attach) (thqaPick E) { sc := sc } items).getLast?.map
        fun hi => hi.reportID % 256).getD 0 :=
  foldl_last _ _ FeatureLocals.thqaCertRid _ (featureItem_thqaCertRid E attach) items _

/- A THQA certificate item of report 4 in a touch pad collection, with the usage that `hid.c`
gives it. -/
example :
    (featureWalk Hid.freeBSD true {}
      [.coll 1 (Hid.freeBSD.hidUsage2 0x0d 0x05) 1,
        .field .feature 1 (toInt32 (0xff00 * 65536 + 0xC5)) 4 0 8 255, .ecoll 0]).thqaCertRid =
      4 := by
  decide

/-! ## The Input Mode item -/

/-- An absolute Input Mode feature item met while `conf_coll` is set. -/
def inputModePick (w : FeatureLocals) (hi : HidItem) : Bool :=
  w.confColl && hi.kind == .feature && wmtHiAbsolute E hi &&
    hi.usage == E.hidUsage2 E.hupDigitizers E.hudInputMode

theorem featureItem_inputModeRid (w : FeatureLocals) (hi : HidItem) :
    (featureItem E attach w hi).inputModeRid =
      if inputModePick E w hi then hi.reportID % 256 else w.inputModeRid := by
  have hne : E.hidUsage2 E.hupDigitizers E.hudInputMode ≠ E.hidUsage2 E.hupMicrosoft humsThqaCert :=
    E.usages_get_ne 17 18 (by decide)
  unfold featureItem
  cases hk : hi.kind
  case feature =>
    simp only [apply_ite FeatureLocals.inputModeRid, apply_ite FeatureLocals.confColl,
      inputModePick, hk, beq_self_eq_true, Bool.true_and, Bool.and_true, ite_self]
    split_ifs with h1 h2 <;> try rfl
    -- an Input Mode item is no THQA certificate item
    simp only [Bool.and_eq_true, beq_iff_eq] at h1 h2
    exact absurd (h2.2.symm.trans h1.2) hne
  all_goals simp only [show inputModePick E w hi = false by
      rw [inputModePick, hk]; cases w.confColl <;> rfl,
    apply_ite FeatureLocals.inputModeRid, ite_self, Bool.false_eq_true, if_false]

/-- `input_mode_rid` is the low byte of the report id of the last Input Mode item met while
`conf_coll` is set. -/
theorem featureWalk_inputModeRid (sc : ImtSoftc) (items : List HidItem) :
    (featureWalk E attach sc items).inputModeRid =
      ((picks (featureItem E attach) (inputModePick E) { sc := sc } items).getLast?.map
        fun hi => hi.reportID % 256).getD 0 :=
  foldl_last _ _ FeatureLocals.inputModeRid _ (featureItem_inputModeRid E attach) items _

theorem featureItem_confColl {w : FeatureLocals} (h : w.confColl = true) (hi : HidItem) :
    (featureItem E attach w hi).confColl = true := by
  unfold featureItem
  cases hi.kind <;> simp only [apply_ite FeatureLocals.confColl, h, ite_self]

/-- Once a configuration collection has been opened, `conf_coll` stays set to the end. -/
theorem foldl_featureItem_confColl (items : List HidItem) {w : FeatureLocals}
    (h : w.confColl = true) : (items.foldl (featureItem E attach) w).confColl = true := by
  induction items generalizing w with
  | nil => exact h
  | cons hi his ih => exact ih (featureItem_confColl E attach h hi)

/-- What `conf_coll` stands for: an absolute Input Mode feature item inside a configuration
top-level collection, between its open and its close. -/
def confModePick (st : List HidItem) (hi : HidItem) : Bool :=
  hi.kind == .feature && inTop (· == E.hidUsage2 E.hupDigitizers E.hudConfig) st &&
    wmtHiAbsolute E hi && hi.usage == E.hidUsage2 E.hupDigitizers E.hudInputMode

/-- The Input Mode items inside configuration collections, in stream order. -/
def confModeItems (items : List HidItem) : List HidItem := picks collStep (confModePick E) [] items

end

/-- A configuration collection with an Input Mode feature in report 2, then a touch pad
collection with its own Input Mode feature in report 5. -/
def confCollLeak : List HidItem :=
  [.coll 1 (Hid.freeBSD.hidUsage2 0x0d 0x0e) 2,
    .field .feature 1 (Hid.freeBSD.hidUsage2 0x0d 0x52) 2 0 8 10,
    .ecoll 0,
    .coll 1 (Hid.freeBSD.hidUsage2 0x0d 0x05) 5,
    .field .feature 1 (Hid.freeBSD.hidUsage2 0x0d 0x52) 5 0 8 10,
    .ecoll 0]

/-- On it the walk records report 5, while the only Input Mode item inside a configuration
collection is in report 2. -/
theorem featureWalk_confCollLeak :
    wellNested 0 confCollLeak = true ∧
      (featureWalk Hid.freeBSD true {} confCollLeak).inputModeRid = 5 ∧
      (confModeItems Hid.freeBSD confCollLeak).map (fun hi => hi.reportID % 256) = [2] := by
  decide

end Imt
