import Imt.Parse.Pin
import Imt.Intr

/-!
# Contacts past `MAX_MT_SLOTS`

`wmt_hid_parse` counts every finger collection (`cont`) but binds locations only for the first
`MAX_MT_SLOTS` of them, and stores the count unclamped in `nconts_per_report`. `imt_intr` then
visits `MIN(nconts_todo, nconts_per_report)` contacts and reads `sc->locs[cont]` for each, an
array of `MAX_MT_SLOTS` rows.

* `wmtHidParse_manyFingers`: a touch pad with `n + 1` finger collections is accepted as a touch
  pad with `nconts_per_report = n + 1`, whatever `n`.
* `intrContacts_manyFingers`, `runContacts_manyFingers`, `imtIntr_rows_manyFingers`: a report of
  it whose Contact Count is at least `n + 1` makes `imt_intr` visit contacts `0 .. n` and read
  their rows of `sc->locs`, whatever the counter held.
* `imtIntr_contactPastSlots`: with `MAX_MT_SLOTS + 1` fingers and a Contact Count of
  `MAX_MT_SLOTS + 1`, contact `MAX_MT_SLOTS` is visited and its row read: a row past the array.

The descriptor's walks are computed block by block: the state before finger collection `k` is
`ctlAt k`, and a block takes it to `ctlAt (k + 1)`.
-/

namespace Imt

/-- The items before the finger collections: a touch pad collection in report 1 with a Contact
Count Maximum of 17 in feature report 2, the Contact Count in byte 0 and the Scan Time in bytes
1-2. -/
def manyFingerHeader : List HidItem :=
  [.coll 1 (Hid.freeBSD.hidUsage2 0x0d 0x05) 1,
    .field .feature 1 (Hid.freeBSD.hidUsage2 0x0d 0x55) 2 0 8 17,
    .field .input 1 (Hid.freeBSD.hidUsage2 0x0d 0x54) 1 0 8 17,
    .field .input 1 (Hid.freeBSD.hidUsage2 0x0d 0x56) 1 8 16 65535]

/-- Finger collection `k`: tip switch, X, Y and contact id, a byte each from byte `3 + 4 * k`. -/
def fingerColl (k : Nat) : List HidItem :=
  [.coll 2 (Hid.freeBSD.hidUsage2 0x0d 0x22) 1,
    .field .input 2 (Hid.freeBSD.hidUsage2 0x0d 0x42) 1 (24 + 32 * k) 8 1,
    .field .input 2 (Hid.freeBSD.hidUsage2 0x01 0x30) 1 (32 + 32 * k) 8 255,
    .field .input 2 (Hid.freeBSD.hidUsage2 0x01 0x31) 1 (40 + 32 * k) 8 255,
    .field .input 2 (Hid.freeBSD.hidUsage2 0x0d 0x51) 1 (48 + 32 * k) 8 255,
    .ecoll 1]

/-- The finger collections `m .. m + n - 1`. -/
def fingerColls (m n : Nat) : List HidItem := (List.range' m n).flatMap fingerColl

/-- A touch pad with `n` finger collections. -/
def manyFingerTouchpad (n : Nat) : List HidItem :=
  manyFingerHeader ++ fingerColls 0 n ++ [.ecoll 0]

/-! ## The walks, block by block -/

/-- An item without its location, which the control walk never reads. -/
def HidItem.eraseLoc (hi : HidItem) : HidItem := { hi with loc := default }

theorem InputCtl.step_eraseLoc (E : Hid) (c : InputCtl) (hi : HidItem) :
    c.step E hi.eraseLoc = c.step E hi := rfl

theorem foldl_step_eraseLoc (E : Hid) (items : List HidItem) (c : InputCtl) :
    (items.map HidItem.eraseLoc).foldl (InputCtl.step E) c = items.foldl (InputCtl.step E) c := by
  induction items generalizing c with
  | nil => rfl
  | cons hi his ih => rw [List.map_cons, List.foldl_cons, InputCtl.step_eraseLoc, ih]; rfl

section Shift

variable (E : Hid) (c : InputCtl) (hi : HidItem) (j : Nat)

theorem InputCtl.collection_shift :
    InputCtl.collection E { c with cont := c.cont + j } hi =
      { c.collection E hi with cont := (c.collection E hi).cont + j } := by
  unfold InputCtl.collection
  by_cases h : (hi.collevel == 1 && hi.usage == E.hidUsage2 E.hupDigitizers E.hudTouchscreen) =
      true <;>
    simp only [h, if_true, if_false, Bool.false_eq_true,
      apply_ite (fun d : InputCtl => { d with cont := d.cont + j })]

theorem InputCtl.endcollection_shift :
    InputCtl.endcollection { c with cont := c.cont + j } hi =
      { c.endcollection hi with cont := (c.endcollection hi).cont + j } := by
  simp only [InputCtl.endcollection, apply_ite (fun d : InputCtl => { d with cont := d.cont + j }),
    Nat.add_right_comm c.cont 1 j]

theorem InputCtl.input_shift :
    InputCtl.input E { c with cont := c.cont + j } hi =
      { c.input E hi with cont := (c.input E hi).cont + j } := by
  simp only [InputCtl.input, apply_ite (fun d : InputCtl => { d with cont := d.cont + j })]; rfl

/-- The control step reads `cont` only to count a finger collection. -/
theorem InputCtl.step_shift :
    InputCtl.step E { c with cont := c.cont + j } hi =
      { c.step E hi with cont := (c.step E hi).cont + j } := by
  unfold InputCtl.step
  cases hi.kind
  case collection => exact InputCtl.collection_shift E c hi j
  case endcollection => exact InputCtl.endcollection_shift c hi j
  case input => exact InputCtl.input_shift E c hi j
  all_goals rfl

end Shift

theorem foldl_step_shift (E : Hid) (items : List HidItem) (c : InputCtl) (j : Nat) :
    items.foldl (InputCtl.step E) { c with cont := c.cont + j } =
      { items.foldl (InputCtl.step E) c with cont := (items.foldl (InputCtl.step E) c).cont + j } := by
  induction items generalizing c with
  | nil => rfl
  | cons hi his ih => rw [List.foldl_cons, InputCtl.step_shift, ih]; rfl

/-- The input walk's control locals before finger collection `k`. -/
def ctlAt (k : Nat) : InputCtl :=
  { touchColl := true, type := 5, reportId := 1, cont := k, contCountFound := true,
    scanTimeFound := true }

theorem ctlWalk_manyFingerHeader : ctlWalk Hid.freeBSD manyFingerHeader = ctlAt 0 := by decide

/-- A finger collection counts one finger. -/
theorem foldl_step_fingerColl (k : Nat) :
    (fingerColl k).foldl (InputCtl.step Hid.freeBSD) (ctlAt k) = ctlAt (k + 1) := by
  have hloc : (fingerColl k).map HidItem.eraseLoc = (fingerColl 0).map HidItem.eraseLoc := rfl
  have h0 : (fingerColl 0).foldl (InputCtl.step Hid.freeBSD) (ctlAt 0) = ctlAt 1 := by decide
  calc (fingerColl k).foldl (InputCtl.step Hid.freeBSD) (ctlAt k)
      = (fingerColl 0).foldl (InputCtl.step Hid.freeBSD) { ctlAt 0 with cont := (ctlAt 0).cont + k } := by
        rw [← foldl_step_eraseLoc, hloc, foldl_step_eraseLoc, ctlAt, ctlAt, Nat.zero_add]
    _ = ctlAt (k + 1) := by rw [foldl_step_shift, h0]; simp [ctlAt, Nat.add_comm]

theorem fingerColls_succ (m n : Nat) :
    fingerColls m (n + 1) = fingerColl m ++ fingerColls (m + 1) n := by
  simp [fingerColls, List.range'_succ]

theorem foldl_step_fingerColls (m n : Nat) :
    (fingerColls m n).foldl (InputCtl.step Hid.freeBSD) (ctlAt m) = ctlAt (m + n) := by
  induction n generalizing m with
  | zero => rfl
  | succ n ih =>
    rw [fingerColls_succ, List.foldl_append, foldl_step_fingerColl, ih, Nat.add_right_comm,
      Nat.add_assoc]

theorem foldl_featureItem_fingerColl (k : Nat) (w : FeatureLocals) :
    (fingerColl k).foldl (featureItem Hid.freeBSD true) w = w := rfl

/-- The feature walk ignores the finger collections. -/
theorem foldl_featureItem_fingerColls (m n : Nat) (w : FeatureLocals) :
    (fingerColls m n).foldl (featureItem Hid.freeBSD true) w = w := by
  induction n generalizing m with
  | zero => rfl
  | succ n ih => rw [fingerColls_succ, List.foldl_append, foldl_featureItem_fingerColl, ih]

/-- No item of a finger collection is a Contact Count item. -/
theorem topPick_fingerColls (m n : Nat) :
    ∀ hi ∈ fingerColls m n, ∀ c, topPick Hid.freeBSD
      (Hid.freeBSD.hidUsage2 Hid.freeBSD.hupDigitizers Hid.freeBSD.hudContactcount) c hi = false := by
  intro hi hm c
  obtain ⟨k, -, hk⟩ := List.mem_flatMap.mp hm
  simp only [fingerColl, List.mem_cons, List.mem_singleton, List.not_mem_nil, or_false] at hk
  rcases hk with rfl | rfl | rfl | rfl | rfl | rfl <;>
    simp [topPick, HidItem.field, HidItem.coll, HidItem.ecoll]

/-- Once a finger is counted, the first finger takes no item. -/
theorem picks_fingerPick_zero {c : InputCtl} (hc : 0 < c.cont) (u : Int) (items : List HidItem) :
    picks (InputCtl.step Hid.freeBSD) (fingerPick Hid.freeBSD 0 u) c items = [] := by
  induction items generalizing c with
  | nil => rfl
  | cons hi his ih =>
    have hp : fingerPick Hid.freeBSD 0 u c hi = false := by
      simp [fingerPick, Nat.pos_iff_ne_zero.mp hc]
    rw [picks_cons, hp, ih (by rw [InputCtl.step_cont]; omega)]
    rfl

/-! ## The parse -/

theorem manyFingerTouchpad_succ (n : Nat) :
    manyFingerTouchpad (n + 1) = manyFingerHeader ++ fingerColl 0 ++ fingerColls 1 n ++ [.ecoll 0] := by
  simp [manyFingerTouchpad, fingerColls_succ]

theorem ctlWalk_manyFingerTouchpad (n : Nat) :
    ctlWalk Hid.freeBSD (manyFingerTouchpad n) = { ctlAt n with touchColl := false } := by
  rw [ctlWalk, manyFingerTouchpad, List.foldl_append, List.foldl_append, ← ctlWalk,
    ctlWalk_manyFingerHeader, foldl_step_fingerColls, Nat.zero_add]
  rfl

theorem featureWalk_manyFingerTouchpad (n : Nat) :
    (featureWalk Hid.freeBSD true {} (manyFingerTouchpad n)).contMaxRid = 2 := by
  rw [featureWalk, manyFingerTouchpad, List.foldl_append, List.foldl_append,
    foldl_featureItem_fingerColls]
  rfl

/-- The first finger's items are those of the first finger collection. -/
theorem fingerItems_manyFingerTouchpad (n : Nat) (u : Int) :
    fingerItems Hid.freeBSD 0 u (manyFingerTouchpad (n + 1)) =
      fingerItems Hid.freeBSD 0 u (manyFingerHeader ++ fingerColl 0) := by
  have h1 : (manyFingerHeader ++ fingerColl 0).foldl (InputCtl.step Hid.freeBSD) {} = ctlAt 1 := by
    decide
  have h2 : picks (InputCtl.step Hid.freeBSD) (fingerPick Hid.freeBSD 0 u) (ctlAt 1)
      (fingerColls 1 n ++ [.ecoll 0]) = [] :=
    picks_fingerPick_zero (by decide) u _
  rw [fingerItems, fingerItems, manyFingerTouchpad_succ, List.append_assoc _ (fingerColls 1 n),
    picks_append _ _ _ (manyFingerHeader ++ fingerColl 0), h1, h2, List.append_nil]

/-- The required channels all get an item of the first finger collection. -/
theorem required_manyFingerTouchpad (n : Nat) {sc : ImtSoftc} (hs : ∀ c, (sc.locs 0 c).size = 0) :
    wmtUsages.any (fun i => (wmtHidMap Hid.freeBSD i).required &&
      !usageSupported (inputWalk Hid.freeBSD true sc (manyFingerTouchpad (n + 1))).caps i) = false := by
  rw [required_any_congr Hid.freeBSD fun c hc => inputWalk_caps Hid.freeBSD true sc hs hc _]
  simp only [fingerItems_manyFingerTouchpad]
  decide

theorem contCountLoc_manyFingerTouchpad (n : Nat) (sc : ImtSoftc) :
    (inputWalk Hid.freeBSD true sc (manyFingerTouchpad n)).sc.contCountLoc = ⟨8, 1, 0⟩ := by
  rw [inputWalk_contCountLoc, topItems, manyFingerTouchpad, picks_append, picks_append,
    picks_eq_nil _ _ (topPick_fingerColls 0 n)]
  rfl

/-- A touch pad with `n + 1` finger collections is accepted, in report 1, with the Contact Count
location of its header and `nconts_per_report = n + 1`. -/
theorem wmtHidParse_manyFingers (n : Nat) :
    (wmtHidParse Hid.freeBSD true {} (manyFingerTouchpad (n + 1))).1 = Hid.freeBSD.hudTouchpad ∧
      (wmtHidParse Hid.freeBSD true {} (manyFingerTouchpad (n + 1))).2.reportId = 1 ∧
      (wmtHidParse Hid.freeBSD true {} (manyFingerTouchpad (n + 1))).2.contCountLoc = ⟨8, 1, 0⟩ ∧
      (wmtHidParse Hid.freeBSD true {} (manyFingerTouchpad (n + 1))).2.ncontsPerReport =
        BitVec.ofNat 32 (n + 1) := by
  have hreq := required_manyFingerTouchpad n (show ∀ c,
      ((featureWalk Hid.freeBSD true {} (manyFingerTouchpad (n + 1))).sc.locs 0 c).size = 0 from
    fun c => by rw [featureWalk_locs]; rfl)
  simp only [wmtHidParse, featureWalk_manyFingerTouchpad, inputWalk_ctl, ctlWalk_manyFingerTouchpad,
    hreq]
  simp [ctlAt, wmtHidParseFinish_reportId, wmtHidParseFinish_contCountLoc,
    wmtHidParseFinish_ncontsPerReport, contCountLoc_manyFingerTouchpad, inputWalk_ctl,
    ctlWalk_manyFingerTouchpad]
  rfl

/-! ## The interrupt -/

/-- The zeroing of lines 444-445 never changes what `hid_get_data_unsigned` reads: the bytes it
clears are at or past `len`, which the read already takes as zero. -/
theorem freeBSDGetData_zeroTail (buf : Buf) (len isize : Nat) (loc : HidLocation) :
    freeBSDGetData (zeroTail buf len isize) len loc = freeBSDGetData buf len loc := by
  unfold zeroTail
  split
  · unfold freeBSDGetData
    split
    · rfl
    dsimp only
    congr 2
    funext j acc
    by_cases h : (loc.pos.toNat + j) / 8 < len
    · simp [h, Nat.not_le.mpr h]
    · simp [h]
  · rfl

/-- A report whose Contact Count is at least `n + 1` makes `imt_intr` on the touch pad with `n + 1`
fingers visit contacts `0 .. n`, whatever the counter held. -/
theorem intrContacts_manyFingers (n : Nat) (t : BitVec 32) (buf : Buf) (len : Nat)
    (h : n + 1 ≤ (freeBSDGetData buf len ⟨8, 1, 0⟩).toNat) :
    intrContacts Hid.freeBSD
      { (wmtHidParse Hid.freeBSD true {} (manyFingerTouchpad (n + 1))).2 with ncontsTodo := t }
      buf len = List.range (n + 1) := by
  obtain ⟨-, -, hloc, hper⟩ := wmtHidParse_manyFingers n
  have hlt := (freeBSDGetData buf len ⟨8, 1, 0⟩).isLt
  have hc : freeBSDGetData buf len ⟨8, 1, 0⟩ ≠ 0 := fun h0 => by
    rw [h0] at h; simp at h
  simp only [intrContacts, reportCount, hloc, hper]
  rw [show Hid.freeBSD.hidGetDataUnsigned = freeBSDGetData from rfl, freeBSDGetData_zeroTail,
    ncontsTodoOf, if_pos hc, toNat_contactBound, BitVec.toNat_ofNat, Nat.mod_eq_of_lt (by omega),
    min_eq_right h]

/-- The same for a run of one report of id 1. -/
theorem runContacts_manyFingers (n : Nat) (slotOf : List EvdevEvent → BitVec 32 → Int)
    (log : List EvdevEvent) (t : BitVec 32) (r : Report) (hr : r.id = 1)
    (h : n + 1 ≤ (freeBSDGetData r.buf r.len ⟨8, 1, 0⟩).toNat) :
    runContacts Hid.freeBSD slotOf
      { (wmtHidParse Hid.freeBSD true {} (manyFingerTouchpad (n + 1))).2 with ncontsTodo := t }
      log [r] = List.range (n + 1) := by
  obtain ⟨-, hid, -, -⟩ := wmtHidParse_manyFingers n
  rw [runContacts, if_pos (hid.trans hr.symm), intrContacts_manyFingers n t _ _ h, runContacts,
    List.append_nil]

/-- The same for the rows of `sc->locs` that the call reads. -/
theorem imtIntr_rows_manyFingers (n : Nat) (slotOf : List EvdevEvent → BitVec 32 → Int)
    (log : List EvdevEvent) (t : BitVec 32) (r : Report) (hr : r.id = 1)
    (h : n + 1 ≤ (freeBSDGetData r.buf r.len ⟨8, 1, 0⟩).toNat) :
    (imtIntr Hid.freeBSD slotOf
      { (wmtHidParse Hid.freeBSD true {} (manyFingerTouchpad (n + 1))).2 with ncontsTodo := t }
      log r.buf r.len r.id).2.2.2 = List.range (n + 1) := by
  obtain ⟨htype, hid, -, -⟩ := wmtHidParse_manyFingers n
  -- the parse reports `WMT_TIP_SWITCH`, a required channel, in `caps`
  have hcaps : wmtUsages.any (usageSupported
      (wmtHidParse Hid.freeBSD true {} (manyFingerTouchpad (n + 1))).2.caps) = true :=
    List.any_eq_true.2 ⟨wmtTipSwitch, mem_wmtUsages _,
      wmtHidParse_required Hid.freeBSD (by rw [htype]; decide) (by decide)⟩
  refine (imtIntr_rows Hid.freeBSD slotOf ?_ log r.buf r.len).trans ?_
  · exact hid.trans hr.symm
  · rw [if_pos hcaps, intrContacts_manyFingers n t _ _ h]

/-- Report 1, of the touch pad's 71 bytes, with a Contact Count of `MAX_MT_SLOTS + 1`. -/
def pastSlotsReport : Report :=
  ⟨fun j => if j = 0 then BitVec.ofNat 8 (Hid.freeBSD.maxMtSlots + 1) else 0, 71, 1⟩

/-- The touch pad with `MAX_MT_SLOTS + 1` fingers is accepted, and its report with a Contact Count
of `MAX_MT_SLOTS + 1` makes `imt_intr` visit contact `MAX_MT_SLOTS` and read row
`MAX_MT_SLOTS` of `sc->locs`, past the array, whatever the counter held. -/
theorem imtIntr_contactPastSlots :
    (wmtHidParse Hid.freeBSD true {} (manyFingerTouchpad (Hid.freeBSD.maxMtSlots + 1))).1 ≠ 0 ∧
      ∀ (slotOf : List EvdevEvent → BitVec 32 → Int) (log : List EvdevEvent) (t : BitVec 32),
        Hid.freeBSD.maxMtSlots ∈ runContacts Hid.freeBSD slotOf
          { (wmtHidParse Hid.freeBSD true {} (manyFingerTouchpad (Hid.freeBSD.maxMtSlots + 1))).2 with
            ncontsTodo := t } log [pastSlotsReport] ∧
        Hid.freeBSD.maxMtSlots ∈ (imtIntr Hid.freeBSD slotOf
          { (wmtHidParse Hid.freeBSD true {} (manyFingerTouchpad (Hid.freeBSD.maxMtSlots + 1))).2 with
            ncontsTodo := t } log pastSlotsReport.buf pastSlotsReport.len pastSlotsReport.id).2.2.2 := by
  obtain ⟨htype, -⟩ := wmtHidParse_manyFingers Hid.freeBSD.maxMtSlots
  refine ⟨by rw [htype]; decide, fun slotOf log t => ⟨?_, ?_⟩⟩
  · rw [runContacts_manyFingers Hid.freeBSD.maxMtSlots slotOf log t pastSlotsReport rfl
      (Nat.le_of_eq rfl)]
    exact List.self_mem_range_succ _
  · rw [imtIntr_rows_manyFingers Hid.freeBSD.maxMtSlots slotOf log t pastSlotsReport rfl
      (Nat.le_of_eq rfl)]
    exact List.self_mem_range_succ _

end Imt
