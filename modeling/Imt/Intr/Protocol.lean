import Imt.Attach.ContMax
import Imt.Intr.Axes

/-!
# Protocol Type B

`imt_intr` reports contacts with protocol Type B of evdev's multi-touch events (line 488): an
`ABS_MT_SLOT` event selects the slot that `evdev_get_mt_slot_by_tracking_id` gave the contact,
the events after it go to that slot, and `ABS_MT_TRACKING_ID` gives the slot a contact or, with
`-1`, frees it; a sync ends the frame.

* `TypeB`: a log of syncs and contact blocks, each block an `ABS_MT_SLOT` event and then absolute
  events of other codes, among them an `ABS_MT_TRACKING_ID`.
* `contactEvents_typeB`: a contact's events are such a block, or nothing when the device has no
  slot for the contact, when `caps` has the tip switch and the contact id and no other channel
  has the code `ABS_MT_SLOT`.
* `imtIntrRun_typeB`: after `imt_attach` declared its device, every run of reports extends a
  Type B log to a Type B log.
* `SlotRange`, `imtAttachDevice_slotRange`: the slot range that `imt_attach` declares is
  `0 .. m` with `m < MAX_MT_SLOTS`, through the parse, `wmt_cont_max_parse` and the other reads.
* `imtIntrRun_slotInRange`: when the device answers `-1` or a slot of the declared range, every
  `ABS_MT_SLOT` value a run pushes lies in that range.
-/

namespace Imt

/-- A log of multi-touch protocol Type B: syncs and contact blocks, each block an event of
`slotCode` that selects the slot, then absolute events of other codes, among them one of
`idCode`. -/
inductive TypeB (slotCode idCode : Nat) : List EvdevEvent → Prop
  | nil : TypeB slotCode idCode []
  | sync {log : List EvdevEvent} : TypeB slotCode idCode log →
      TypeB slotCode idCode (log ++ [.sync])
  | block {log evs : List EvdevEvent} (slot : BitVec 32)
      (habs : ∀ ev ∈ evs, ∃ code v, ev = .abs code v ∧ code ≠ slotCode)
      (hid : ∃ v, EvdevEvent.abs idCode v ∈ evs) :
      TypeB slotCode idCode log → TypeB slotCode idCode (log ++ .abs slotCode slot :: evs)

section

variable (E : Hid) (dev : Iichid) (slotOf : List EvdevEvent → BitVec 32 → Int) {caps : Nat}

theorem absMtSlot_ne_wmtNoCode : E.absMtSlot ≠ wmtNoCode E := by
  have := E.codes_le E.absMtSlot (by simp)
  unfold wmtNoCode; omega

theorem absMtTrackingId_ne_wmtNoCode : E.absMtTrackingId ≠ wmtNoCode E := by
  have := E.codes_le E.absMtTrackingId (by simp)
  unfold wmtNoCode; omega

/-- When `caps` has the tip switch and the contact id and no other channel has the code
`ABS_MT_SLOT`, a contact's events extend a Type B log: a touching contact's start with its
slot, as `WMT_TIP_SWITCH` is the first channel, and have its tracking id; a contact that does
not touch pushes its slot and the tracking id `-1`. -/
theorem contactEvents_typeB (hT : usageSupported caps wmtTipSwitch = true)
    (hC : usageSupported caps wmtContactid = true)
    (hcode : ∀ u, u ≠ wmtTipSwitch → (wmtHidMap E u).code ≠ E.absMtSlot)
    {log : List EvdevEvent} (h : TypeB E.absMtSlot E.absMtTrackingId log)
    (d : Fin wmtNUsages → BitVec 32) (slot : Int) :
    TypeB E.absMtSlot E.absMtTrackingId (log ++ contactEvents E caps d slot) := by
  unfold contactEvents
  split_ifs
  · rwa [List.append_nil]
  · rw [wmtUsages, List.finRange_succ, List.filter_cons_of_pos
      (by simpa [wmtHidMap] using ⟨hT, absMtSlot_ne_wmtNoCode E⟩), List.map_cons]
    refine .block _ ?_ ⟨_, List.mem_map_of_mem _ (List.mem_filter.2
      ⟨List.mem_map_of_mem _ (List.mem_finRange 5), ?_⟩)⟩ h
    · -- the other channels have other codes
      intro ev hev
      obtain ⟨u, hu, rfl⟩ := List.mem_map.1 hev
      obtain ⟨i, -, rfl⟩ := List.mem_map.1 (List.mem_filter.1 hu).1
      exact ⟨_, _, rfl, hcode _ (Fin.succ_ne_zero i)⟩
    · simpa [wmtHidMap] using ⟨hC, absMtTrackingId_ne_wmtNoCode E⟩
  · exact .block _ (by simpa using hcode wmtContactid (by decide))
      ⟨_, List.mem_singleton_self _⟩ h

/-- After `imt_attach` has declared its evdev device, when no channel but the tip switch has the
code `ABS_MT_SLOT`: every run of reports extends a Type B log to a Type B log, so that every
event of a contact goes to the slot its `ABS_MT_SLOT` event selects, and every slot selected is
given a tracking id. -/
theorem imtIntrRun_typeB {desc : Option (List HidItem)} {e : Nat} {d : EvdevDev}
    (hcode : ∀ u, u ≠ wmtTipSwitch → (wmtHidMap E u).code ≠ E.absMtSlot)
    (hd : (imtAttachDevice E dev desc e).evdev = some d) (rs : List Report)
    {log : List EvdevEvent} (hlog : TypeB E.absMtSlot E.absMtTrackingId log) :
    TypeB E.absMtSlot E.absMtTrackingId
      (imtIntrRun E slotOf (imtAttachDevice E dev desc e).sc log rs).2 :=
  @imtIntrRun_inv E slotOf (TypeB E.absMtSlot E.absMtTrackingId) _
    (fun _ d h => contactEvents_typeB E (imtAttachDevice_caps_required E dev hd rfl)
      (imtAttachDevice_caps_required E dev hd rfl) hcode h d _)
    (fun _ h => .sync h) rs _ rfl log hlog

theorem imtIntrRun_typeB_sized :
    (∀ u, u ≠ wmtTipSwitch → (wmtHidMap Hid.freeBSD u).code ≠ Hid.freeBSD.absMtSlot) ∧
      (imtAttachDevice Hid.freeBSD okBus (some sizedTouchpad) 0).evdev = some sizedTouchpadDev ∧
      TypeB Hid.freeBSD.absMtSlot Hid.freeBSD.absMtTrackingId
        (imtIntrRun Hid.freeBSD (fun _ _ => 0)
          (imtAttachDevice Hid.freeBSD okBus (some sizedTouchpad) 0).sc [] [sizedReport]).2 := by
  have hd : (imtAttachDevice Hid.freeBSD okBus (some sizedTouchpad) 0).evdev =
      some sizedTouchpadDev := by decide
  exact ⟨by decide, hd, imtIntrRun_typeB Hid.freeBSD okBus (fun _ _ => 0) (by decide) hd
    [sizedReport] .nil⟩

end

/-! ## The slots selected -/

/-- The slot range of a softc is `0 .. max` with `0 ≤ max < MAX_MT_SLOTS`, of resolution `0`. -/
def SlotRange (E : Hid) (s : ImtSoftc) : Prop :=
  (s.ai wmtSlot).min = 0 ∧ 0 ≤ (s.ai wmtSlot).max ∧ (s.ai wmtSlot).max < E.maxMtSlots ∧
    (s.ai wmtSlot).res = 0

/-- A slot in `0 .. 2 ^ 31 - 1` reads back from its `int32_t` value. -/
theorem toInt_ofInt_of_lt {i : Int} (h0 : 0 ≤ i) (h : i < 2 ^ 31) :
    (BitVec.ofInt 32 i).toInt = i := by
  rw [BitVec.toInt_ofInt, Int.bmod, Int.emod_eq_of_lt h0 (by omega), if_pos (by omega)]

section

variable (E : Hid) (dev : Iichid) (slotOf : List EvdevEvent → BitVec 32 → Int)

/-- A successful parse leaves a slot range, for a stream with fewer than `2 ^ 31` End Collection
items (the finger count is converted to `int32_t`). -/
theorem wmtHidParse_slotRange {sc : ImtSoftc} {items : List HidItem}
    (hok : (wmtHidParse E true sc items).1 ≠ 0)
    (hcl : items.countP (fun hi => hi.kind == .endcollection) < 2 ^ 31) :
    SlotRange E (wmtHidParse E true sc items).2 := by
  have hM := E.maxMtSlots_pos
  have hc0 := ctlWalk_cont_pos E hok
  have hc1 : (ctlWalk E items).cont < 2 ^ 31 :=
    (ctlWalk_cont E items ▸ fingerCloses_length_le E items).trans_lt hcl
  unfold SlotRange
  rw [wmtHidParse_slot E hok, toInt32_of_lt hc1]
  dsimp only
  split_ifs <;> omega

theorem wmtContMaxParse_slotRange (hE : E.maxMtSlots < 2 ^ 32) {sc : ImtSoftc}
    (h : SlotRange E sc) (rPtr : Buf) (rLen : Nat) :
    SlotRange E (wmtContMaxParse E sc rPtr rLen) := by
  obtain ⟨h0, h1, h2, h3⟩ := h
  have hM := E.maxMtSlots_pos
  unfold SlotRange
  rw [wmtContMaxParse_slot E hE sc rPtr rLen h1 h2]
  split_ifs
  · exact ⟨h0, h1, h2, h3⟩
  · dsimp only
    exact ⟨h0, by omega, by omega, h3⟩

/-- The reads of `imt_attach` and `imt_set_input_mode` keep a slot range. -/
theorem attachContMax_slotRange (hE : E.maxMtSlots < 2 ^ 32) {sc : ImtSoftc}
    (h : SlotRange E sc) : SlotRange E (attachContMax E dev sc).1 := by
  unfold attachContMax
  dsimp only
  split_ifs
  · refine wmtContMaxParse_slotRange E hE ?_ _ _
    exact h
  all_goals exact h

theorem attachThqaCert_slotRange {sc : ImtSoftc} (h : SlotRange E sc) :
    SlotRange E (attachThqaCert dev sc).1 := by
  unfold attachThqaCert
  split_ifs <;> exact h

theorem imtSetInputMode_slotRange {sc : ImtSoftc} (h : SlotRange E sc) (mode : BitVec 32) :
    SlotRange E (imtSetInputMode E dev sc mode).2.1 := by
  rw [imtSetInputMode, if_neg (imtSetInputMode_guard _)]
  exact h

/-- The softc of `imt_attach` on a descriptor that `wmt_hid_parse` accepts has a slot range. -/
theorem imtAttachDevice_slotRange (hE : E.maxMtSlots < 2 ^ 32) {items : List HidItem}
    (hok : (wmtHidParse E true {} items).1 ≠ 0)
    (hcl : items.countP (fun hi => hi.kind == .endcollection) < 2 ^ 31) (e : Nat) :
    SlotRange E (imtAttachDevice E dev (some items) e).sc := by
  refine imtAttachSoftc_sc_of E dev (SlotRange E) (fun _ => attachContMax_slotRange E dev hE)
    (fun _ => attachThqaCert_slotRange E dev) (fun _ h => imtSetInputMode_slotRange E dev h _) ?_ e
  exact wmtHidParse_slotRange E hok hcl

/-- When no channel but the tip switch has the code `ABS_MT_SLOT`, a contact's events of that
code carry the slot that the device gave it, which is not `-1`. -/
theorem contactEvents_slot (hcode : ∀ u, u ≠ wmtTipSwitch → (wmtHidMap E u).code ≠ E.absMtSlot)
    (caps : Nat) (d : Fin wmtNUsages → BitVec 32) (slot : Int) :
    AbsAll (fun code v => code = E.absMtSlot → slot ≠ -1 ∧ v = BitVec.ofInt 32 slot)
      (contactEvents E caps d slot) := by
  intro code v h hc
  subst hc
  obtain ⟨hs, ⟨u, -, -, hcu, rfl⟩ | ⟨-, rfl⟩ | ⟨h, -⟩⟩ := mem_contactEvents E h
  · obtain rfl : u = wmtTipSwitch := Decidable.byContradiction fun hne => hcode u hne hcu
    exact ⟨hs, by simp [touchValue, wmtSlot]⟩
  · exact ⟨hs, rfl⟩
  · exact absurd h.symm (hcode wmtContactid (by decide))

/-- On a descriptor with fewer than `2 ^ 31` End Collection items, when no channel but the tip
switch has the code `ABS_MT_SLOT` and `MAX_MT_SLOTS` is below `2 ^ 31`: after `imt_attach` has
declared its device, its slot axis is `0 .. m` with `0 ≤ m < MAX_MT_SLOTS`, and when the device
answers each contact id with `-1` or a slot of that range, as `evdev_get_mt_slot_by_tracking_id`
does, every `ABS_MT_SLOT` value that a run of reports pushes lies in the range. -/
theorem imtIntrRun_slotInRange {items : List HidItem} {e : Nat} {d : EvdevDev}
    (hE : E.maxMtSlots < 2 ^ 31)
    (hcl : items.countP (fun hi => hi.kind == .endcollection) < 2 ^ 31)
    (hcode : ∀ u, u ≠ wmtTipSwitch → (wmtHidMap E u).code ≠ E.absMtSlot)
    (hd : (imtAttachDevice E dev (some items) e).evdev = some d)
    (hslot : ∀ log id, slotOf log id = -1 ∨ 0 ≤ slotOf log id ∧
      slotOf log id ≤ ((imtAttachDevice E dev (some items) e).sc.ai wmtSlot).max)
    (rs : List Report) :
    ⟨E.absMtSlot, 0, ((imtAttachDevice E dev (some items) e).sc.ai wmtSlot).max, 0⟩ ∈ d.axes ∧
      0 ≤ ((imtAttachDevice E dev (some items) e).sc.ai wmtSlot).max ∧
      ((imtAttachDevice E dev (some items) e).sc.ai wmtSlot).max < E.maxMtSlots ∧
      AbsAll (fun code v => code = E.absMtSlot → 0 ≤ v.toInt ∧
          v.toInt ≤ ((imtAttachDevice E dev (some items) e).sc.ai wmtSlot).max)
        (imtIntrRun E slotOf (imtAttachDevice E dev (some items) e).sc [] rs).2 := by
  have hax := mem_imtAbsAxes E _ wmtSlot (imtAttachDevice_caps_required E dev hd rfl) (by decide)
  obtain ⟨items', hi, hp, rfl, -⟩ := imtAttachDevice_evdev E dev hd
  cases hi
  obtain ⟨hmin, h0, hmax, hres⟩ := imtAttachDevice_slotRange E dev (by omega) hp hcl e
  rw [hmin, hres] at hax
  refine ⟨hax, h0, hmax, @imtIntrRun_inv E slotOf (AbsAll fun code v => code = E.absMtSlot →
      0 ≤ v.toInt ∧ v.toInt ≤ ((imtAttachDevice E dev (some items) e).sc.ai wmtSlot).max) _
    (fun l dat hl => hl.append ?_) (fun _ h => h.append absAll_sync) rs _ rfl []
    (fun _ _ h => absurd h (List.not_mem_nil _))⟩
  -- a contact's slot event carries the device's answer, which lies in the range
  intro code v hv hc
  obtain ⟨hs, rfl⟩ := contactEvents_slot E hcode _ _ _ code v hv hc
  rcases hslot l (dat wmtContactid) with h | ⟨hlo, hhi⟩
  · exact absurd h hs
  · rw [toInt_ofInt_of_lt hlo (by omega)]
    exact ⟨hlo, hhi⟩

theorem imtIntrRun_slotInRange_sized :
    Hid.freeBSD.maxMtSlots < 2 ^ 31 ∧
      sizedTouchpad.countP (fun hi => hi.kind == .endcollection) < 2 ^ 31 ∧
      (∀ u, u ≠ wmtTipSwitch → (wmtHidMap Hid.freeBSD u).code ≠ Hid.freeBSD.absMtSlot) ∧
      (imtAttachDevice Hid.freeBSD okBus (some sizedTouchpad) 0).evdev = some sizedTouchpadDev ∧
      (∀ (_ : List EvdevEvent) (_ : BitVec 32), (0 : Int) = -1 ∨ (0 : Int) ≤ 0 ∧
        (0 : Int) ≤
          ((imtAttachDevice Hid.freeBSD okBus (some sizedTouchpad) 0).sc.ai wmtSlot).max) ∧
      ⟨Hid.freeBSD.absMtSlot, 0,
          ((imtAttachDevice Hid.freeBSD okBus (some sizedTouchpad) 0).sc.ai wmtSlot).max, 0⟩ ∈
        sizedTouchpadDev.axes ∧
      0 ≤ ((imtAttachDevice Hid.freeBSD okBus (some sizedTouchpad) 0).sc.ai wmtSlot).max ∧
      ((imtAttachDevice Hid.freeBSD okBus (some sizedTouchpad) 0).sc.ai wmtSlot).max <
        Hid.freeBSD.maxMtSlots ∧
      AbsAll (fun code v => code = Hid.freeBSD.absMtSlot → 0 ≤ v.toInt ∧
          v.toInt ≤ ((imtAttachDevice Hid.freeBSD okBus (some sizedTouchpad) 0).sc.ai wmtSlot).max)
        (imtIntrRun Hid.freeBSD (fun _ _ => 0)
          (imtAttachDevice Hid.freeBSD okBus (some sizedTouchpad) 0).sc [] [sizedReport]).2 := by
  have hd : (imtAttachDevice Hid.freeBSD okBus (some sizedTouchpad) 0).evdev =
      some sizedTouchpadDev := by decide
  have hslot : ∀ (_ : List EvdevEvent) (_ : BitVec 32), (0 : Int) = -1 ∨ (0 : Int) ≤ 0 ∧
      (0 : Int) ≤ ((imtAttachDevice Hid.freeBSD okBus (some sizedTouchpad) 0).sc.ai wmtSlot).max :=
    fun _ _ => .inr ⟨le_rfl, by decide⟩
  exact ⟨by decide, by decide, by decide, hd, hslot,
    imtIntrRun_slotInRange Hid.freeBSD okBus (fun _ _ => 0) (by decide) (by decide) (by decide) hd
      hslot [sizedReport]⟩

end

end Imt
