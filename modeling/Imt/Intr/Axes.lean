import Imt.Attach.Evdev
import Imt.Intr.Events
import Imt.Parse.Orient

/-!
# What the report handler pushes, against what `imt_attach` declared

`imt_intr` pushes an absolute event for each channel in `caps` that has an event code, or
`ABS_MT_SLOT` and `ABS_MT_TRACKING_ID` for a contact that does not touch; `imt_attach` declared
an axis for each channel in `caps` that has an event code. The theorems follow every event of
every run of reports from the softc that `imt_attach` leaves.

* `imtIntrRun_inv`: a property of logs that adding a contact's events and adding a sync keep
  holds of every log a run leaves (one contact, one call, then the run).
* `AbsAll`: every absolute event of a log satisfies a predicate on its code and value.
  `imtIntrRun_absAll`: a predicate that the events of every contact satisfy holds of all that a
  run pushes.
* `imtIntrRun_onAxes`: after `imt_attach` declared its device, every absolute event of every run
  is on a declared axis, and a touching contact reports every declared axis once, in order.
* `imtIntrRun_orientationInRange`: on a descriptor without an item of usage `WMT_NO_USAGE`, every
  `ABS_MT_ORIENTATION` value pushed lies in the range declared for the axis, `0 .. 1`.
-/

namespace Imt

/-- Every absolute event of `log` satisfies `P`. -/
def AbsAll (P : Nat → BitVec 32 → Prop) (log : List EvdevEvent) : Prop :=
  ∀ code v, EvdevEvent.abs code v ∈ log → P code v

section

variable {P : Nat → BitVec 32 → Prop}

theorem AbsAll.append {l₁ l₂ : List EvdevEvent} (h₁ : AbsAll P l₁) (h₂ : AbsAll P l₂) :
    AbsAll P (l₁ ++ l₂) :=
  fun code v h => (List.mem_append.1 h).elim (h₁ code v) (h₂ code v)

theorem absAll_sync : AbsAll P [.sync] := by
  intro code v h
  simp at h

end

section

variable (E : Hid) (slotOf : List EvdevEvent → BitVec 32 → Int) {Inv : List EvdevEvent → Prop}
  {P : Nat → BitVec 32 → Prop} {caps : Nat}

theorem imtIntr_caps (s : ImtSoftc) (log : List EvdevEvent) (buf : Buf) (len id : Nat) :
    (imtIntr E slotOf s log buf len id).1.caps = s.caps := by
  rw [imtIntr_frame]

/-- The contact loop keeps a property of logs that adding a contact's events keeps, with the
slot that the device gives to the contact's id after that log. -/
theorem foldl_contactStep_inv
    (hstep : ∀ l d, Inv l → Inv (l ++ contactEvents E caps d (slotOf l (d wmtContactid))))
    {s : ImtSoftc}
    (hs : s.caps = caps) (buf : Buf) (len : Nat) (ks : List Nat) (st : LoopState)
    (h : Inv st.log) : Inv (ks.foldl (contactStep E slotOf s buf len) st).log := by
  induction ks generalizing st with
  | nil => exact h
  | cons k ks ih =>
    rw [List.foldl_cons]
    exact ih _ (by rw [contactStep_log, hs]; exact hstep _ _ h)

/-- A call keeps a property of logs that adding a contact's events, as in the loop, and adding a
sync keep. -/
theorem imtIntr_inv
    (hstep : ∀ l d, Inv l → Inv (l ++ contactEvents E caps d (slotOf l (d wmtContactid))))
    (hsync : ∀ l, Inv l → Inv (l ++ [.sync])) {s : ImtSoftc} (hs : s.caps = caps)
    {log : List EvdevEvent} (hlog : Inv log) (buf : Buf) (len id : Nat) :
    Inv (imtIntr E slotOf s log buf len id).2.1 := by
  unfold imtIntr
  split
  · exact hlog
  · have hloop := fun ks => foldl_contactStep_inv E slotOf hstep hs (zeroTail buf len s.isize)
      len ks ⟨s.slotData, log, []⟩ hlog
    dsimp only
    split
    · exact hsync _ (hloop _)
    · exact hloop _

/-- A run keeps a property of logs that adding a contact's events, as in the loop, and adding a
sync keep. -/
theorem imtIntrRun_inv
    (hstep : ∀ l d, Inv l → Inv (l ++ contactEvents E caps d (slotOf l (d wmtContactid))))
    (hsync : ∀ l, Inv l → Inv (l ++ [.sync])) (rs : List Report) (s : ImtSoftc)
    (hs : s.caps = caps) (log : List EvdevEvent) (hlog : Inv log) :
    Inv (imtIntrRun E slotOf s log rs).2 := by
  induction rs generalizing s log with
  | nil => exact hlog
  | cons r rs ih =>
    exact ih _ ((imtIntr_caps E slotOf s log r.buf r.len r.id).trans hs) _
      (imtIntr_inv E slotOf hstep hsync hs hlog r.buf r.len r.id)

/-- A predicate that the events of every contact satisfy holds of everything a run pushes. -/
theorem imtIntrRun_absAll (hP : ∀ d slot, AbsAll P (contactEvents E caps d slot))
    (rs : List Report) (s : ImtSoftc) (hs : s.caps = caps) (log : List EvdevEvent)
    (hlog : AbsAll P log) : AbsAll P (imtIntrRun E slotOf s log rs).2 :=
  imtIntrRun_inv E slotOf (fun _ d h => h.append (hP d _)) (fun _ h => h.append absAll_sync) rs s
    hs log hlog

end

/-! ## Declared axes -/

section

variable (E : Hid) (dev : Iichid) (slotOf : List EvdevEvent → BitVec 32 → Int)

/-- An absolute event of a contact is of a channel in `caps` that has an event code, with the
value that `touchValue` gives it, or the slot or the tracking id `-1` of a contact that does not
touch; either way the device gave the contact a slot. -/
theorem mem_contactEvents {caps : Nat} {d : Fin wmtNUsages → BitVec 32} {slot : Int} {code : Nat}
    {v : BitVec 32} (h : EvdevEvent.abs code v ∈ contactEvents E caps d slot) :
    slot ≠ -1 ∧
      ((∃ u, usageSupported caps u = true ∧ (wmtHidMap E u).code ≠ wmtNoCode E ∧
          (wmtHidMap E u).code = code ∧ touchValue d slot u = v) ∨
        code = E.absMtSlot ∧ v = BitVec.ofInt 32 slot ∨
        code = E.absMtTrackingId ∧ v = BitVec.ofInt 32 (-1)) := by
  unfold contactEvents at h
  split_ifs at h with hs
  · cases h
  · obtain ⟨u, hu, he⟩ := List.mem_map.1 h
    simp only [List.mem_filter, Bool.and_eq_true, bne_iff_ne] at hu
    exact ⟨hs, .inl ⟨u, hu.2.1, hu.2.2, EvdevEvent.abs.inj he⟩⟩
  · simp only [List.mem_cons, EvdevEvent.abs.injEq, List.not_mem_nil, or_false] at h
    exact ⟨hs, .inr h⟩

/-- A contact's events are on the declared axes of the softc, when its `caps` has the tip
switch and the contact id. -/
theorem contactEvents_onAxes {sc : ImtSoftc} (hT : usageSupported sc.caps wmtTipSwitch = true)
    (hC : usageSupported sc.caps wmtContactid = true) (d : Fin wmtNUsages → BitVec 32)
    (slot : Int) :
    AbsAll (fun code _ => code ∈ (imtAbsAxes E sc).map AbsAxis.code)
      (contactEvents E sc.caps d slot) := by
  intro code v h
  obtain ⟨-, ⟨u, hu, hc, rfl, -⟩ | ⟨rfl, -⟩ | ⟨rfl, -⟩⟩ := mem_contactEvents E h
  · -- a touching contact: one event per channel of the declared axes
    rw [imtAbsAxes, List.map_map]
    exact List.mem_map_of_mem _ (List.mem_filter.2 ⟨mem_wmtUsages u, by simp [hu, hc]⟩)
  · -- a contact that does not touch: its slot and the tracking id `-1`
    exact mem_imtAbsAxes_code E sc wmtTipSwitch hT (by decide)
  · exact mem_imtAbsAxes_code E sc wmtContactid hC (by decide)

/-- A touching contact pushes one event per declared axis, in the order of the axes. -/
theorem contactEvents_forall₂ (sc : ImtSoftc) {d : Fin wmtNUsages → BitVec 32} {slot : Int}
    (hslot : slot ≠ -1)
    (htouch : d wmtTipSwitch ≠ 0 ∧
      ¬(usageSupported sc.caps wmtConfidence = true ∧ d wmtConfidence = 0)) :
    List.Forall₂ (fun ev a => ∃ v, ev = EvdevEvent.abs a.code v)
      (contactEvents E sc.caps d slot) (imtAbsAxes E sc) := by
  rw [contactEvents, if_neg hslot, if_pos htouch, imtAbsAxes, List.forall₂_map_left_iff,
    List.forall₂_map_right_iff, List.forall₂_same]
  exact fun u _ => ⟨_, rfl⟩

/-- After `imt_attach` has declared its evdev device, every absolute event that any run of
reports pushes is on a declared axis, and a touching contact pushes one event per declared axis,
in the order of the axes. -/
theorem imtIntrRun_onAxes {desc : Option (List HidItem)} {e : Nat} {d : EvdevDev}
    (hd : (imtAttachDevice E dev desc e).evdev = some d) :
    (∀ rs : List Report, AbsAll (fun code _ => code ∈ d.axes.map AbsAxis.code)
      (imtIntrRun E slotOf (imtAttachDevice E dev desc e).sc [] rs).2) ∧
    ∀ (dat : Fin wmtNUsages → BitVec 32) (slot : Int), slot ≠ -1 →
      (dat wmtTipSwitch ≠ 0 ∧ ¬(usageSupported (imtAttachDevice E dev desc e).sc.caps
        wmtConfidence = true ∧ dat wmtConfidence = 0)) →
      List.Forall₂ (fun ev a => ∃ v, ev = EvdevEvent.abs a.code v)
        (contactEvents E (imtAttachDevice E dev desc e).sc.caps dat slot) d.axes := by
  have hon := contactEvents_onAxes E (imtAttachDevice_caps_required E dev hd rfl)
    (imtAttachDevice_caps_required E dev hd rfl)
  obtain ⟨-, -, -, rfl, -⟩ := imtAttachDevice_evdev E dev hd
  exact ⟨fun rs => imtIntrRun_absAll E slotOf hon rs _ rfl [] (fun _ _ h => absurd h
    (List.not_mem_nil _)), fun dat slot hslot htouch => contactEvents_forall₂ E _ hslot htouch⟩

/-- A report of `sizedTouchpad` with one touching contact: tip switch, X `100`, Y `50`, contact
id `7`, width `10` and height `4`. -/
def sizedReport : Report :=
  ⟨fun j => BitVec.ofNat 8 ([1, 0, 0, 1, 100, 0, 50, 0, 7, 10, 4].getD j 0), 11, 1⟩

theorem imtIntrRun_onAxes_sized :
    (imtAttachDevice Hid.freeBSD okBus (some sizedTouchpad) 0).evdev = some sizedTouchpadDev ∧
      (∀ rs : List Report, AbsAll (fun code _ => code ∈ sizedTouchpadDev.axes.map AbsAxis.code)
        (imtIntrRun Hid.freeBSD (fun _ _ => 0)
          (imtAttachDevice Hid.freeBSD okBus (some sizedTouchpad) 0).sc [] rs).2) ∧
      ∀ (dat : Fin wmtNUsages → BitVec 32) (slot : Int), slot ≠ -1 →
        (dat wmtTipSwitch ≠ 0 ∧ ¬(usageSupported
          (imtAttachDevice Hid.freeBSD okBus (some sizedTouchpad) 0).sc.caps wmtConfidence = true ∧
            dat wmtConfidence = 0)) →
        List.Forall₂ (fun ev a => ∃ v, ev = EvdevEvent.abs a.code v)
          (contactEvents Hid.freeBSD
            (imtAttachDevice Hid.freeBSD okBus (some sizedTouchpad) 0).sc.caps dat slot)
          sizedTouchpadDev.axes :=
  ⟨by decide, imtIntrRun_onAxes Hid.freeBSD okBus (fun _ _ => 0) (by decide)⟩

example :
    (imtIntrRun Hid.freeBSD (fun _ _ => 0)
      (imtAttachDevice Hid.freeBSD okBus (some sizedTouchpad) 0).sc [] [sizedReport]).2 =
      [.abs 0x2f 0, .abs 0x30 5, .abs 0x31 2, .abs 0x34 1, .abs 0x35 100, .abs 0x36 50,
        .abs 0x39 7, .sync] := by
  decide

end

/-! ## The orientation -/

section

variable (E : Hid) (dev : Iichid) (slotOf : List EvdevEvent → BitVec 32 → Int)

/-- The value reported for `WMT_ORIENTATION` is `0` or `1`. -/
theorem touchValue_orientation (d : Fin wmtNUsages → BitVec 32) (slot : Int) :
    touchValue d slot wmtOrientation = 0 ∨ touchValue d slot wmtOrientation = 1 := by
  unfold touchValue
  simp only [show wmtOrientation ≠ wmtSlot by decide, show wmtOrientation ≠ wmtInRange by decide,
    show wmtOrientation ≠ wmtMajor by decide, show wmtOrientation ≠ wmtMinor by decide, if_false,
    if_true]
  split
  exacts [.inr rfl, .inl rfl]

/-- When no other channel has the code `ABS_MT_ORIENTATION`, a contact's events of that code
are of `WMT_ORIENTATION`, in `caps`, with value `0` or `1`. -/
theorem contactEvents_orientation
    (hcode : ∀ u, u ≠ wmtOrientation → (wmtHidMap E u).code ≠ E.absMtOrientation)
    (caps : Nat) (d : Fin wmtNUsages → BitVec 32) (slot : Int) :
    AbsAll (fun code v => code = E.absMtOrientation →
        usageSupported caps wmtOrientation = true ∧ (v = 0 ∨ v = 1))
      (contactEvents E caps d slot) := by
  intro code v h hc
  subst hc
  obtain ⟨-, ⟨u, hu, -, hcu, rfl⟩ | ⟨h, -⟩ | ⟨h, -⟩⟩ := mem_contactEvents E h
  · obtain rfl : u = wmtOrientation := Decidable.byContradiction fun hne => hcode u hne hcu
    exact ⟨hu, touchValue_orientation d slot⟩
  · exact absurd h.symm (hcode wmtTipSwitch (by decide))
  · exact absurd h.symm (hcode wmtContactid (by decide))

/-- On a descriptor without an item of usage `WMT_NO_USAGE`, a declared device whose `caps` has
`WMT_ORIENTATION` declares it with the range `0 .. 1` and resolution `0`. -/
theorem imtAttachDevice_orientationAxis {items : List HidItem} {e : Nat} {d : EvdevDev}
    (hu : ∀ hi ∈ items, hi.usage ≠ wmtNoUsage)
    (hd : (imtAttachDevice E dev (some items) e).evdev = some d)
    (hc : usageSupported (imtAttachDevice E dev (some items) e).sc.caps wmtOrientation = true) :
    ⟨E.absMtOrientation, 0, 1, 0⟩ ∈ d.axes := by
  obtain ⟨items', hi, hp, rfl, buf, ai, hsc, hai⟩ := imtAttachDevice_evdev E dev hd
  cases hi
  obtain ⟨-, he⟩ := wmtHidParse_pos E hp
  have hw : usageSupported (inputWalk E true (featureWalk E true {} items).sc items).caps
      wmtOrientation = false := attachWalk_caps_of_usage E wmtOrientation items hu _
  -- the orientation channel is there because width and height are
  have hwh : (usageSupported (inputWalk E true (featureWalk E true {} items).sc items).caps
      wmtWidth && usageSupported (inputWalk E true (featureWalk E true {} items).sc items).caps
      wmtHeight) = true := by
    rw [hsc] at hc
    change usageSupported (wmtHidParse E true {} items).2.caps wmtOrientation = true at hc
    rwa [he, wmtHidParseFinish_caps_orientation, hw, Bool.or_false] at hc
  -- its axis info is the zero softc's, with maximum `1`
  have hax : (imtAttachDevice E dev (some items) e).sc.ai wmtOrientation = ⟨0, 1, 0⟩ := by
    rw [hsc]
    change ai wmtOrientation = _
    rw [hai wmtOrientation (by decide)]
    change (wmtHidParse E true {} items).2.ai wmtOrientation = _
    rw [he, wmtHidParseFinish_ai_orientation, if_pos hwh, attachWalk_ai_of_usage E wmtOrientation
      items hu, (featureWalk_sc E true {} items).2.1]
  have hm := mem_imtAbsAxes E _ wmtOrientation hc (by decide)
  rw [hax] at hm
  exact hm

/-- On a descriptor without an item of usage `WMT_NO_USAGE`, when no other channel has the code
`ABS_MT_ORIENTATION`: after `imt_attach` has declared its device, every `ABS_MT_ORIENTATION`
value that a run of reports pushes lies in the range declared for that axis. -/
theorem imtIntrRun_orientationInRange {items : List HidItem} {e : Nat} {d : EvdevDev}
    (hu : ∀ hi ∈ items, hi.usage ≠ wmtNoUsage)
    (hcode : ∀ u, u ≠ wmtOrientation → (wmtHidMap E u).code ≠ E.absMtOrientation)
    (hd : (imtAttachDevice E dev (some items) e).evdev = some d) (rs : List Report) :
    AbsAll (fun code v => code = E.absMtOrientation →
        ∃ a ∈ d.axes, a.code = E.absMtOrientation ∧ a.min ≤ v.toInt ∧ v.toInt ≤ a.max)
      (imtIntrRun E slotOf (imtAttachDevice E dev (some items) e).sc [] rs).2 := by
  have hrun := imtIntrRun_absAll E slotOf
    (contactEvents_orientation E hcode (imtAttachDevice E dev (some items) e).sc.caps) rs _ rfl []
    (fun _ _ h => absurd h (List.not_mem_nil _))
  intro code v hv hc
  obtain ⟨hcaps, hv01⟩ := hrun code v hv hc
  refine ⟨_, imtAttachDevice_orientationAxis E dev hu hd hcaps, rfl, ?_⟩
  rcases hv01 with rfl | rfl <;> dsimp only <;> decide

theorem imtIntrRun_orientationInRange_sized :
    (∀ hi ∈ sizedTouchpad, hi.usage ≠ wmtNoUsage) ∧
      (∀ u, u ≠ wmtOrientation → (wmtHidMap Hid.freeBSD u).code ≠ Hid.freeBSD.absMtOrientation) ∧
      (imtAttachDevice Hid.freeBSD okBus (some sizedTouchpad) 0).evdev = some sizedTouchpadDev ∧
      AbsAll (fun code v => code = Hid.freeBSD.absMtOrientation →
          ∃ a ∈ sizedTouchpadDev.axes, a.code = Hid.freeBSD.absMtOrientation ∧ a.min ≤ v.toInt ∧
            v.toInt ≤ a.max)
        (imtIntrRun Hid.freeBSD (fun _ _ => 0)
          (imtAttachDevice Hid.freeBSD okBus (some sizedTouchpad) 0).sc [] [sizedReport]).2 :=
  ⟨by decide, by decide, by decide, imtIntrRun_orientationInRange Hid.freeBSD okBus (fun _ _ => 0)
    (by decide) (by decide) (by decide) [sizedReport]⟩

end

end Imt
