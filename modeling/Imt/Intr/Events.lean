import Imt.Intr

/-!
# The events of a contact

The contact loop of `imt_intr` decodes a contact into the scratch array `slot_data` and
rewrites it in place before reporting it: `WMT_SLOT`, `WMT_MAJOR` and `WMT_MINOR` are the entries
of `WMT_TIP_SWITCH`, `WMT_WIDTH` and `WMT_HEIGHT`. `contactEvents` states what is reported
without the scratch array: from the decoded fields (`contactFields`), the slot for `WMT_SLOT`,
`!in_range` for the distance, the larger and smaller half of width and height for the axes and
`width > height` for the orientation (`touchValue`).

* `readSlotData_eq`: the array after the reads is `contactFields`, whatever it held before.
* `touchData_eq`: the rewrite in place gives `touchValue`: no write clobbers a field before it is
  read.
* `imtIntr_events`: the events of a call are, contact after contact, `contactEvents` of the
  contact's fields and the device's answer, and then the sync; the first event of a touching
  contact is `(ABS_MT_SLOT, slot)`.
-/

namespace Imt

section

variable (E : Hid) (slotOf : List EvdevEvent → BitVec 32 → Int)

/-- Contact `cont`'s fields: the decoded value for a channel in `caps` with a location, else
`0`. -/
def contactFields (sc : ImtSoftc) (buf : Buf) (len cont : Nat) (u : Fin wmtNUsages) : BitVec 32 :=
  if usageSupported sc.caps u = true ∧ 0 < (sc.locs cont u).size then
    E.hidGetDataUnsigned buf len (sc.locs cont u)
  else 0

/-- The value reported for channel `u` of a touching contact with fields `d` in slot `slot`. -/
def touchValue (d : Fin wmtNUsages → BitVec 32) (slot : Int) (u : Fin wmtNUsages) : BitVec 32 :=
  let width := d wmtWidth >>> 1
  let height := d wmtHeight >>> 1
  if u = wmtSlot then BitVec.ofInt 32 slot
  else if u = wmtInRange then (if d wmtInRange = 0 then 1 else 0)
  else if u = wmtMajor then (if width > height then width else height)
  else if u = wmtMinor then (if width < height then width else height)
  else if u = wmtOrientation then (if width > height then 1 else 0)
  else d u

/-- The events of a contact with fields `d` and the device's answer `slot`: none for `-1`; for a
touching contact one event per channel in `caps` with an event code, in channel order; else the
slot and the tracking id `-1`. -/
def contactEvents (caps : Nat) (d : Fin wmtNUsages → BitVec 32) (slot : Int) : List EvdevEvent :=
  if slot = -1 then []
  else if d wmtTipSwitch ≠ 0 ∧ ¬(usageSupported caps wmtConfidence = true ∧ d wmtConfidence = 0)
  then (wmtUsages.filter fun u => usageSupported caps u && (wmtHidMap E u).code != wmtNoCode E).map
    fun u => .abs (wmtHidMap E u).code (touchValue d slot u)
  else [.abs E.absMtSlot (BitVec.ofInt 32 slot), .abs E.absMtTrackingId (BitVec.ofInt 32 (-1))]

/-! ## The scratch array -/

/-- Updating the entries of a duplicate-free list of channels, each when `p` holds. -/
theorem foldl_update_apply (p : Fin wmtNUsages → Prop) [DecidablePred p]
    (v : Fin wmtNUsages → BitVec 32) {l : List (Fin wmtNUsages)} (hl : l.Nodup)
    (sd : Fin wmtNUsages → BitVec 32) (u : Fin wmtNUsages) :
    l.foldl (fun sd i => if p i then Function.update sd i (v i) else sd) sd u =
      if u ∈ l ∧ p u then v u else sd u := by
  induction l generalizing sd with
  | nil => simp
  | cons i is ih =>
    obtain ⟨hi, his⟩ := List.nodup_cons.mp hl
    rw [List.foldl_cons, ih his]
    by_cases hu : u = i
    · subst hu
      by_cases hp : p u <;> simp [hp, hi]
    · have hsd : (if p i then Function.update sd i (v i) else sd) u = sd u := by
        split <;> simp [Function.update_noteq hu]
      simp only [hsd, List.mem_cons, hu, false_or]

theorem readSlotData_eq (sc : ImtSoftc) (buf : Buf) (len cont : Nat) :
    readSlotData E sc buf len cont = contactFields E sc buf len cont := by
  funext u
  refine (foldl_update_apply (fun i => usageSupported sc.caps i = true ∧ 0 < (sc.locs cont i).size)
    (fun i => E.hidGetDataUnsigned buf len (sc.locs cont i)) (List.nodup_finRange _) _ u).trans ?_
  simp [contactFields, mem_wmtUsages]

theorem touchData_eq (d : Fin wmtNUsages → BitVec 32) (slot : Int) :
    touchData d slot = touchValue d slot := by
  funext u
  fin_cases u <;> rfl

/-! ## The loop -/

theorem contactStep_log (sc : ImtSoftc) (buf : Buf) (len : Nat) (st : LoopState) (cont : Nat) :
    (contactStep E slotOf sc buf len st cont).log = st.log ++
      contactEvents E sc.caps (contactFields E sc buf len cont)
        (slotOf st.log (contactFields E sc buf len cont wmtContactid)) := by
  simp only [contactStep, contactEvents, readSlotData_eq, touchEvents, touchData_eq]
  split_ifs <;> simp

theorem foldl_contactStep_log (sc : ImtSoftc) (buf : Buf) (len : Nat) (ks : List Nat)
    (st : LoopState) :
    (ks.foldl (contactStep E slotOf sc buf len) st).log =
      ks.foldl (fun log k => log ++ contactEvents E sc.caps (contactFields E sc buf len k)
        (slotOf log (contactFields E sc buf len k wmtContactid))) st.log := by
  induction ks generalizing st with
  | nil => rfl
  | cons k ks ih => rw [List.foldl_cons, ih, contactStep_log, List.foldl_cons]

/-- A touching contact's events start with its slot when `caps` has `WMT_TIP_SWITCH`. -/
theorem contactEvents_head {caps : Nat} (hcaps : usageSupported caps wmtTipSwitch = true)
    {d : Fin wmtNUsages → BitVec 32} {slot : Int} (hslot : slot ≠ -1)
    (htouch : d wmtTipSwitch ≠ 0 ∧ ¬(usageSupported caps wmtConfidence = true ∧ d wmtConfidence = 0)) :
    (contactEvents E caps d slot).head? = some (.abs E.absMtSlot (BitVec.ofInt 32 slot)) := by
  have hcode : E.absMtSlot ≠ wmtNoCode E := by
    have := E.codes_le E.absMtSlot (by simp)
    unfold wmtNoCode; omega
  rw [contactEvents, if_neg hslot, if_pos htouch, wmtUsages, List.finRange_succ,
    List.filter_cons_of_pos (by simpa [wmtHidMap] using ⟨hcaps, hcode⟩), List.map_cons,
    List.head?_cons]
  simp [touchValue, wmtSlot, wmtTipSwitch, wmtHidMap]

/-- The events of a call of the pinned id: contact after contact, `contactEvents` of the
contact's fields in the buffer and of the device's answer to its contact id, then the sync when
the counter is left at `0`; whatever `slot_data` held before. A touching contact's events start
with `(ABS_MT_SLOT, slot)` when `caps` has `WMT_TIP_SWITCH`. -/
theorem imtIntr_events :
    (∀ (sc : ImtSoftc) (log : List EvdevEvent) (buf : Buf) (len : Nat),
      (imtIntr E slotOf sc log buf len sc.reportId).2.1 =
        (intrContacts E sc buf len).foldl (fun log k =>
            log ++ contactEvents E sc.caps (contactFields E sc (zeroTail buf len sc.isize) len k)
              (slotOf log (contactFields E sc (zeroTail buf len sc.isize) len k wmtContactid)))
            log ++
          if (imtIntr E slotOf sc log buf len sc.reportId).1.ncontsTodo = 0 then [.sync] else []) ∧
    (∀ (caps : Nat) (d : Fin wmtNUsages → BitVec 32) (slot : Int),
      usageSupported caps wmtTipSwitch = true → slot ≠ -1 →
      d wmtTipSwitch ≠ 0 ∧ ¬(usageSupported caps wmtConfidence = true ∧ d wmtConfidence = 0) →
      (contactEvents E caps d slot).head? = some (.abs E.absMtSlot (BitVec.ofInt 32 slot))) := by
  refine ⟨fun sc log buf len => ?_, fun caps d slot hc hs ht => contactEvents_head E hc hs ht⟩
  simp only [imtIntr, ne_eq, not_true_eq_false, if_false, foldl_contactStep_log, intrContacts,
    reportCount]
  split <;> simp

end

theorem imtIntr_events_touch :
    usageSupported 1 wmtTipSwitch = true ∧ (0 : Int) ≠ -1 ∧
      ((fun _ => 1 : Fin wmtNUsages → BitVec 32) wmtTipSwitch ≠ 0 ∧
        ¬(usageSupported 1 wmtConfidence = true ∧
          (fun _ => 1 : Fin wmtNUsages → BitVec 32) wmtConfidence = 0)) ∧
      (contactEvents Hid.freeBSD 1 (fun _ => 1) 0).head? =
        some (.abs Hid.freeBSD.absMtSlot (BitVec.ofInt 32 0)) :=
  ⟨by decide, by decide, by decide,
    (imtIntr_events Hid.freeBSD (fun _ _ => 0)).2 1 (fun _ => 1) 0 (by decide) (by decide)
      (by decide)⟩

end Imt
