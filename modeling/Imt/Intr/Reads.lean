import Imt.Intr.Axes
import Imt.Intr.Slots

/-!
# What the report handler reads

`imt_intr` reads the report through `hid_get_data_unsigned` at the locations of the softc: the
Contact Count, and for each contact it visits the row `sc->locs[cont]`.

* `runContacts_lt`, `imtAttachDevice_rowsBelowSlots`: the rows a run reads are below
  `nconts_per_report`, the number of finger collections of the descriptor; with at most
  `MAX_MT_SLOTS` of them, every row is one of the `MAX_MT_SLOTS` rows of `sc->locs`.
-/

namespace Imt

section

variable (E : Hid) (slotOf : List EvdevEvent → BitVec 32 → Int)

theorem imtIntr_ncontsPerReport (s : ImtSoftc) (log : List EvdevEvent) (buf : Buf) (len id : Nat) :
    (imtIntr E slotOf s log buf len id).1.ncontsPerReport = s.ncontsPerReport := by
  rw [imtIntr_frame]

/-- The rows that a run reads are below `nconts_per_report`. -/
theorem runContacts_lt (rs : List Report) (s : ImtSoftc) (log : List EvdevEvent) :
    ∀ k ∈ runContacts E slotOf s log rs, k < s.ncontsPerReport.toNat := by
  induction rs generalizing s log with
  | nil => intro k hk; cases hk
  | cons r rs ih =>
    intro k hk
    rcases List.mem_append.1 hk with hk | hk
    · split at hk
      · rw [intrContacts, List.mem_range, toNat_contactBound] at hk
        omega
      · cases hk
    · rw [← imtIntr_ncontsPerReport E slotOf s log r.buf r.len r.id]
      exact ih _ _ k hk

end

section

variable (E : Hid) (dev : Iichid) (slotOf : List EvdevEvent → BitVec 32 → Int)

/-- With at most `MAX_MT_SLOTS` finger collections in the descriptor, every row of `sc->locs`
that a run of reports reads, after `imt_attach` has set up the interrupt handler, is below
`MAX_MT_SLOTS`. -/
theorem imtAttachDevice_rowsBelowSlots {items : List HidItem} {e : Nat} {d : EvdevDev}
    (hd : (imtAttachDevice E dev (some items) e).evdev = some d)
    (hf : (ctlWalk E items).cont ≤ E.maxMtSlots) (hE : E.maxMtSlots < 2 ^ 32)
    (log : List EvdevEvent) (rs : List Report) :
    ∀ k ∈ runContacts E slotOf (imtAttachDevice E dev (some items) e).sc log rs,
      k < E.maxMtSlots := by
  obtain ⟨items', hi, hp, -, buf, ai, hsc, -⟩ := imtAttachDevice_evdev E dev hd
  cases hi
  intro k hk
  have hk' := runContacts_lt E slotOf rs _ log k hk
  obtain ⟨-, he⟩ := wmtHidParse_pos E hp
  rw [hsc] at hk'
  change k < (wmtHidParse E true {} items).2.ncontsPerReport.toNat at hk'
  rw [he, wmtHidParseFinish_ncontsPerReport, inputWalk_ctl, BitVec.toNat_ofNat,
    Nat.mod_eq_of_lt (by omega)] at hk'
  omega

end

theorem imtAttachDevice_rowsBelowSlots_sized :
    (imtAttachDevice Hid.freeBSD okBus (some sizedTouchpad) 0).evdev = some sizedTouchpadDev ∧
      (ctlWalk Hid.freeBSD sizedTouchpad).cont ≤ Hid.freeBSD.maxMtSlots ∧
      Hid.freeBSD.maxMtSlots < 2 ^ 32 ∧
      ∀ k ∈ runContacts Hid.freeBSD (fun _ _ => 0)
          (imtAttachDevice Hid.freeBSD okBus (some sizedTouchpad) 0).sc [] [sizedReport],
        k < Hid.freeBSD.maxMtSlots := by
  have hd : (imtAttachDevice Hid.freeBSD okBus (some sizedTouchpad) 0).evdev =
      some sizedTouchpadDev := by decide
  exact ⟨hd, by decide, by decide, imtAttachDevice_rowsBelowSlots Hid.freeBSD okBus
    (fun _ _ => 0) hd (by decide) (by decide) [] [sizedReport]⟩

end Imt
