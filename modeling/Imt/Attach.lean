import Imt.Parse

/-!
# `imt_attach` and `imt_set_input_mode`: the accesses to `sc->buf`

`imt_attach` parses the descriptor into the zero-filled softc and then moves feature reports
through the `WMT_BSIZE`-byte buffer `sc->buf`: the Contact Count Maximum report (lines
347-356), the THQA certificate (lines 359-362) and, for a touch pad, the Input Mode report of
`imt_set_input_mode` (lines 858-880), read, zeroed when the read fails, modified and written
back. The bus is a parameter (`Iichid`): the theorems hold whatever its transfers return. Each
function returns the accesses it makes to `sc->buf`, with their byte lengths (`BufAccess`).

* `imtSetInputMode_accesses`: the guard of line 864 never holds, so `imt_set_input_mode`
  always reads, modifies and writes `input_mode_rlen` bytes, whatever that length.
* `imtAttach_accesses`, `imtAttach_setInputMode`: every access of `imt_attach` has a length in
  `1 .. WMT_BSIZE`, except those of `imt_set_input_mode`, which have the parsed
  `input_mode_rlen` and are made for every touch pad where it is nonzero.
* `imtAttach_inputModeOverrun`: a touch pad whose Input Mode feature report is 1025 bytes long
  is accepted, and `imt_attach` reads 1025 bytes into `sc->buf`, whatever the bus answers.
-/

namespace Imt

/-- `WMT_BSIZE`: the size of `sc->buf` in bytes. -/
def wmtBsize : Nat := 1024

/-- `IMT_INPUT_MODE_MT_TOUCHPAD`. -/
def imtInputModeMtTouchpad : BitVec 32 := 3

/-- What a call does with the first bytes of `sc->buf`. -/
inductive BufOp where
  /-- `iichid_get_report` into it. -/
  | getReport
  /-- `hid_get_data_unsigned` from it. -/
  | getData
  | bzero
  /-- `hid_put_data_unsigned` into it. -/
  | putData
  /-- `iichid_set_report` from it. -/
  | setReport
  deriving DecidableEq, Repr

/-- An access to the first `len` bytes of `sc->buf`. -/
structure BufAccess where
  op : BufOp
  len : Nat
  deriving DecidableEq, Repr

/-- The feature-report transfers of the parent `iichid` device: `getReport buf len id` is the
error of `iichid_get_report` and the buffer after it, `setReport buf len id` the error of
`iichid_set_report`. -/
structure Iichid where
  getReport : Buf → Nat → Nat → Nat × Buf
  setReport : Buf → Nat → Nat → Nat

/-- `bzero(buf, len)`. -/
def bzero (buf : Buf) (len : Nat) : Buf := fun j => if j < len then 0 else buf j

section

variable (E : Hid) (dev : Iichid)

/-- `wmt_cont_max_parse`: the Contact Count Maximum of the report in `rPtr`, capped at
`MAX_MT_SLOTS`, sets the slot range when it is nonzero and not the range's size already. The
comparison of line 851 converts `ai[WMT_SLOT].max + 1` to `uint32_t`. -/
def wmtContMaxParse (sc : ImtSoftc) (rPtr : Buf) (rLen : Nat) : ImtSoftc :=
  let contCountMax := (E.hidGetDataUnsigned rPtr rLen sc.contMaxLoc).toNat
  let contCountMax := if contCountMax > E.maxMtSlots then E.maxMtSlots else contCountMax
  if contCountMax > 0 ∧ (contCountMax : Int) ≠ ((sc.ai wmtSlot).max + 1) % 2 ^ 32 then
    { sc with
      ai := Function.update sc.ai wmtSlot { sc.ai wmtSlot with max := (contCountMax : Int) - 1 } }
  else sc

/-- `imt_set_input_mode`: the error, the softc with its buffer, and the accesses to `sc->buf`.
A failed read leaves zeros for the mode field to be written into. -/
def imtSetInputMode (sc : ImtSoftc) (mode : BitVec 32) : Nat × ImtSoftc × List BufAccess :=
  let rlen := sc.inputModeRlen
  if rlen = 0 ∧ rlen > wmtBsize then (E.einval, sc, []) else
  let r := dev.getReport sc.buf rlen sc.inputModeRid
  let buf := if r.1 ≠ 0 then bzero r.2 rlen else r.2
  let buf := E.hidPutDataUnsigned buf rlen sc.inputModeLoc mode
  (dev.setReport buf rlen sc.inputModeRid, { sc with buf := buf },
    ⟨.getReport, rlen⟩ :: (if r.1 ≠ 0 then [⟨.bzero, rlen⟩] else []) ++
      [⟨.putData, rlen⟩, ⟨.setReport, rlen⟩])

/-- Lines 347-356: the Contact Count Maximum feature report, when its length fits the buffer. -/
def attachContMax (sc : ImtSoftc) : ImtSoftc × List BufAccess :=
  if sc.contMaxRlen > 0 ∧ sc.contMaxRlen ≤ wmtBsize then
    let r := dev.getReport sc.buf sc.contMaxRlen sc.contMaxRid
    let sc := { sc with buf := r.2 }
    if r.1 = 0 then
      (wmtContMaxParse E sc sc.buf sc.contMaxRlen,
        [⟨.getReport, sc.contMaxRlen⟩, ⟨.getData, sc.contMaxRlen⟩])
    else (sc, [⟨.getReport, sc.contMaxRlen⟩])
  else (sc, [])

/-- Lines 359-362: the THQA certificate, when its length fits and its report is another. -/
def attachThqaCert (sc : ImtSoftc) : ImtSoftc × List BufAccess :=
  if sc.thqaCertRlen > 0 ∧ sc.thqaCertRlen ≤ wmtBsize ∧ sc.thqaCertRid ≠ sc.contMaxRid then
    ({ sc with buf := (dev.getReport sc.buf sc.thqaCertRlen sc.thqaCertRid).2 },
      [⟨.getReport, sc.thqaCertRlen⟩])
  else (sc, [])

/-- `imt_attach` from the parse of the descriptor `items` up to the interrupt setup: the error
(`0` when it goes on to register the evdev device), the softc and the accesses to `sc->buf`. -/
def imtAttach (items : List HidItem) : Nat × ImtSoftc × List BufAccess :=
  let p := wmtHidParse E true {} items
  let sc := { p.2 with type := p.1 }
  if sc.type = 0 then (E.enxio, sc, []) else
  let c := attachContMax E dev sc
  let t := attachThqaCert dev c.1
  if t.1.type = E.hudTouchpad ∧ t.1.inputModeRlen ≠ 0 then
    let m := imtSetInputMode E dev t.1 imtInputModeMtTouchpad
    (if m.1 ≠ 0 then E.enxio else 0, m.2.1, c.2 ++ t.2 ++ m.2.2)
  else (0, t.1, c.2 ++ t.2)

/-! ## Frames -/

/-- `wmt_cont_max_parse` changes only the axis info. -/
theorem wmtContMaxParse_frame (sc : ImtSoftc) (rPtr : Buf) (rLen : Nat) :
    ∃ ai, wmtContMaxParse E sc rPtr rLen = { sc with ai := ai } := by
  unfold wmtContMaxParse
  dsimp only
  split_ifs <;> exact ⟨_, rfl⟩

/-- The Contact Count Maximum read changes only the buffer and the axis info. -/
theorem attachContMax_frame (sc : ImtSoftc) :
    ∃ buf ai, (attachContMax E dev sc).1 = { sc with buf := buf, ai := ai } := by
  unfold attachContMax
  dsimp only
  split_ifs
  · obtain ⟨ai, h⟩ := wmtContMaxParse_frame E _ _ _
    exact ⟨(dev.getReport sc.buf sc.contMaxRlen sc.contMaxRid).2, ai, h⟩
  all_goals exact ⟨_, _, rfl⟩

/-- The certificate read changes only the buffer. -/
theorem attachThqaCert_frame (sc : ImtSoftc) :
    ∃ buf, (attachThqaCert dev sc).1 = { sc with buf := buf } := by
  unfold attachThqaCert
  split_ifs <;> exact ⟨_, rfl⟩

/-! ## The lengths -/

/-- The guard of line 864 is a conjunction that no length satisfies. -/
theorem imtSetInputMode_guard (n : Nat) : ¬(n = 0 ∧ n > wmtBsize) := by
  unfold wmtBsize; omega

/-- `imt_set_input_mode` always starts with a read of `input_mode_rlen` bytes into the buffer,
and every access it makes has that length. -/
theorem imtSetInputMode_accesses (sc : ImtSoftc) (mode : BitVec 32) :
    (imtSetInputMode E dev sc mode).2.2.head? = some ⟨.getReport, sc.inputModeRlen⟩ ∧
      ∀ a ∈ (imtSetInputMode E dev sc mode).2.2, a.len = sc.inputModeRlen := by
  rw [imtSetInputMode, if_neg (imtSetInputMode_guard _)]
  refine ⟨rfl, ?_⟩
  dsimp only
  split_ifs <;> simp

theorem attachContMax_accesses (sc : ImtSoftc) :
    ∀ a ∈ (attachContMax E dev sc).2, 0 < a.len ∧ a.len ≤ wmtBsize := by
  unfold attachContMax
  dsimp only
  split_ifs with h <;> simp [h]

theorem attachThqaCert_accesses (sc : ImtSoftc) :
    ∀ a ∈ (attachThqaCert dev sc).2, 0 < a.len ∧ a.len ≤ wmtBsize := by
  unfold attachThqaCert
  split_ifs with h <;> simp [h]

/-- The feature reads before `imt_set_input_mode` keep the fields its call is decided on. -/
theorem attachReads_type_inputModeRlen (sc : ImtSoftc) :
    (attachThqaCert dev (attachContMax E dev sc).1).1.type = sc.type ∧
      (attachThqaCert dev (attachContMax E dev sc).1).1.inputModeRlen = sc.inputModeRlen := by
  obtain ⟨_, _, h1⟩ := attachContMax_frame E dev sc
  obtain ⟨_, h2⟩ := attachThqaCert_frame dev (attachContMax E dev sc).1
  rw [h2, h1]
  exact ⟨rfl, rfl⟩

/-- Every access of `imt_attach` has a length in `1 .. WMT_BSIZE`, or is one of
`imt_set_input_mode`'s on a touch pad, of the parsed nonzero `input_mode_rlen`. -/
theorem imtAttach_accesses (items : List HidItem) :
    ∀ a ∈ (imtAttach E dev items).2.2, (0 < a.len ∧ a.len ≤ wmtBsize) ∨
      ((wmtHidParse E true {} items).1 = E.hudTouchpad ∧
        (wmtHidParse E true {} items).2.inputModeRlen ≠ 0 ∧
        a.len = (wmtHidParse E true {} items).2.inputModeRlen) := by
  intro a ha
  obtain ⟨htype, hrlen⟩ := attachReads_type_inputModeRlen E dev
    { (wmtHidParse E true {} items).2 with type := (wmtHidParse E true {} items).1 }
  unfold imtAttach at ha
  dsimp only at ha
  by_cases h0 : (wmtHidParse E true {} items).1 = 0
  · rw [if_pos h0] at ha
    simp at ha
  rw [if_neg h0] at ha
  split at ha
  next hm =>
    rw [htype, hrlen] at hm
    rcases List.mem_append.1 ha with ha | ha
    · rcases List.mem_append.1 ha with ha | ha
      exacts [.inl (attachContMax_accesses E dev _ a ha), .inl (attachThqaCert_accesses dev _ a ha)]
    · exact .inr ⟨hm.1, hm.2, ((imtSetInputMode_accesses E dev _ _).2 a ha).trans hrlen⟩
  next =>
    rcases List.mem_append.1 ha with ha | ha
    exacts [.inl (attachContMax_accesses E dev _ a ha), .inl (attachThqaCert_accesses dev _ a ha)]

/-- On a touch pad with a nonzero `input_mode_rlen`, `imt_attach` reads that many bytes into the
buffer, whatever the bus answers. -/
theorem imtAttach_setInputMode (items : List HidItem)
    (ht : (wmtHidParse E true {} items).1 = E.hudTouchpad)
    (hr : (wmtHidParse E true {} items).2.inputModeRlen ≠ 0) :
    ⟨.getReport, (wmtHidParse E true {} items).2.inputModeRlen⟩ ∈ (imtAttach E dev items).2.2 := by
  obtain ⟨htype, hrlen⟩ := attachReads_type_inputModeRlen E dev
    { (wmtHidParse E true {} items).2 with type := (wmtHidParse E true {} items).1 }
  have hm := (imtSetInputMode_accesses E dev (attachThqaCert dev (attachContMax E dev
    { (wmtHidParse E true {} items).2 with type := (wmtHidParse E true {} items).1 }).1).1
    imtInputModeMtTouchpad).1
  rw [hrlen] at hm
  unfold imtAttach
  dsimp only
  rw [if_neg (by rw [ht]; exact E.hudTouchpad_pos.ne'),
    if_pos ⟨htype.trans ht, fun h => hr (hrlen.symm.trans h)⟩]
  exact List.mem_append_right _ (List.mem_of_mem_head? hm)

end

/-- `sampleTouchpad` with a device configuration collection whose Input Mode feature report 3
is 1025 bytes long: the mode byte, then 1024 bytes of constant padding. -/
def longInputModeTouchpad : List HidItem :=
  sampleTouchpad ++
    [.coll 1 (Hid.freeBSD.hidUsage2 0x0d 0x0e) 3,
      .field .feature 1 (Hid.freeBSD.hidUsage2 0x0d 0x52) 3 0 8 10,
      ⟨.feature, 1, 0, 3, Hid.freeBSD.hioConst, 0, 0, ⟨8, 1024, 8⟩⟩,
      .ecoll 0]

/-- The descriptor is well nested and accepted as a touch pad with `input_mode_rlen =
WMT_BSIZE + 1`, and `imt_attach` reads that many bytes into `sc->buf`, whatever the bus
answers. -/
theorem imtAttach_inputModeOverrun :
    wellNested 0 longInputModeTouchpad = true ∧
      (wmtHidParse Hid.freeBSD true {} longInputModeTouchpad).1 = Hid.freeBSD.hudTouchpad ∧
      (wmtHidParse Hid.freeBSD true {} longInputModeTouchpad).2.inputModeRlen = wmtBsize + 1 ∧
      ∀ dev : Iichid,
        ⟨.getReport, wmtBsize + 1⟩ ∈ (imtAttach Hid.freeBSD dev longInputModeTouchpad).2.2 := by
  have ht : (wmtHidParse Hid.freeBSD true {} longInputModeTouchpad).1 =
      Hid.freeBSD.hudTouchpad := by decide
  have hr : (wmtHidParse Hid.freeBSD true {} longInputModeTouchpad).2.inputModeRlen =
      wmtBsize + 1 := by decide
  refine ⟨by decide, ht, hr, fun dev => ?_⟩
  rw [← hr]
  exact imtAttach_setInputMode Hid.freeBSD dev _ ht (by rw [hr]; decide)

end Imt
