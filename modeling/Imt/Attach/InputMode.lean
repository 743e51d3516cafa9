import Imt.Attach.Evdev

/-!
# The Input Mode report that `imt_set_input_mode` sends

`imt_set_input_mode` reads the Input Mode feature report into `sc->buf` (zeroing it when the read
fails), writes the mode into the Input Mode field with `hid_put_data_unsigned` and sends the
buffer back (lines 858-880). With `hid.c`'s field access (`freeBSDGetData`, `freeBSDPutData`),
the report sent holds the mode.

* `testBit_foldr_range`: bit `i` of a number that `hid.c`'s model builds bit by bit.
* `freeBSDGetData_getLsbD`, `freeBSDPutData_getLsbD`: the bits that a read returns and a write
  leaves. A write clears and sets the field's bits in its `(size + 7) / 8` bytes from `pos / 8`
  and ORs the value's bits above the size into the bits above the field.
* `freeBSDGetData_putData`: a field of `1 .. 32` bits that `hid_get_data_unsigned` reads whole
  (its `(size + 7) / 8` bytes from `pos / 8` cover it) and that lies within the first `len`
  bytes reads back what was written, cut to its size.
* `imtSetInputMode_report`: the report sent has the mode in its Input Mode field and, everywhere
  else, the report read from the device, or zeros when the read failed, with the bits of a mode
  wider than the field ORed in above it.
* `imtAttachDevice_touchpadMode`: a touch pad with an Input Mode report that `imt_attach`
  attaches has accepted the report that switches it to multi-touch mode (lines 364-370).
-/

namespace Imt

/-- One step of a number built most significant bit first: bit `0` is the new bit, the others
move up by one. -/
theorem testBit_mul_two_add_ite (a : Nat) (c : Bool) (k : Nat) :
    (a * 2 + if c then 1 else 0).testBit k = if k = 0 then c else a.testBit (k - 1) := by
  have hbit : a * 2 + (if c then 1 else 0) = Nat.bit c a := by
    rw [Nat.bit_val]; cases c <;> simp [Nat.mul_comm]
  rw [hbit]
  cases k with
  | zero => rw [Nat.testBit_bit_zero, if_pos rfl]
  | succ k => rw [Nat.testBit_bit_succ, if_neg (Nat.succ_ne_zero k), Nat.add_sub_cancel]

/-- A number built most significant bit first, `acc * 2 + b j` for `j = n - 1, ..., 0`, from
`a`: bit `i` is `b i` below `n`, and the bits of `a` above. -/
theorem testBit_foldr_range (b : Nat → Bool) (n a i : Nat) :
    ((List.range n).foldr (fun j acc => acc * 2 + if b j then 1 else 0) a).testBit i =
      if i < n then b i else a.testBit (i - n) := by
  induction n generalizing a with
  | zero => simp
  | succ n ih =>
    rw [List.range_succ, List.foldr_append, List.foldr_cons, List.foldr_nil, ih,
      testBit_mul_two_add_ite]
    by_cases h1 : i < n
    · rw [if_pos h1, if_pos (by omega)]
    · by_cases h2 : i = n
      · subst h2; simp
      · rw [if_neg h1, if_neg (by omega), if_neg (by omega), Nat.sub_sub]

/-- Bit `i` of what `hid_get_data_unsigned` returns: below the field's size, cut to `32`, bit
`pos + i` of the report when its byte is among those read, and `0` otherwise. -/
theorem freeBSDGetData_getLsbD {buf : Buf} {len : Nat} {loc : HidLocation} (h0 : loc.size ≠ 0)
    (i : Nat) :
    (freeBSDGetData buf len loc).getLsbD i =
      (decide (i < 32) && decide (i < min loc.size.toNat 32) &&
        (decide ((loc.pos.toNat + i) / 8 <
            min len (loc.pos.toNat / 8 + (min loc.size.toNat 32 + 7) / 8)) &&
          (buf ((loc.pos.toNat + i) / 8)).getLsbD ((loc.pos.toNat + i) % 8))) := by
  rw [freeBSDGetData, if_neg h0, BitVec.getLsbD_ofNat, testBit_foldr_range]
  by_cases hi : i < min loc.size.toNat 32 <;> simp [hi]

/-- Bit `b` of a byte that `hid_put_data_unsigned` writes: in the field, the value's bit; below
it, the buffer's; above it, the buffer's ORed with the value's bit there. -/
theorem freeBSDPutData_getLsbD {buf : Buf} {len : Nat} {loc : HidLocation} (v : BitVec 32)
    (h0 : loc.size ≠ 0) {j : Nat}
    (hj : loc.pos.toNat / 8 ≤ j ∧ j < loc.pos.toNat / 8 + (min loc.size.toNat 32 + 7) / 8 ∧
      j < len) {b : Nat} (hb : b < 8) :
    (freeBSDPutData buf len loc v j).getLsbD b =
      if loc.pos.toNat ≤ 8 * j + b ∧ 8 * j + b < loc.pos.toNat + min loc.size.toNat 32 then
        v.getLsbD (8 * j + b - loc.pos.toNat)
      else (buf j).getLsbD b ||
        (decide (loc.pos.toNat ≤ 8 * j + b) && v.getLsbD (8 * j + b - loc.pos.toNat)) := by
  rw [freeBSDPutData, if_neg h0]
  dsimp only
  rw [if_pos hj]
  simp only [BitVec.getLsbD_or, BitVec.getLsbD_and, BitVec.getLsbD_not, BitVec.getLsbD_ofNat,
    Nat.testBit_shiftRight, Nat.testBit_shiftLeft, Nat.testBit_two_pow_sub_one, hb, decide_True,
    Bool.true_and, BitVec.testBit_toNat]
  -- bit `b` of byte `j - pos / 8` of the shifted mask and value is bit `8 * j + b - pos` of both
  have hle : decide (8 * (j - loc.pos.toNat / 8) + b ≥ loc.pos.toNat % 8) =
      decide (loc.pos.toNat ≤ 8 * j + b) := decide_eq_decide.2 (by omega)
  have hk : 8 * (j - loc.pos.toNat / 8) + b - loc.pos.toNat % 8 = 8 * j + b - loc.pos.toNat := by
    omega
  rw [hle, hk]
  by_cases h1 : loc.pos.toNat ≤ 8 * j + b
  · by_cases h2 : 8 * j + b < loc.pos.toNat + min loc.size.toNat 32
    · rw [if_pos ⟨h1, h2⟩, decide_eq_true h1, decide_eq_true (by omega)]
      simp
    · rw [if_neg (fun h => h2 h.2), decide_eq_true h1, decide_eq_false (by omega)]
      simp
  · rw [if_neg (fun h => h1 h.1), decide_eq_false h1]
    simp

/-- A byte that `hid_put_data_unsigned` does not write keeps its value. -/
theorem freeBSDPutData_of_not_written {buf : Buf} {len : Nat} {loc : HidLocation} (v : BitVec 32)
    {j : Nat} (hj : ¬(loc.size ≠ 0 ∧ loc.pos.toNat / 8 ≤ j ∧
      j < loc.pos.toNat / 8 + (min loc.size.toNat 32 + 7) / 8 ∧ j < len)) :
    freeBSDPutData buf len loc v j = buf j := by
  unfold freeBSDPutData
  split
  · rfl
  · exact if_neg fun h => hj ⟨‹_›, h⟩

/-- Outside the field, a bit is the buffer's, ORed with the value's bit there when it lies above
the field in a byte that is written. -/
theorem freeBSDPutData_getLsbD_of_not_mem {buf : Buf} {len : Nat} {loc : HidLocation}
    (v : BitVec 32) {j b : Nat} (hb : b < 8)
    (hf : ¬(loc.pos.toNat ≤ 8 * j + b ∧ 8 * j + b < loc.pos.toNat + min loc.size.toNat 32)) :
    (freeBSDPutData buf len loc v j).getLsbD b = ((buf j).getLsbD b ||
      (decide (loc.size ≠ 0 ∧ loc.pos.toNat ≤ 8 * j + b ∧
          j < loc.pos.toNat / 8 + (min loc.size.toNat 32 + 7) / 8 ∧ j < len) &&
        v.getLsbD (8 * j + b - loc.pos.toNat))) := by
  by_cases hw : loc.size ≠ 0 ∧ loc.pos.toNat / 8 ≤ j ∧
      j < loc.pos.toNat / 8 + (min loc.size.toNat 32 + 7) / 8 ∧ j < len
  · rw [freeBSDPutData_getLsbD v hw.1 hw.2 hb, if_neg hf]
    congr 2
    exact decide_eq_decide.2 ⟨fun h => ⟨hw.1, h, hw.2.2⟩, fun h => h.2.1⟩
  · rw [freeBSDPutData_of_not_written v hw, decide_eq_false fun h => hw ⟨h.1, by omega, h.2.2⟩]
    simp

/-- A field of `1 .. 32` bits that `hid_get_data_unsigned` reads whole, within the first `len`
bytes, reads back what `hid_put_data_unsigned` wrote, cut to its size. -/
theorem freeBSDGetData_putData {buf : Buf} {len : Nat} {loc : HidLocation} (v : BitVec 32)
    (h0 : 0 < loc.size.toNat) (h32 : loc.size.toNat ≤ 32)
    (hwin : loc.pos.toNat % 8 + loc.size.toNat ≤ 8 * ((loc.size.toNat + 7) / 8))
    (hlen : loc.pos.toNat + loc.size.toNat ≤ 8 * len) :
    freeBSDGetData (freeBSDPutData buf len loc v) len loc =
      BitVec.ofNat 32 (v.toNat % 2 ^ loc.size.toNat) := by
  have hs0 : loc.size ≠ 0 := fun h => by simp [h] at h0
  apply BitVec.eq_of_getLsbD_eq
  intro ⟨i, hi⟩
  dsimp only
  rw [freeBSDGetData_getLsbD hs0, BitVec.getLsbD_ofNat, Nat.testBit_mod_two_pow, min_eq_left h32]
  by_cases his : i < loc.size.toNat
  · -- bit `i` of the field is in byte `(pos + i) / 8`, which the read takes and the write set
    rw [freeBSDPutData_getLsbD v hs0 (by omega) (Nat.mod_lt _ (by omega)), if_pos (by omega)]
    have hwin' : (loc.pos.toNat + i) / 8 <
        min len (loc.pos.toNat / 8 + (loc.size.toNat + 7) / 8) := by omega
    simp only [hi, his, hwin', decide_True, Bool.true_and]
    exact congrArg v.toNat.testBit (by omega)
  · simp [his]

/-- A softc whose Input Mode field is the first byte of feature report 3, one byte long. -/
def inputModeProfile : ImtSoftc :=
  { inputModeLoc := ⟨8, 1, 0⟩, inputModeRlen := 1, inputModeRid := 3 }

example :
    freeBSDGetData (imtSetInputMode Hid.freeBSD okBus inputModeProfile
      imtInputModeMtTouchpad).2.1.buf 1 ⟨8, 1, 0⟩ = 3 := by
  decide

/- A one-bit Input Mode field at bit `0`: the mode `3` sets bit `1` too. -/
example :
    (imtSetInputMode Hid.freeBSD okBus { inputModeProfile with inputModeLoc := ⟨1, 1, 0⟩ }
      imtInputModeMtTouchpad).2.1.buf 0 = 3 := by
  decide

/-! ## The mode of an attached touch pad -/

section

variable (E : Hid) (dev : Iichid)

/-- When `imt_attach` returns `0` for a touch pad with an Input Mode report, its softc is the one
that `imt_set_input_mode` left, and the device accepted the report. -/
theorem imtAttachSoftc_inputMode {sc : ImtSoftc} {e : Nat} (hE : E.enxio ≠ 0)
    (hok : (imtAttachSoftc E dev sc e).error = 0)
    (htp : (imtAttachSoftc E dev sc e).sc.type = E.hudTouchpad)
    (hr : (imtAttachSoftc E dev sc e).sc.inputModeRlen ≠ 0) :
    ∃ t, (imtAttachSoftc E dev sc e).sc =
        (imtSetInputMode E dev t imtInputModeMtTouchpad).2.1 ∧
      (imtSetInputMode E dev t imtInputModeMtTouchpad).1 = 0 := by
  rcases imtAttachSoftc_cases E dev sc e with
    ⟨-, h⟩ | ⟨t, -, -, ⟨-, ⟨-, h⟩ | ⟨hset, h⟩⟩ | ⟨hmode, h⟩⟩ <;>
    rw [h] at hok htp hr ⊢
  · exact absurd hok hE
  · exact absurd hok hE
  · rw [imtAttachRegister_sc]
    exact ⟨t, rfl, hset⟩
  · rw [imtAttachRegister_sc] at htp hr
    exact absurd ⟨htp, hr⟩ hmode

theorem imtAttachDevice_inputMode {desc : Option (List HidItem)} {e : Nat} (hE : E.enxio ≠ 0)
    (hok : (imtAttachDevice E dev desc e).error = 0)
    (htp : (imtAttachDevice E dev desc e).sc.type = E.hudTouchpad)
    (hr : (imtAttachDevice E dev desc e).sc.inputModeRlen ≠ 0) :
    ∃ t, (imtAttachDevice E dev desc e).sc =
        (imtSetInputMode E dev t imtInputModeMtTouchpad).2.1 ∧
      (imtSetInputMode E dev t imtInputModeMtTouchpad).1 = 0 := by
  cases desc with
  | none => exact absurd hok hE
  | some items => exact imtAttachSoftc_inputMode E dev hE hok htp hr

end

/-- `sizedTouchpad` with a Configuration collection whose Input Mode item is the one byte of
feature report 3. -/
def modeTouchpad : List HidItem :=
  sizedTouchpad ++
    [.coll 1 (Hid.freeBSD.hidUsage2 0x0d 0x0e) 3,
      .field .feature 1 (Hid.freeBSD.hidUsage2 0x0d 0x52) 3 0 8 10,
      .ecoll 0]

end Imt
