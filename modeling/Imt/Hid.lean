import Mathlib.Data.List.Nodup
import Mathlib.Algebra.Group.Nat.Basic
import Mathlib.Algebra.Group.Int

/-!
# The HID item stream and the interface `imt.c` is compiled against

`imt.c` reads a report descriptor through the HID parser of the kernel (`hid_start_parse`,
`hid_get_item`), which this repository does not contain. The model takes the parser's output as
its input: a descriptor is the list of `HidItem`s that `hid_get_item` returns for it with every
kind selected. A walk that selects one kind (`1 << hid_feature`) sees the same list with the
items of the other data kinds left out; the walks of `imt.c` ignore those kinds anyway.

* `HidItem`: the fields of `struct hid_item` that `imt.c` reads. `collevel` is the nesting depth
  after the item: `1` for a top-level collection's open, `0` for its close.
* `Hid`: the constants and functions `imt.c` takes from `<dev/usb/usbhid.h>`,
  `<dev/evdev/input.h>`, `<dev/evdev/evdev.h>` and `hid.c`. They are parameters of the model;
  the structure carries the facts about them that the proofs use.
* `wellNested`: every `collevel` is the depth that the opens and closes before it give.
* `Hid.freeBSD`: FreeBSD's values of the parameters, at which the witnesses and counterexamples
  are stated.
-/

namespace Imt

/-- `enum hid_kind`. -/
inductive HidKind where
  | input
  | output
  | feature
  | collection
  | endcollection
  deriving DecidableEq, Repr

/-- `struct hid_location`: `count` fields of `size` bits from bit `pos`, all `uint32_t`. -/
structure HidLocation where
  size : BitVec 32
  count : BitVec 32
  pos : BitVec 32
  deriving DecidableEq, Repr

/-- The zero location: an entry of the zero-filled softc, and one that no item set. -/
instance : Inhabited HidLocation := ⟨⟨0, 0, 0⟩⟩

/-- The fields of `struct hid_item` that `imt.c` reads. `usage` is the `int32_t`
`HID_USAGE2(page, usage)`, `reportID` the `uint32_t` report id in effect. -/
structure HidItem where
  kind : HidKind
  collevel : Nat
  usage : Int
  reportID : Nat
  flags : Nat
  logicalMinimum : Int
  logicalMaximum : Int
  loc : HidLocation
  deriving DecidableEq, Repr

/-- The open of a collection with usage `u` at depth `lvl`, in report `rid`. -/
def HidItem.coll (lvl : Nat) (u : Int) (rid : Nat) : HidItem :=
  ⟨.collection, lvl, u, rid, 0, 0, 0, default⟩

/-- A close that leads back to depth `lvl`. -/
def HidItem.ecoll (lvl : Nat) : HidItem := ⟨.endcollection, lvl, 0, 0, 0, 0, 0, default⟩

/-- A variable item of kind `k` at depth `lvl` with usage `u` in report `rid` (flags `2`,
FreeBSD's `HIO_VARIABLE`): one field of `size` bits from bit `pos`, logical range `0 .. lmax`. -/
def HidItem.field (k : HidKind) (lvl : Nat) (u : Int) (rid pos size : Nat) (lmax : Int) :
    HidItem :=
  ⟨k, lvl, u, rid, 2, 0, lmax, ⟨BitVec.ofNat 32 size, 1, BitVec.ofNat 32 pos⟩⟩

/-- The bytes of a report buffer, by offset. -/
abbrev Buf := Nat → BitVec 8

/-- What `imt.c` uses from outside this repository. The usages are the values
`HID_USAGE2(page, usage)` of the pairs it names, as the `int` the macro gives; `hidGetDataUnsigned buf len loc` reads the
field `loc` from the first `len` bytes of `buf`. -/
structure Hid where
  hidUsage2 : Nat → Nat → Int
  hupGenericDesktop : Nat
  hupDigitizers : Nat
  hupMicrosoft : Nat
  hugX : Nat
  hugY : Nat
  hudTouchscreen : Nat
  hudTouchpad : Nat
  hudConfig : Nat
  hudFinger : Nat
  hudTipPressure : Nat
  hudInRange : Nat
  hudTipSwitch : Nat
  hudConfidence : Nat
  hudWidth : Nat
  hudHeight : Nat
  hudContactid : Nat
  hudInputMode : Nat
  hudContactcount : Nat
  hudContactMax : Nat
  hudScanTime : Nat
  hioConst : Nat
  hioVariable : Nat
  hioRelative : Nat
  absMtSlot : Nat
  absMtTouchMajor : Nat
  absMtTouchMinor : Nat
  absMtOrientation : Nat
  absMtPositionX : Nat
  absMtPositionY : Nat
  absMtToolX : Nat
  absMtToolY : Nat
  absMtTrackingId : Nat
  absMtPressure : Nat
  absMtDistance : Nat
  absMax : Nat
  maxMtSlots : Nat
  einval : Nat
  enxio : Nat
  hidItemResolution : HidItem → Int
  hidGetDataUnsigned : Buf → Nat → HidLocation → BitVec 32
  hidPutDataUnsigned : Buf → Nat → HidLocation → BitVec 32 → Buf
  /-- The usages `imt.c` compares items with are distinct, and none is `WMT_NO_USAGE`. -/
  usages_nodup : [-1, hidUsage2 hupDigitizers hudTipSwitch, hidUsage2 hupDigitizers hudWidth,
    hidUsage2 hupDigitizers hudHeight, hidUsage2 hupGenericDesktop hugX,
    hidUsage2 hupGenericDesktop hugY, hidUsage2 hupDigitizers hudContactid,
    hidUsage2 hupDigitizers hudTipPressure, hidUsage2 hupDigitizers hudInRange,
    hidUsage2 hupDigitizers hudConfidence, hidUsage2 hupDigitizers hudTouchscreen,
    hidUsage2 hupDigitizers hudTouchpad, hidUsage2 hupDigitizers hudConfig,
    hidUsage2 hupDigitizers hudFinger, hidUsage2 hupDigitizers hudContactcount,
    hidUsage2 hupDigitizers hudScanTime, hidUsage2 hupDigitizers hudContactMax,
    hidUsage2 hupDigitizers hudInputMode, hidUsage2 hupMicrosoft 0xC5].Nodup
  /-- Every event code `imt.c` reports is at most `ABS_MAX`. -/
  codes_le : ∀ c ∈ [absMtSlot, absMtTouchMajor, absMtTouchMinor, absMtOrientation,
    absMtPositionX, absMtPositionY, absMtToolX, absMtToolY, absMtTrackingId, absMtPressure,
    absMtDistance], c ≤ absMax
  hudTouchscreen_pos : 0 < hudTouchscreen
  hudTouchpad_pos : 0 < hudTouchpad
  maxMtSlots_pos : 0 < maxMtSlots

/-- The usages of `Hid.usages_nodup`, in its order. -/
def Hid.usages (E : Hid) : List Int :=
  [-1, E.hidUsage2 E.hupDigitizers E.hudTipSwitch, E.hidUsage2 E.hupDigitizers E.hudWidth,
    E.hidUsage2 E.hupDigitizers E.hudHeight, E.hidUsage2 E.hupGenericDesktop E.hugX,
    E.hidUsage2 E.hupGenericDesktop E.hugY, E.hidUsage2 E.hupDigitizers E.hudContactid,
    E.hidUsage2 E.hupDigitizers E.hudTipPressure, E.hidUsage2 E.hupDigitizers E.hudInRange,
    E.hidUsage2 E.hupDigitizers E.hudConfidence, E.hidUsage2 E.hupDigitizers E.hudTouchscreen,
    E.hidUsage2 E.hupDigitizers E.hudTouchpad, E.hidUsage2 E.hupDigitizers E.hudConfig,
    E.hidUsage2 E.hupDigitizers E.hudFinger, E.hidUsage2 E.hupDigitizers E.hudContactcount,
    E.hidUsage2 E.hupDigitizers E.hudScanTime, E.hidUsage2 E.hupDigitizers E.hudContactMax,
    E.hidUsage2 E.hupDigitizers E.hudInputMode, E.hidUsage2 E.hupMicrosoft 0xC5]

/-- Two usages at different positions of `Hid.usages` differ. -/
theorem Hid.usages_get_ne (E : Hid) (i j : Fin 19) (h : i ≠ j) :
    E.usages.get (i.cast rfl) ≠ E.usages.get (j.cast rfl) :=
  fun he => h (Fin.ext (Fin.mk.inj ((List.Nodup.get_inj_iff E.usages_nodup).mp he)))

/-- `WMT_HI_ABSOLUTE(hi)`: a variable, absolute, non-constant item. -/
def wmtHiAbsolute (E : Hid) (hi : HidItem) : Bool :=
  hi.flags &&& (E.hioConst ||| E.hioVariable ||| E.hioRelative) == E.hioVariable

/-- The depth after item `hi` at depth `d`: an open is one deeper, a close one shallower. -/
def depthStep (d : Nat) (hi : HidItem) : Nat :=
  match hi.kind with
  | .collection => d + 1
  | .endcollection => d - 1
  | _ => d

/-- The items from depth `d` on give every item the depth its opens and closes lead to, and no
close stands at the top level. -/
def wellNested : Nat → List HidItem → Bool
  | _, [] => true
  | d, hi :: his => hi.collevel == depthStep d hi && (hi.kind != .endcollection || 0 < d) &&
      wellNested (depthStep d hi) his

/-- The conversion of an unsigned number to `int32_t`: modulo `2 ^ 32`, into `[-2^31, 2^31)`. -/
def toInt32 (n : Nat) : Int :=
  if n % 2 ^ 32 < 2 ^ 31 then (n % 2 ^ 32 : Nat) else ((n % 2 ^ 32 : Nat) : Int) - 2 ^ 32

/-- A count below `2 ^ 31` converts to itself. -/
theorem toInt32_of_lt {n : Nat} (h : n < 2 ^ 31) : toInt32 n = n := by
  unfold toInt32
  rw [Nat.mod_eq_of_lt (by omega), if_pos h]

/-- `hid_get_data_unsigned` of `hid.c`: the `min size 32` bits from `loc.pos` on, little-endian,
read from the `(size + 7) / 8` bytes from `loc.pos / 8`; bytes at or past `len` read as zero. -/
def freeBSDGetData (buf : Buf) (len : Nat) (loc : HidLocation) : BitVec 32 :=
  if loc.size = 0 then 0 else
  let hsize := min loc.size.toNat 32
  let hpos := loc.pos.toNat
  BitVec.ofNat 32 <| (List.range hsize).foldr (fun j acc => acc * 2 +
    if (hpos + j) / 8 < min len (hpos / 8 + (hsize + 7) / 8) &&
      (buf ((hpos + j) / 8)).getLsbD ((hpos + j) % 8) then 1 else 0) 0

/-- `hid_put_data_unsigned` of `hid.c`: for a nonzero size, cut to `32`, each of the
`(size + 7) / 8` bytes from `pos / 8` that lies below `len` loses the bits of the mask
`2 ^ size - 1` and gains those of the value, both shifted up by `pos % 8`. The value is not cut
to the size: its bits above the field are ORed into the bits above it, in the bytes written. -/
def freeBSDPutData (buf : Buf) (len : Nat) (loc : HidLocation) (v : BitVec 32) : Buf := fun j =>
  if loc.size = 0 then buf j else
  let hsize := min loc.size.toNat 32
  let rpos := loc.pos.toNat / 8
  let data := v.toNat <<< (loc.pos.toNat % 8)
  let mask := (2 ^ hsize - 1) <<< (loc.pos.toNat % 8)
  if rpos ≤ j ∧ j < rpos + (hsize + 7) / 8 ∧ j < len then
    (buf j &&& ~~~(BitVec.ofNat 8 (mask >>> (8 * (j - rpos))))) |||
      BitVec.ofNat 8 (data >>> (8 * (j - rpos)))
  else buf j

/-- FreeBSD's values of the constants, `HID_USAGE2` as the `int` it gives (`HUP_MICROSOFT`,
`0xff00`, makes a negative usage, as `hid.c` makes the item's), `hid.c`'s data access, and the
resolution `0` that `hid_item_resolution` gives an item without physical units. -/
def Hid.freeBSD : Hid where
  hidUsage2 p u := toInt32 (p * 65536 + u)
  hupGenericDesktop := 0x01
  hupDigitizers := 0x0d
  hupMicrosoft := 0xff00
  hugX := 0x30
  hugY := 0x31
  hudTouchscreen := 0x04
  hudTouchpad := 0x05
  hudConfig := 0x0e
  hudFinger := 0x22
  hudTipPressure := 0x30
  hudInRange := 0x32
  hudTipSwitch := 0x42
  hudConfidence := 0x47
  hudWidth := 0x48
  hudHeight := 0x49
  hudContactid := 0x51
  hudInputMode := 0x52
  hudContactcount := 0x54
  hudContactMax := 0x55
  hudScanTime := 0x56
  hioConst := 0x01
  hioVariable := 0x02
  hioRelative := 0x04
  absMtSlot := 0x2f
  absMtTouchMajor := 0x30
  absMtTouchMinor := 0x31
  absMtOrientation := 0x34
  absMtPositionX := 0x35
  absMtPositionY := 0x36
  absMtToolX := 0x3c
  absMtToolY := 0x3d
  absMtTrackingId := 0x39
  absMtPressure := 0x3a
  absMtDistance := 0x3b
  absMax := 0x3f
  maxMtSlots := 16
  einval := 22
  enxio := 6
  hidItemResolution _ := 0
  hidGetDataUnsigned := freeBSDGetData
  hidPutDataUnsigned := freeBSDPutData
  usages_nodup := by decide
  codes_le := by decide
  hudTouchscreen_pos := by decide
  hudTouchpad_pos := by decide
  maxMtSlots_pos := by decide

end Imt
