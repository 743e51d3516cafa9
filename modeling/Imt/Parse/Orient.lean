import Imt.Parse.Pin

/-!
# The orientation channel

`WMT_ORIENTATION` has no usage of its own: its entry of `wmt_hid_map` (lines 144-149) holds the
sentinel `WMT_NO_USAGE = -1`, and `wmt_hid_parse` adds the channel after the walks when width and
height are there (lines 799-804). The usage search of pass 2 (lines 728-760) still compares
every item's usage with every entry of the table, the sentinel's included.

* `attachWalk_locs_of_usage`, `attachWalk_caps_of_usage`: a channel whose usage no item of the
  stream carries keeps its locations and gets no `caps` bit from the walk.
* `wmtHidParse_orientation`: on a stream without an item of usage `-1`, a successful parse
  reports `WMT_ORIENTATION` exactly when it reports width and height, and binds no location to
  it.
* `wmtHidParse_orientationBound`: the usage of page `0xFFFF`, usage `0xFFFF` is `-1` as the
  `int32_t` of `struct hid_item`. An item of it in a finger collection is bound to
  `WMT_ORIENTATION`, which is then reported without width and height.
-/

namespace Imt

section

variable (E : Hid)

/-- Finger `k` has no item of a usage that no item of the stream carries. -/
theorem fingerItems_eq_nil {k : Nat} {u : Int} {items : List HidItem}
    (h : ∀ hi ∈ items, hi.usage ≠ u) : fingerItems E k u items = [] :=
  picks_eq_nil _ _ (fun hi hm _ => by simp [fingerPick, h hi hm]) _

/-- A channel whose usage no item of the stream carries keeps its locations. -/
theorem attachWalk_locs_of_usage (c : Fin wmtNUsages) (k : Nat) (items : List HidItem)
    (h : ∀ hi ∈ items, hi.usage ≠ (wmtHidMap E c).usage) (l : InputLocals) :
    (items.foldl (inputItem E true) l).sc.locs k c = l.sc.locs k c := by
  induction items generalizing l with
  | nil => rfl
  | cons hi his ih =>
    rw [List.foldl_cons, ih (fun x hx => h x (List.mem_cons_of_mem _ hx)),
      attachItem_locs_of_not_pick E l hi
        (by simp [fingerPick, h hi (List.mem_cons_self _ _)])]

/-- A channel whose usage no item of the stream carries gets no `caps` bit from the walk. -/
theorem attachWalk_caps_of_usage (c : Fin wmtNUsages) (items : List HidItem)
    (h : ∀ hi ∈ items, hi.usage ≠ (wmtHidMap E c).usage) (sc : ImtSoftc) :
    usageSupported (inputWalk E true sc items).caps c = false := by
  have hinv : CapsInv E sc.ai (fun u => fingerItems E 0 u items) (inputWalk E true sc items) :=
    attachWalk_capsInv E items { sc := sc } ⟨fun c hc => by simp at hc, fun _ _ => rfl⟩
  cases hb : usageSupported (inputWalk E true sc items).caps c
  · rfl
  · obtain ⟨hi, hm, -⟩ := hinv.bound c hb
    rw [fingerItems_eq_nil E h] at hm
    exact absurd hm (List.not_mem_nil _)

/-- A channel whose usage no item of the stream carries keeps its axis info. -/
theorem attachWalk_ai_of_usage (c : Fin wmtNUsages) (items : List HidItem)
    (h : ∀ hi ∈ items, hi.usage ≠ (wmtHidMap E c).usage) (sc : ImtSoftc) :
    (inputWalk E true sc items).sc.ai c = sc.ai c := by
  have hinv : CapsInv E sc.ai (fun u => fingerItems E 0 u items) (inputWalk E true sc items) :=
    attachWalk_capsInv E items { sc := sc } ⟨fun c hc => by simp at hc, fun _ _ => rfl⟩
  exact hinv.free c (attachWalk_caps_of_usage E c items h sc)

/-- On a stream without an item of usage `WMT_NO_USAGE`, a successful parse reports
`WMT_ORIENTATION` exactly when it reports width and height, and binds no location to it. -/
theorem wmtHidParse_orientation (sc : ImtSoftc) (items : List HidItem)
    (hu : ∀ hi ∈ items, hi.usage ≠ wmtNoUsage) (h : (wmtHidParse E true sc items).1 ≠ 0) :
    usageSupported (wmtHidParse E true sc items).2.caps wmtOrientation =
        (usageSupported (wmtHidParse E true sc items).2.caps wmtWidth &&
          usageSupported (wmtHidParse E true sc items).2.caps wmtHeight) ∧
      ∀ k, (wmtHidParse E true sc items).2.locs k wmtOrientation = sc.locs k wmtOrientation := by
  obtain ⟨-, he⟩ := wmtHidParse_pos E h
  rw [he]
  refine ⟨?_, fun k => ?_⟩
  · rw [wmtHidParseFinish_caps_orientation, attachWalk_caps_of_usage E wmtOrientation items hu,
      wmtHidParseFinish_caps _ _ _ (by decide), wmtHidParseFinish_caps _ _ _ (by decide),
      Bool.or_false]
  · rw [wmtHidParseFinish_locs, inputWalk, attachWalk_locs_of_usage E wmtOrientation k items hu,
      featureWalk_locs]

end

/-! ## The sentinel as a usage -/

/-- `HID_USAGE2(0xFFFF, 0xFFFF)`, a usage of the last vendor-defined page, as the `int32_t`
usage of `struct hid_item`: `0xFFFFFFFF`, that is `-1`. -/
def vendorLastUsage : Int := toInt32 (0xffff * 65536 + 0xffff)

/-- `sampleTouchpad` with one more absolute input item in its finger collection, of usage
`vendorLastUsage`, a byte from bit 72. -/
def vendorUsageTouchpad : List HidItem :=
  [.coll 1 (Hid.freeBSD.hidUsage2 0x0d 0x05) 1,
    .field .feature 1 (Hid.freeBSD.hidUsage2 0x0d 0x55) 2 0 8 5,
    .field .input 1 (Hid.freeBSD.hidUsage2 0x0d 0x54) 1 0 8 5,
    .field .input 1 (Hid.freeBSD.hidUsage2 0x0d 0x56) 1 8 16 65535,
    .coll 2 (Hid.freeBSD.hidUsage2 0x0d 0x22) 1,
    .field .input 2 (Hid.freeBSD.hidUsage2 0x0d 0x42) 1 24 1 1,
    .field .input 2 (Hid.freeBSD.hidUsage2 0x01 0x30) 1 32 16 4095,
    .field .input 2 (Hid.freeBSD.hidUsage2 0x01 0x31) 1 48 16 4095,
    .field .input 2 (Hid.freeBSD.hidUsage2 0x0d 0x51) 1 64 8 255,
    .field .input 2 vendorLastUsage 1 72 8 255,
    .ecoll 1,
    .ecoll 0]

/-- The vendor item's usage is `WMT_NO_USAGE`. The descriptor is well nested and accepted as a
touch pad; its vendor item is bound to `WMT_ORIENTATION`, which is in `caps` while `WMT_WIDTH`
and `WMT_HEIGHT` are not. -/
theorem wmtHidParse_orientationBound :
    vendorLastUsage = wmtNoUsage ∧ wellNested 0 vendorUsageTouchpad = true ∧
      (wmtHidParse Hid.freeBSD true {} vendorUsageTouchpad).1 = Hid.freeBSD.hudTouchpad ∧
      usageSupported (wmtHidParse Hid.freeBSD true {} vendorUsageTouchpad).2.caps
        wmtOrientation = true ∧
      usageSupported (wmtHidParse Hid.freeBSD true {} vendorUsageTouchpad).2.caps wmtWidth = false ∧
      usageSupported (wmtHidParse Hid.freeBSD true {} vendorUsageTouchpad).2.caps
        wmtHeight = false ∧
      (wmtHidParse Hid.freeBSD true {} vendorUsageTouchpad).2.locs 0 wmtOrientation =
        ⟨8, 1, 72⟩ :=
  ⟨by decide, by decide, by decide, by decide, by decide, by decide, by decide⟩

end Imt
