import Imt.Hid
import Mathlib.Data.Fin.VecNotation
import Mathlib.Data.List.FinRange
import Mathlib.Data.Nat.Bitwise
import Mathlib.Tactic.FinCases

/-!
# Channels, the usage table and the softc

* The channels `WMT_TIP_SWITCH` .. `WMT_TOOL_Y` are the indices `Fin wmtNUsages`; `WMT_SLOT`,
  `WMT_MAJOR` and `WMT_MINOR` name the same indices as `WMT_TIP_SWITCH`, `WMT_WIDTH` and
  `WMT_HEIGHT`.
* `wmtHidMap`: the table `wmt_hid_map` (usage, event code, required), without the names, which
  only the debug output prints.
* `usageSupported`: `USAGE_SUPPORTED(caps, usage)` on the bit mask `caps`; `usageSupported_or`
  says what `caps |= 1 << i` does to it.
* `ImtSoftc`: the fields of `struct imt_softc` that the model's functions read or write. Its
  default value is the zero-filled softc that the bus hands to `imt_attach`.
-/

namespace Imt

/-- `WMT_N_USAGES`. -/
abbrev wmtNUsages : Nat := 12

def wmtTipSwitch : Fin wmtNUsages := 0
def wmtWidth : Fin wmtNUsages := 1
def wmtHeight : Fin wmtNUsages := 2
def wmtOrientation : Fin wmtNUsages := 3
def wmtX : Fin wmtNUsages := 4
def wmtY : Fin wmtNUsages := 5
def wmtContactid : Fin wmtNUsages := 6
def wmtPressure : Fin wmtNUsages := 7
def wmtInRange : Fin wmtNUsages := 8
def wmtConfidence : Fin wmtNUsages := 9
def wmtToolX : Fin wmtNUsages := 10
def wmtToolY : Fin wmtNUsages := 11

/-- `WMT_SLOT`: the slot number is reported in `WMT_TIP_SWITCH`'s entry. -/
def wmtSlot : Fin wmtNUsages := wmtTipSwitch
/-- `WMT_MAJOR`: the major axis is reported in `WMT_WIDTH`'s entry. -/
def wmtMajor : Fin wmtNUsages := wmtWidth
/-- `WMT_MINOR`: the minor axis is reported in `WMT_HEIGHT`'s entry. -/
def wmtMinor : Fin wmtNUsages := wmtHeight

/-- The channels in index order: the order of `WMT_FOREACH_USAGE` and of the usage search. -/
def wmtUsages : List (Fin wmtNUsages) := List.finRange wmtNUsages

theorem mem_wmtUsages (i : Fin wmtNUsages) : i ∈ wmtUsages := List.mem_finRange i

/-- `WMT_NO_CODE`. -/
def wmtNoCode (E : Hid) : Nat := E.absMax + 10

/-- `WMT_NO_USAGE`. -/
def wmtNoUsage : Int := -1

/-- An entry of `wmt_hid_map`. -/
structure WmtHidMapItem where
  usage : Int
  code : Nat
  required : Bool
  deriving DecidableEq, Repr

/-- `wmt_hid_map`. `WMT_TOOL_X` and `WMT_TOOL_Y` share their usages with `WMT_X` and `WMT_Y`. -/
def wmtHidMap (E : Hid) : Fin wmtNUsages → WmtHidMapItem :=
  ![⟨E.hidUsage2 E.hupDigitizers E.hudTipSwitch, E.absMtSlot, true⟩,
    ⟨E.hidUsage2 E.hupDigitizers E.hudWidth, E.absMtTouchMajor, false⟩,
    ⟨E.hidUsage2 E.hupDigitizers E.hudHeight, E.absMtTouchMinor, false⟩,
    ⟨wmtNoUsage, E.absMtOrientation, false⟩,
    ⟨E.hidUsage2 E.hupGenericDesktop E.hugX, E.absMtPositionX, true⟩,
    ⟨E.hidUsage2 E.hupGenericDesktop E.hugY, E.absMtPositionY, true⟩,
    ⟨E.hidUsage2 E.hupDigitizers E.hudContactid, E.absMtTrackingId, true⟩,
    ⟨E.hidUsage2 E.hupDigitizers E.hudTipPressure, E.absMtPressure, false⟩,
    ⟨E.hidUsage2 E.hupDigitizers E.hudInRange, E.absMtDistance, false⟩,
    ⟨E.hidUsage2 E.hupDigitizers E.hudConfidence, wmtNoCode E, false⟩,
    ⟨E.hidUsage2 E.hupGenericDesktop E.hugX, E.absMtToolX, false⟩,
    ⟨E.hidUsage2 E.hupGenericDesktop E.hugY, E.absMtToolY, false⟩]

/-- The distinct usages of `wmt_hid_map`, `WMT_NO_USAGE` first: the first ten of
`Hid.usages_nodup`. -/
def tableUsages (E : Hid) : List Int :=
  [-1, E.hidUsage2 E.hupDigitizers E.hudTipSwitch, E.hidUsage2 E.hupDigitizers E.hudWidth,
    E.hidUsage2 E.hupDigitizers E.hudHeight, E.hidUsage2 E.hupGenericDesktop E.hugX,
    E.hidUsage2 E.hupGenericDesktop E.hugY, E.hidUsage2 E.hupDigitizers E.hudContactid,
    E.hidUsage2 E.hupDigitizers E.hudTipPressure, E.hidUsage2 E.hupDigitizers E.hudInRange,
    E.hidUsage2 E.hupDigitizers E.hudConfidence]

theorem tableUsages_nodup (E : Hid) : (tableUsages E).Nodup :=
  (List.take_sublist 10 _).nodup E.usages_nodup

/-- The position of a channel's usage in `tableUsages`. -/
def usageIdx : Fin wmtNUsages → Fin 10 := ![1, 2, 3, 0, 4, 5, 6, 7, 8, 9, 4, 5]

theorem wmtHidMap_usage (E : Hid) (i : Fin wmtNUsages) :
    (wmtHidMap E i).usage = (tableUsages E).get ⟨usageIdx i, by simp [tableUsages]⟩ := by
  fin_cases i <;> rfl

/-- Two channels share a usage exactly when `usageIdx` says so: only `WMT_X` with
`WMT_TOOL_X`, and `WMT_Y` with `WMT_TOOL_Y`. -/
theorem wmtHidMap_usage_eq_iff (E : Hid) (i j : Fin wmtNUsages) :
    (wmtHidMap E i).usage = (wmtHidMap E j).usage ↔ usageIdx i = usageIdx j := by
  rw [wmtHidMap_usage, wmtHidMap_usage, (tableUsages_nodup E).get_inj_iff, Fin.mk.injEq,
    Fin.val_inj]

/-- The usages of the touch screen and touch pad top-level collections. -/
def touchUsage (E : Hid) (u : Int) : Bool :=
  u == E.hidUsage2 E.hupDigitizers E.hudTouchscreen ||
    u == E.hidUsage2 E.hupDigitizers E.hudTouchpad

/-- `USAGE_SUPPORTED(caps, usage)`. -/
def usageSupported (caps : Nat) (usage : Fin wmtNUsages) : Bool :=
  caps &&& 1 <<< usage.val != 0

theorem usageSupported_eq_testBit (caps : Nat) (u : Fin wmtNUsages) :
    usageSupported caps u = caps.testBit u := by
  rw [usageSupported, Nat.one_shiftLeft, Nat.and_two_pow]
  cases caps.testBit u <;> simp

@[simp] theorem usageSupported_or (caps : Nat) (i u : Fin wmtNUsages) :
    usageSupported (caps ||| 1 <<< i.val) u = (usageSupported caps u || i == u) := by
  simp only [usageSupported_eq_testBit, Nat.one_shiftLeft, Nat.testBit_or, Nat.testBit_two_pow,
    Fin.val_inj]
  rfl

@[simp] theorem usageSupported_zero (u : Fin wmtNUsages) : usageSupported 0 u = false := by
  simp [usageSupported_eq_testBit]

/-- `struct wmt_absinfo`. -/
structure WmtAbsinfo where
  min : Int
  max : Int
  res : Int
  deriving DecidableEq, Repr

/-- The fields of `struct imt_softc` that the model reads or writes; the defaults are the
zero-filled softc. `locs` has `MAX_MT_SLOTS` rows in the C structure: the model's table is
total, and a row `k ≥ MAX_MT_SLOTS` of it stands for memory past the C array. -/
structure ImtSoftc where
  type : Nat := 0
  ai : Fin wmtNUsages → WmtAbsinfo := fun _ => ⟨0, 0, 0⟩
  locs : Nat → Fin wmtNUsages → HidLocation := fun _ _ => default
  contCountLoc : HidLocation := default
  slotData : Fin wmtNUsages → BitVec 32 := fun _ => 0
  caps : Nat := 0
  isize : Nat := 0
  ncontsPerReport : BitVec 32 := 0
  ncontsTodo : BitVec 32 := 0
  reportId : Nat := 0
  contMaxLoc : HidLocation := default
  contMaxRlen : Nat := 0
  contMaxRid : Nat := 0
  thqaCertRlen : Nat := 0
  thqaCertRid : Nat := 0
  inputModeLoc : HidLocation := default
  inputModeRlen : Nat := 0
  inputModeRid : Nat := 0
  buf : Buf := fun _ => 0

end Imt
