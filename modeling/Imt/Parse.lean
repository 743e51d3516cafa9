import Imt.Parse.Feature
import Imt.Parse.Input
import Imt.ReportSize

/-!
# `wmt_hid_parse`

`wmtHidParse E attach sc items` runs the feature walk, the input walk and the checks after them
(lines 661-821 of `imt.c`) and returns the descriptor's type, `0` for a descriptor that is not a
multi-touch device, and the softc. `attach = false` is `imt_probe`'s call with a null softc:
nothing is written then, and the walk stops looking at fingers after the first.

`wmtHidParseFinish` is what follows a successful validation with a softc: the slot range from
Contact Count Maximum, orientation from width and height, the report sizes and the ids.
-/

namespace Imt

section

variable (E : Hid)

/-- The softc writes of lines 785-821, after both walks. -/
def wmtHidParseFinish (items : List HidItem) (f : FeatureLocals) (w : InputLocals) : ImtSoftc :=
  let contCountMax := if f.contCountMax < 1 then toInt32 w.ctl.cont else f.contCountMax
  let contCountMax := if contCountMax > E.maxMtSlots then (E.maxMtSlots : Int) else contCountMax
  let s := { w.sc with ai := Function.update w.sc.ai wmtSlot ⟨0, contCountMax - 1, 0⟩ }
  let orient := usageSupported w.caps wmtWidth && usageSupported w.caps wmtHeight
  let s := if orient then
      { s with ai := Function.update s.ai wmtOrientation { s.ai wmtOrientation with max := 1 } }
    else s
  { s with
    isize := wmtHidReportSize items .input w.ctl.reportId
    contMaxRlen := wmtHidReportSize items .feature f.contMaxRid
    thqaCertRlen := if 0 < f.thqaCertRid then wmtHidReportSize items .feature f.thqaCertRid
      else s.thqaCertRlen
    inputModeRlen := if 0 < f.inputModeRid then wmtHidReportSize items .feature f.inputModeRid
      else s.inputModeRlen
    reportId := w.ctl.reportId
    caps := if orient then w.caps ||| 1 <<< wmtOrientation.val else w.caps
    ncontsPerReport := BitVec.ofNat 32 w.ctl.cont
    contMaxRid := f.contMaxRid
    thqaCertRid := f.thqaCertRid
    inputModeRid := f.inputModeRid }

section Finish

variable {E} (items : List HidItem) (f : FeatureLocals) (w : InputLocals)

theorem wmtHidParseFinish_locs : (wmtHidParseFinish E items f w).locs = w.sc.locs := by
  simp only [wmtHidParseFinish, apply_ite ImtSoftc.locs, ite_self]

theorem wmtHidParseFinish_contCountLoc :
    (wmtHidParseFinish E items f w).contCountLoc = w.sc.contCountLoc := by
  simp only [wmtHidParseFinish, apply_ite ImtSoftc.contCountLoc, ite_self]

theorem wmtHidParseFinish_reportId : (wmtHidParseFinish E items f w).reportId = w.ctl.reportId :=
  rfl

theorem wmtHidParseFinish_ncontsPerReport :
    (wmtHidParseFinish E items f w).ncontsPerReport = BitVec.ofNat 32 w.ctl.cont :=
  rfl

/-- Only the axis info of `WMT_SLOT` and `WMT_ORIENTATION` is set after the walks. -/
theorem wmtHidParseFinish_ai {c : Fin wmtNUsages} (hs : c ≠ wmtSlot) (ho : c ≠ wmtOrientation) :
    (wmtHidParseFinish E items f w).ai c = w.sc.ai c := by
  simp only [wmtHidParseFinish, apply_ite ImtSoftc.ai, ite_apply, Function.update_noteq hs,
    Function.update_noteq ho, ite_self]

/-- The softc's `caps` are the walk's, and `WMT_ORIENTATION` when width and height are. -/
theorem wmtHidParseFinish_caps {c : Fin wmtNUsages} (ho : c ≠ wmtOrientation) :
    usageSupported (wmtHidParseFinish E items f w).caps c = usageSupported w.caps c := by
  simp only [wmtHidParseFinish]
  split_ifs <;> simp [Ne.symm ho]

/-- `WMT_ORIENTATION` is in the softc's `caps` when width and height are, or when the walk set
its bit. -/
theorem wmtHidParseFinish_caps_orientation :
    usageSupported (wmtHidParseFinish E items f w).caps wmtOrientation =
      (usageSupported w.caps wmtWidth && usageSupported w.caps wmtHeight ||
        usageSupported w.caps wmtOrientation) := by
  simp only [wmtHidParseFinish]
  cases usageSupported w.caps wmtWidth && usageSupported w.caps wmtHeight <;> simp

/-- The axis info of `WMT_ORIENTATION` is the walk's, with maximum `1` when width and height are
in `caps` (line 803). -/
theorem wmtHidParseFinish_ai_orientation :
    (wmtHidParseFinish E items f w).ai wmtOrientation =
      if usageSupported w.caps wmtWidth && usageSupported w.caps wmtHeight then
        { w.sc.ai wmtOrientation with max := 1 }
      else w.sc.ai wmtOrientation := by
  have hos : wmtOrientation ≠ wmtSlot := by decide
  simp only [wmtHidParseFinish, apply_ite ImtSoftc.ai, ite_apply, Function.update_same,
    Function.update_noteq hos]

/-- The slot range `0 .. cont_count_max - 1` (lines 782-797): pass 1's Contact Count Maximum, or
the finger count converted to `int32_t` when that is below 1, capped at `MAX_MT_SLOTS`. -/
theorem wmtHidParseFinish_slot :
    (wmtHidParseFinish E items f w).ai wmtSlot =
      ⟨0, min (if f.contCountMax < 1 then toInt32 w.ctl.cont else f.contCountMax)
        E.maxMtSlots - 1, 0⟩ := by
  have hso : wmtSlot ≠ wmtOrientation := by decide
  simp only [wmtHidParseFinish, apply_ite ImtSoftc.ai, ite_apply, Function.update_noteq hso,
    Function.update_same, ite_self, WmtAbsinfo.mk.injEq, true_and, and_true]
  split_ifs <;> omega

end Finish

/-- `wmt_hid_parse`. -/
def wmtHidParse (attach : Bool) (sc : ImtSoftc) (items : List HidItem) : Nat × ImtSoftc :=
  let f := featureWalk E attach sc items
  if f.contMaxRid == 0 then (0, f.sc) else
  let w := inputWalk E attach f.sc items
  if !w.ctl.contCountFound || !w.ctl.scanTimeFound || w.ctl.cont == 0 then (0, w.sc)
  else if wmtUsages.any (fun i => (wmtHidMap E i).required && !usageSupported w.caps i) then
    (0, w.sc)
  else if !attach then (w.ctl.type, w.sc)
  else (w.ctl.type, wmtHidParseFinish E items f w)

/-- Whether `imt_probe` claims the device: `BUS_PROBE_DEFAULT` rather than `ENXIO`. -/
def imtProbe (items : List HidItem) : Bool :=
  (wmtHidParse E false {} items).1 != 0

end

/-- A touch pad with one finger, in input report 1: Contact Count Maximum in feature report 2,
Contact Count and Scan Time, and a finger collection with tip switch, X, Y and contact id. -/
def sampleTouchpad : List HidItem :=
  [.coll 1 (Hid.freeBSD.hidUsage2 0x0d 0x05) 1,
    .field .feature 1 (Hid.freeBSD.hidUsage2 0x0d 0x55) 2 0 8 5,
    .field .input 1 (Hid.freeBSD.hidUsage2 0x0d 0x54) 1 0 8 5,
    .field .input 1 (Hid.freeBSD.hidUsage2 0x0d 0x56) 1 8 16 65535,
    .coll 2 (Hid.freeBSD.hidUsage2 0x0d 0x22) 1,
    .field .input 2 (Hid.freeBSD.hidUsage2 0x0d 0x42) 1 24 1 1,
    .field .input 2 (Hid.freeBSD.hidUsage2 0x01 0x30) 1 32 16 4095,
    .field .input 2 (Hid.freeBSD.hidUsage2 0x01 0x31) 1 48 16 4095,
    .field .input 2 (Hid.freeBSD.hidUsage2 0x0d 0x51) 1 64 8 255,
    .ecoll 1,
    .ecoll 0]

end Imt
