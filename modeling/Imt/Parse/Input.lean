import Imt.Coll
import Imt.Map

/-!
# The second walk of `wmt_hid_parse`: input items

`inputItem` is one item of the loop at lines 669-765 of `imt.c`. Its locals are split in two:
`InputCtl` holds those that decide which items the walk takes (the collection flags, the type,
the pinned report id, the finger count and the two found flags), and `InputLocals` adds `caps`
and the softc. The control part never reads the other two (`inputItem_ctl`), so what the walk
takes is the run of `InputCtl.step` alone (`inputWalk_ctl`).

* `InputCtl.accepts`: an absolute item inside the touch collection, in the pinned report or
  before one is pinned (`report_id` still `0`).
* `usageSearch`: the usage search of lines 728-760 for one item, over the channels in table
  order. With a softc (`attach`), a channel whose location has a nonzero size is taken and the
  search goes on; without one (`imt_probe`), a channel whose `caps` bit is set is.
-/

namespace Imt

/-- The locals of the input walk that decide which items it takes. -/
structure InputCtl where
  touchColl : Bool := false
  fingerColl : Bool := false
  type : Nat := 0
  reportId : Nat := 0
  cont : Nat := 0
  contCountFound : Bool := false
  scanTimeFound : Bool := false
  deriving DecidableEq, Repr

/-- The locals of the input walk, and the softc. -/
structure InputLocals where
  ctl : InputCtl := {}
  caps : Nat := 0
  sc : ImtSoftc

section

variable (E : Hid) (attach : Bool)

/-- Whether the walk takes input item `hi` (lines 699-703). -/
def InputCtl.accepts (c : InputCtl) (hi : HidItem) : Bool :=
  wmtHiAbsolute E hi && c.touchColl && (c.reportId == 0 || c.reportId == hi.reportID)

/-- A collection open (lines 671-686). -/
def InputCtl.collection (c : InputCtl) (hi : HidItem) : InputCtl :=
  let c := if hi.collevel == 1 && hi.usage == E.hidUsage2 E.hupDigitizers E.hudTouchscreen
    then { c with touchColl := true, type := E.hudTouchscreen } else c
  if hi.collevel == 1 && hi.usage == E.hidUsage2 E.hupDigitizers E.hudTouchpad
  then { c with touchColl := true, type := E.hudTouchpad }
  else if c.touchColl && hi.collevel == 2 && (c.reportId == 0 || c.reportId == hi.reportID) &&
      hi.usage == E.hidUsage2 E.hupDigitizers E.hudFinger
  then { c with fingerColl := true }
  else c

/-- A collection close (lines 687-693): closing a finger collection counts it. -/
def InputCtl.endcollection (c : InputCtl) (hi : HidItem) : InputCtl :=
  if hi.collevel == 1 && c.fingerColl then { c with fingerColl := false, cont := c.cont + 1 }
  else if hi.collevel == 0 && c.touchColl then { c with touchColl := false }
  else c

/-- An input item's effect on the control locals (lines 699-717). -/
def InputCtl.input (c : InputCtl) (hi : HidItem) : InputCtl :=
  if c.accepts E hi then
    let c := { c with reportId := hi.reportID % 256 }
    if hi.collevel == 1 && hi.usage == E.hidUsage2 E.hupDigitizers E.hudContactcount
    then { c with contCountFound := true }
    else if hi.collevel == 1 && hi.usage == E.hidUsage2 E.hupDigitizers E.hudScanTime
    then { c with scanTimeFound := true }
    else c
  else c

/-- One item of the input walk on the control locals. -/
def InputCtl.step (c : InputCtl) (hi : HidItem) : InputCtl :=
  match hi.kind with
  | .collection => c.collection E hi
  | .endcollection => c.endcollection hi
  | .input => c.input E hi
  | _ => c

/-- Channel `i` taken by item `hi` of finger `cont` (lines 744-757): its location, and for the
first finger its `caps` bit and axis info. -/
def bindChan (hi : HidItem) (cont : Nat) (i : Fin wmtNUsages) (l : InputLocals) : InputLocals :=
  let s := { l.sc with
    locs := Function.update l.sc.locs cont (Function.update (l.sc.locs cont) i hi.loc) }
  if 0 < cont then { l with sc := s }
  else { l with
    caps := l.caps ||| 1 <<< i.val,
    sc := { s with
      ai := Function.update s.ai i ⟨hi.logicalMinimum, hi.logicalMaximum, E.hidItemResolution hi⟩ } }

/-- The usage search for item `hi` of finger `cont`, over the channels `is` left to try. -/
def usageSearch (hi : HidItem) (cont : Nat) : List (Fin wmtNUsages) → InputLocals → InputLocals
  | [], l => l
  | i :: is, l =>
    if hi.usage == (wmtHidMap E i).usage then
      if !attach then
        if usageSupported l.caps i then usageSearch hi cont is l
        else { l with caps := l.caps ||| 1 <<< i.val }
      else if (l.sc.locs cont i).size != 0 then usageSearch hi cont is l
      else bindChan E hi cont i l
    else usageSearch hi cont is l

/-- One input-walk item (lines 694-761). -/
def inputItem (l : InputLocals) (hi : HidItem) : InputLocals :=
  match hi.kind with
  | .collection => { l with ctl := l.ctl.collection E hi }
  | .endcollection => { l with ctl := l.ctl.endcollection hi }
  | .input =>
    if l.ctl.accepts E hi then
      let l := { l with ctl := { l.ctl with reportId := hi.reportID % 256 } }
      if hi.collevel == 1 && hi.usage == E.hidUsage2 E.hupDigitizers E.hudContactcount then
        { l with
          ctl := { l.ctl with contCountFound := true },
          sc := if attach then { l.sc with contCountLoc := hi.loc } else l.sc }
      else if hi.collevel == 1 && hi.usage == E.hidUsage2 E.hupDigitizers E.hudScanTime then
        { l with ctl := { l.ctl with scanTimeFound := true } }
      else if !l.ctl.fingerColl || hi.collevel != 2 then l
      else if !attach && 0 < l.ctl.cont then l
      else if E.maxMtSlots ≤ l.ctl.cont then l
      else usageSearch E attach hi l.ctl.cont wmtUsages l
    else l
  | _ => l

/-- The input walk over a descriptor, from the locals' initial values. -/
def inputWalk (sc : ImtSoftc) (items : List HidItem) : InputLocals :=
  items.foldl (inputItem E attach) { sc := sc }

/-- The control locals after the items. -/
def ctlWalk (items : List HidItem) : InputCtl :=
  items.foldl (InputCtl.step E) {}

/-! ## What the control walk records -/

/-- An accepted input item at depth 1 with usage `u`: how the Contact Count and Scan Time items
are found. -/
def topPick (u : Int) (c : InputCtl) (hi : HidItem) : Bool :=
  hi.kind == .input && c.accepts E hi && hi.collevel == 1 && hi.usage == u

/-- The accepted depth-1 input items with usage `u`, in stream order. -/
def topItems (u : Int) (items : List HidItem) : List HidItem :=
  picks (InputCtl.step E) (topPick E u) {} items

/-- The close of a counted finger collection. -/
def fingerClose (c : InputCtl) (hi : HidItem) : Bool :=
  hi.kind == .endcollection && hi.collevel == 1 && c.fingerColl

/-- The open of a touch screen or touch pad collection at depth 1. -/
def touchOpen (hi : HidItem) : Bool :=
  hi.kind == .collection && hi.collevel == 1 && touchUsage E hi.usage

/-- The type that a touch collection's open gives. -/
def touchKind (hi : HidItem) : Nat :=
  if hi.usage == E.hidUsage2 E.hupDigitizers E.hudTouchpad then E.hudTouchpad
  else E.hudTouchscreen

section Fields

variable {E} (c : InputCtl) (hi : HidItem)

@[simp] theorem InputCtl.collection_contCountFound :
    (c.collection E hi).contCountFound = c.contCountFound := by
  simp only [InputCtl.collection, apply_ite InputCtl.contCountFound, ite_self]

@[simp] theorem InputCtl.collection_scanTimeFound :
    (c.collection E hi).scanTimeFound = c.scanTimeFound := by
  simp only [InputCtl.collection, apply_ite InputCtl.scanTimeFound, ite_self]

@[simp] theorem InputCtl.collection_cont : (c.collection E hi).cont = c.cont := by
  simp only [InputCtl.collection, apply_ite InputCtl.cont, ite_self]

@[simp] theorem InputCtl.collection_reportId : (c.collection E hi).reportId = c.reportId := by
  simp only [InputCtl.collection, apply_ite InputCtl.reportId, ite_self]

@[simp] theorem InputCtl.endcollection_contCountFound :
    (c.endcollection hi).contCountFound = c.contCountFound := by
  simp only [InputCtl.endcollection, apply_ite InputCtl.contCountFound, ite_self]

@[simp] theorem InputCtl.endcollection_scanTimeFound :
    (c.endcollection hi).scanTimeFound = c.scanTimeFound := by
  simp only [InputCtl.endcollection, apply_ite InputCtl.scanTimeFound, ite_self]

@[simp] theorem InputCtl.endcollection_type : (c.endcollection hi).type = c.type := by
  simp only [InputCtl.endcollection, apply_ite InputCtl.type, ite_self]

@[simp] theorem InputCtl.endcollection_reportId : (c.endcollection hi).reportId = c.reportId := by
  simp only [InputCtl.endcollection, apply_ite InputCtl.reportId, ite_self]

@[simp] theorem InputCtl.input_type : (c.input E hi).type = c.type := by
  simp only [InputCtl.input, apply_ite InputCtl.type, ite_self]

@[simp] theorem InputCtl.input_cont : (c.input E hi).cont = c.cont := by
  simp only [InputCtl.input, apply_ite InputCtl.cont, ite_self]

theorem InputCtl.input_contCountFound :
    (c.input E hi).contCountFound = (c.contCountFound || c.accepts E hi &&
      (hi.collevel == 1 && hi.usage == E.hidUsage2 E.hupDigitizers E.hudContactcount)) := by
  unfold InputCtl.input
  cases c.accepts E hi <;>
    cases hi.collevel == 1 && hi.usage == E.hidUsage2 E.hupDigitizers E.hudContactcount <;>
    simp [apply_ite InputCtl.contCountFound]

/-- Scan Time is looked for only after the Contact Count test fails (lines 712-716). -/
theorem InputCtl.input_scanTimeFound :
    (c.input E hi).scanTimeFound = (c.scanTimeFound || c.accepts E hi &&
      !(hi.collevel == 1 && hi.usage == E.hidUsage2 E.hupDigitizers E.hudContactcount) &&
      (hi.collevel == 1 && hi.usage == E.hidUsage2 E.hupDigitizers E.hudScanTime)) := by
  unfold InputCtl.input
  cases c.accepts E hi <;>
    cases hi.collevel == 1 && hi.usage == E.hidUsage2 E.hupDigitizers E.hudContactcount <;>
    cases hi.collevel == 1 && hi.usage == E.hidUsage2 E.hupDigitizers E.hudScanTime <;> simp

end Fields

theorem InputCtl.step_contCountFound (c : InputCtl) (hi : HidItem) :
    (c.step E hi).contCountFound = (c.contCountFound || topPick E
      (E.hidUsage2 E.hupDigitizers E.hudContactcount) c hi) := by
  unfold InputCtl.step topPick
  cases hi.kind <;> simp [InputCtl.input_contCountFound, Bool.and_assoc]

theorem InputCtl.step_scanTimeFound (c : InputCtl) (hi : HidItem) :
    (c.step E hi).scanTimeFound = (c.scanTimeFound || topPick E
      (E.hidUsage2 E.hupDigitizers E.hudScanTime) c hi) := by
  have hne : E.hidUsage2 E.hupDigitizers E.hudScanTime ≠
      E.hidUsage2 E.hupDigitizers E.hudContactcount := E.usages_get_ne 15 14 (by decide)
  unfold InputCtl.step topPick
  cases hi.kind <;> simp only [InputCtl.collection_scanTimeFound,
    InputCtl.endcollection_scanTimeFound, InputCtl.input_scanTimeFound] <;> try simp
  by_cases hu : hi.usage = E.hidUsage2 E.hupDigitizers E.hudScanTime
  · simp [hu, beq_false_of_ne hne]
  · simp [beq_false_of_ne hu]

theorem InputCtl.step_cont (c : InputCtl) (hi : HidItem) :
    (c.step E hi).cont = c.cont + if fingerClose c hi then 1 else 0 := by
  unfold InputCtl.step fingerClose
  cases hi.kind <;> simp only [InputCtl.collection_cont, InputCtl.input_cont] <;> try rfl
  unfold InputCtl.endcollection
  by_cases h : (hi.collevel == 1 && c.fingerColl) = true
  · simp [h]
  · simp only [h, if_false, apply_ite InputCtl.cont, ite_self]; simp [h]

theorem InputCtl.step_type (c : InputCtl) (hi : HidItem) :
    (c.step E hi).type = if touchOpen E hi then touchKind E hi else c.type := by
  have hne : E.hidUsage2 E.hupDigitizers E.hudTouchscreen ≠
      E.hidUsage2 E.hupDigitizers E.hudTouchpad := E.usages_get_ne 10 11 (by decide)
  unfold InputCtl.step touchOpen
  cases hi.kind <;> simp only [InputCtl.endcollection_type, InputCtl.input_type] <;> try rfl
  unfold InputCtl.collection touchKind touchUsage
  by_cases h1 : hi.collevel = 1
  · by_cases hp : hi.usage = E.hidUsage2 E.hupDigitizers E.hudTouchpad
    · simp [h1, hp]
    · by_cases hs : hi.usage = E.hidUsage2 E.hupDigitizers E.hudTouchscreen
      · simp [h1, hs, hne]
      · simp [h1, hp, hs, apply_ite InputCtl.type]
  · simp [h1, apply_ite InputCtl.type]

/-- The Contact Count item is found when the walk accepts one. -/
theorem ctlWalk_contCountFound (items : List HidItem) :
    (ctlWalk E items).contCountFound =
      !(topItems E (E.hidUsage2 E.hupDigitizers E.hudContactcount) items).isEmpty :=
  foldl_flag _ _ InputCtl.contCountFound (InputCtl.step_contCountFound E) items {}

theorem ctlWalk_scanTimeFound (items : List HidItem) :
    (ctlWalk E items).scanTimeFound =
      !(topItems E (E.hidUsage2 E.hupDigitizers E.hudScanTime) items).isEmpty :=
  foldl_flag _ _ InputCtl.scanTimeFound (InputCtl.step_scanTimeFound E) items {}

/-- The finger collections the walk counts, by their closes. -/
def fingerCloses (items : List HidItem) : List HidItem :=
  picks (InputCtl.step E) fingerClose {} items

/-- `cont` counts the finger collections closed. -/
theorem ctlWalk_cont (items : List HidItem) :
    (ctlWalk E items).cont = (fingerCloses E items).length :=
  (foldl_count _ _ InputCtl.cont (InputCtl.step_cont E) items {}).trans (Nat.zero_add _)

/-- Every finger collection counted is closed by an End Collection item of the stream. -/
theorem fingerCloses_length_le (items : List HidItem) :
    (fingerCloses E items).length ≤ items.countP (fun hi => hi.kind == .endcollection) := by
  rw [List.countP_eq_length_filter, ← picks_const (InputCtl.step E) _ _ ({} : InputCtl)]
  refine (picks_sublist _ _ (fun c hi h => ?_) items ({} : InputCtl)).length_le
  simp only [fingerClose, Bool.and_eq_true] at h
  exact h.1.1

/-- The type is that of the last touch collection opened at depth 1, `0` for none. -/
theorem ctlWalk_type (items : List HidItem) :
    (ctlWalk E items).type = ((items.filter (touchOpen E)).getLast?.map (touchKind E)).getD 0 := by
  rw [ctlWalk, foldl_last _ _ InputCtl.type (touchKind E) (InputCtl.step_type E), picks_const]

theorem usageSearch_ctl (hi : HidItem) (cont : Nat) (is : List (Fin wmtNUsages))
    (l : InputLocals) : (usageSearch E attach hi cont is l).ctl = l.ctl := by
  induction is generalizing l with
  | nil => rfl
  | cons i is ih => simp only [usageSearch, bindChan, apply_ite InputLocals.ctl, ih, ite_self]

theorem inputItem_ctl (l : InputLocals) (hi : HidItem) :
    (inputItem E attach l hi).ctl = l.ctl.step E hi := by
  unfold inputItem InputCtl.step InputCtl.input
  cases hi.kind <;> simp only [apply_ite InputLocals.ctl, usageSearch_ctl, ite_self]

theorem foldl_inputItem_ctl (items : List HidItem) (l : InputLocals) :
    (items.foldl (inputItem E attach) l).ctl = items.foldl (InputCtl.step E) l.ctl := by
  induction items generalizing l with
  | nil => rfl
  | cons hi his ih => simp only [List.foldl_cons, ih, inputItem_ctl]

theorem inputWalk_ctl (sc : ImtSoftc) (items : List HidItem) :
    (inputWalk E attach sc items).ctl = ctlWalk E items :=
  foldl_inputItem_ctl E attach items _

/-- The channels of the table with usage `u`, in table order. -/
def usageChans (u : Int) : List (Fin wmtNUsages) :=
  wmtUsages.filter fun i => (wmtHidMap E i).usage == u

theorem mem_usageChans (u : Int) (i : Fin wmtNUsages) :
    i ∈ usageChans E u ↔ (wmtHidMap E i).usage = u := by
  simp [usageChans, mem_wmtUsages]

theorem usageChans_eq (c : Fin wmtNUsages) :
    usageChans E (wmtHidMap E c).usage = wmtUsages.filter fun i => usageIdx i == usageIdx c := by
  unfold usageChans
  apply List.filter_congr
  intro i _
  rw [Bool.eq_iff_iff]
  simp only [beq_iff_eq, wmtHidMap_usage_eq_iff]

/-- Channel `c` is the first of the table with its usage: every channel but `WMT_TOOL_X` and
`WMT_TOOL_Y`. -/
def FirstChan (c : Fin wmtNUsages) : Prop :=
  ∃ rest, usageChans E (wmtHidMap E c).usage = c :: rest ∧ c ∉ rest

theorem firstChan_of_required {c : Fin wmtNUsages} (h : (wmtHidMap E c).required = true) :
    FirstChan E c := by
  unfold FirstChan
  rw [usageChans_eq]
  fin_cases c <;> first
    | exact absurd h Bool.false_ne_true
    | exact ⟨_, rfl, by decide⟩

/-- With a softc, the search takes the first channel of the item's usage whose location is
empty. -/
theorem usageSearch_attach (hi : HidItem) (cont : Nat) (is : List (Fin wmtNUsages))
    (l : InputLocals) :
    usageSearch E true hi cont is l =
      match (is.filter fun i => (wmtHidMap E i).usage == hi.usage).find?
          (fun i => (l.sc.locs cont i).size == 0) with
      | none => l
      | some i => bindChan E hi cont i l := by
  induction is with
  | nil => rfl
  | cons i is ih =>
    unfold usageSearch
    by_cases hu : hi.usage = (wmtHidMap E i).usage
    · rw [List.filter_cons_of_pos (by simp [hu])]
      by_cases hs : (l.sc.locs cont i).size = 0
      · rw [List.find?_cons_of_pos _ (by simp [hs])]; simp [hu, hs]
      · have hs' : ¬(l.sc.locs cont i).size = 0#32 := hs
        rw [List.find?_cons_of_neg _ (by simp [hs']), ← ih]; simp [hu, hs']
    · rw [List.filter_cons_of_neg (by simp [Ne.symm hu]), ← ih]; simp [hu]

/-- Without a softc, the search takes the first channel of the item's usage whose `caps` bit is
clear. -/
theorem usageSearch_probe (hi : HidItem) (cont : Nat) (is : List (Fin wmtNUsages))
    (l : InputLocals) :
    usageSearch E false hi cont is l =
      match (is.filter fun i => (wmtHidMap E i).usage == hi.usage).find?
          (fun i => !usageSupported l.caps i) with
      | none => l
      | some i => { l with caps := l.caps ||| 1 <<< i.val } := by
  induction is with
  | nil => rfl
  | cons i is ih =>
    unfold usageSearch
    by_cases hu : hi.usage = (wmtHidMap E i).usage
    · rw [List.filter_cons_of_pos (by simp [hu])]
      by_cases hs : usageSupported l.caps i
      · rw [List.find?_cons_of_neg _ (by simp [hs]), ← ih]; simp [hu, hs]
      · rw [List.find?_cons_of_pos _ (by simp [hs])]; simp [hu, hs]
    · rw [List.filter_cons_of_neg (by simp [Ne.symm hu]), ← ih]; simp [hu]

/-- Item `hi` is offered to the usage search as an item of finger `k` with usage `u` (before
the cap on `k`): accepted, at depth 2 in a counted finger collection, after `k` counted finger
collections have closed. -/
def fingerPick (k : Nat) (u : Int) (c : InputCtl) (hi : HidItem) : Bool :=
  hi.kind == .input && c.accepts E hi && c.fingerColl && hi.collevel == 2 && c.cont == k &&
    hi.usage == u

/-- The items of finger `k` with usage `u`, in stream order. -/
def fingerItems (k : Nat) (u : Int) (items : List HidItem) : List HidItem :=
  picks (InputCtl.step E) (fingerPick E k u) {} items

end

end Imt
