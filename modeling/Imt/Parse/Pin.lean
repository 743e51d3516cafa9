import Imt.Parse.Bind

/-!
# The report the input walk pins

The input walk takes items of one input report: `report_id` starts at `0`, the first item taken
sets it to the low byte of the item's report id (it is a `uint8_t`), and from then on an item is
taken only in that report. `0` also stands for "not pinned yet", so items whose report id has a
low byte of `0` are taken before the report is pinned, whatever report follows.

* `InputCtl.step_reportId`, `ctlWalk_reportId_lt`, `foldl_step_reportId_pinned`: what one item
  does to `report_id`, and that a nonzero one never changes.
* `acceptedItems_reportId`: the report ids (low byte) of the items taken are some `0`s and then
  the final `report_id`.
* `InputCtl.step_fingerColl`: `finger_coll` is set by a finger collection's open
  (`fingerOpen`) and cleared by the close that counts it.
* `wmtHidParse_report`: on a successful attach, the items taken are as above, a finger
  collection opened once the report is pinned is in it, and the Contact Count location and every
  nonempty finger location are those of items taken.
* `wmtHidParse_contCountUnpinned`: a touch pad whose Contact Count item is in report `0`, and the
  rest in report `1`, is accepted with the Contact Count location of its report-`0` item.
-/

namespace Imt

section

variable (E : Hid)

/-- An input item the walk takes (lines 699-701). -/
def acceptPick (c : InputCtl) (hi : HidItem) : Bool :=
  hi.kind == .input && c.accepts E hi

/-- The input items the walk takes, in stream order. -/
def acceptedItems (items : List HidItem) : List HidItem :=
  picks (InputCtl.step E) (acceptPick E) {} items

/-- A finger collection open (lines 681-685): the open that sets `finger_coll`. -/
def fingerOpen (c : InputCtl) (hi : HidItem) : Bool :=
  hi.kind == .collection && c.touchColl && hi.collevel == 2 &&
    (c.reportId == 0 || c.reportId == hi.reportID) &&
    hi.usage == E.hidUsage2 E.hupDigitizers E.hudFinger

/-! ## `report_id` along the walk -/

theorem InputCtl.step_reportId (c : InputCtl) (hi : HidItem) :
    (c.step E hi).reportId = if acceptPick E c hi then hi.reportID % 256 else c.reportId := by
  unfold InputCtl.step acceptPick
  cases hk : hi.kind <;>
    simp [InputCtl.input, apply_ite InputCtl.reportId, ite_self]

theorem InputCtl.step_reportId_lt {c : InputCtl} (h : c.reportId < 256) (hi : HidItem) :
    (c.step E hi).reportId < 256 := by
  rw [InputCtl.step_reportId]
  split
  · exact Nat.mod_lt _ (by decide)
  · exact h

theorem ctlWalk_reportId_lt (items : List HidItem) : (ctlWalk E items).reportId < 256 := by
  suffices ∀ c : InputCtl, c.reportId < 256 → (items.foldl (InputCtl.step E) c).reportId < 256
    from this {} (by decide)
  induction items with
  | nil => exact fun _ h => h
  | cons hi his ih => exact fun c h => ih _ (InputCtl.step_reportId_lt E h hi)

/-- A pinned report stays: an item taken then has the report's id. -/
theorem InputCtl.step_reportId_pinned {c : InputCtl} (h0 : c.reportId ≠ 0)
    (hlt : c.reportId < 256) (hi : HidItem) : (c.step E hi).reportId = c.reportId := by
  rw [InputCtl.step_reportId]
  split
  · rename_i hp
    simp only [acceptPick, InputCtl.accepts, h0, Bool.and_eq_true, Bool.or_eq_true, beq_iff_eq,
      false_or] at hp
    rw [← hp.2.2, Nat.mod_eq_of_lt hlt]
  · rfl

theorem foldl_step_reportId_pinned (items : List HidItem) {c : InputCtl} (h0 : c.reportId ≠ 0)
    (hlt : c.reportId < 256) : (items.foldl (InputCtl.step E) c).reportId = c.reportId := by
  induction items generalizing c with
  | nil => rfl
  | cons hi his ih =>
    have hs := InputCtl.step_reportId_pinned E h0 hlt hi
    rw [List.foldl_cons, ih (hs ▸ h0) (hs ▸ hlt), hs]

theorem ctlWalk_concat (xs : List HidItem) (hi : HidItem) :
    ctlWalk E (xs ++ [hi]) = (ctlWalk E xs).step E hi := by
  simp only [ctlWalk, List.foldl_append, List.foldl_cons, List.foldl_nil]

/-- The items taken are, by the low byte of their report id, some items of report `0` and then
items of the final report. -/
theorem acceptedItems_reportId (items : List HidItem) :
    ∃ a b, (acceptedItems E items).map (fun hi => hi.reportID % 256) =
      List.replicate a 0 ++ List.replicate b (ctlWalk E items).reportId := by
  induction items using List.reverseRecOn with
  | nil => exact ⟨0, 0, rfl⟩
  | append_singleton xs hi ih =>
    obtain ⟨a, b, h⟩ := ih
    rw [acceptedItems, picks_concat, ← acceptedItems, List.map_append, h, ← ctlWalk,
      ctlWalk_concat, InputCtl.step_reportId]
    split
    · rename_i hp
      simp only [acceptPick, InputCtl.accepts, Bool.and_eq_true, Bool.or_eq_true, beq_iff_eq] at hp
      rcases hp.2.2 with h0 | he
      · -- the report is not pinned yet: every item so far is of report `0`
        exact ⟨a + b, 1, by rw [h0, List.replicate_add]; simp only [List.append_assoc]; rfl⟩
      · -- the item is of the pinned report
        have hr : hi.reportID % 256 = (ctlWalk E xs).reportId := by
          rw [← he, Nat.mod_eq_of_lt (ctlWalk_reportId_lt E xs)]
        exact ⟨a, b + 1, by simp [hr, List.replicate_succ']⟩
    · exact ⟨a, b, by simp⟩

/-- A finger collection opened once the report is pinned is in the final report. -/
theorem pinnedFingerOpens_reportId (items : List HidItem) :
    ∀ hi ∈ picks (InputCtl.step E) (fun c hi => fingerOpen E c hi && c.reportId != 0) {} items,
      hi.reportID = (ctlWalk E items).reportId := by
  intro hi hm
  obtain ⟨pre, post, rfl, hp⟩ := (mem_picks _ _).mp hm
  have hlt := ctlWalk_reportId_lt E pre
  simp only [fingerOpen, Bool.and_eq_true, bne_iff_ne, ne_eq, Bool.or_eq_true, beq_iff_eq] at hp
  have h0 : (ctlWalk E pre).reportId ≠ 0 := hp.2
  have hcoll : ((ctlWalk E pre).step E hi).reportId = (ctlWalk E pre).reportId := by
    rw [InputCtl.step_reportId_pinned E h0 hlt]
  rw [ctlWalk, List.foldl_append, List.foldl_cons, ← ctlWalk,
    foldl_step_reportId_pinned E post (hcoll ▸ h0) (hcoll ▸ hlt), hcoll]
  exact (hp.1.1.2.resolve_left h0).symm

theorem HidKind.beq_eq_decide (a b : HidKind) : (a == b) = decide (a = b) := rfl

/-- `finger_coll` after an item: set by a finger collection's open, cleared by the close that
counts the collection. -/
theorem InputCtl.step_fingerColl (c : InputCtl) (hi : HidItem) :
    (c.step E hi).fingerColl = (fingerOpen E c hi || c.fingerColl && !fingerClose c hi) := by
  unfold InputCtl.step fingerClose fingerOpen
  cases hk : hi.kind <;> simp only [InputCtl.collection, InputCtl.endcollection, InputCtl.input,
    HidKind.beq_eq_decide, apply_ite InputCtl.fingerColl, ite_self] <;> simp
  case collection =>
    split_ifs <;> simp_all
    rw [Bool.eq_iff_iff]; simp
  case endcollection => rw [Bool.eq_iff_iff]; simp [and_comm]

/-! ## What the attach records -/

theorem acceptPick_of_topPick {u : Int} {c : InputCtl} {hi : HidItem} (h : topPick E u c hi = true) :
    acceptPick E c hi = true := by
  simp only [topPick, Bool.and_eq_true] at h
  simp [acceptPick, h.1.1]

/-- The Contact Count location after an item of the attach's walk. -/
theorem attachItem_contCountLoc (l : InputLocals) (hi : HidItem) :
    (inputItem E true l hi).sc.contCountLoc =
      if topPick E (E.hidUsage2 E.hupDigitizers E.hudContactcount) l.ctl hi then hi.loc
      else l.sc.contCountLoc := by
  rw [attachItem_eq]
  split
  · rename_i hs
    have ht : topPick E (E.hidUsage2 E.hupDigitizers E.hudContactcount) l.ctl hi = false := by
      simp only [searchPick, Bool.and_eq_true, beq_iff_eq] at hs
      simp [topPick, hs.1.2]
    simp only [ht, Bool.false_eq_true, if_false]
    rcases attachSearch_cases E hi l.ctl.cont { l with ctl := l.ctl.step E hi } with
      he | ⟨i, -, he⟩ <;> rw [he]
    rw [bindChan_contCountLoc]
  · rfl

/-- The Contact Count location is that of the last Contact Count item taken. -/
theorem inputWalk_contCountLoc (sc : ImtSoftc) (items : List HidItem) :
    (inputWalk E true sc items).sc.contCountLoc =
      ((topItems E (E.hidUsage2 E.hupDigitizers E.hudContactcount) items).getLast?.map
        HidItem.loc).getD sc.contCountLoc := by
  rw [inputWalk, foldl_last (inputItem E true) (fun l => topPick E _ l.ctl)
      (fun l => l.sc.contCountLoc) HidItem.loc (attachItem_contCountLoc E) items,
    picks_proj _ (InputCtl.step E) InputLocals.ctl _ (inputItem_ctl E true)]
  rfl

/-- Every location of the table is empty or that of an item of `A`. -/
def LocsFrom (A : List HidItem) (locs : Nat → Fin wmtNUsages → HidLocation) : Prop :=
  ∀ k c, locs k c = default ∨ ∃ hi ∈ A, locs k c = hi.loc

theorem LocsFrom.mono {A A' : List HidItem} {locs : Nat → Fin wmtNUsages → HidLocation}
    (h : LocsFrom A locs) (hA : A ⊆ A') : LocsFrom A' locs :=
  fun k c => (h k c).imp id fun ⟨x, hx, e⟩ => ⟨x, hA hx, e⟩

/-- An item of the attach's walk binds only a location of its own, and only when it is taken. -/
theorem locsFrom_step {A : List HidItem} {l : InputLocals} (h : LocsFrom A l.sc.locs)
    (hi : HidItem) :
    LocsFrom (A ++ if acceptPick E l.ctl hi then [hi] else []) (inputItem E true l hi).sc.locs := by
  rw [attachItem_eq]
  by_cases hs : searchPick E l.ctl hi = true
  · have ha : acceptPick E l.ctl hi = true := by
      simp only [searchPick, Bool.and_eq_true] at hs
      simp [acceptPick, hs.1.1.1]
    rw [if_pos hs, if_pos ha]
    have h' := h.mono (List.subset_append_left A [hi])
    rcases attachSearch_cases E hi l.ctl.cont { l with ctl := l.ctl.step E hi } with
      he | ⟨i, -, he⟩ <;> rw [he]
    · exact h'
    · intro k c
      rw [bindChan_locs]
      by_cases hk : k = l.ctl.cont
      · subst hk
        rw [Function.update_same]
        by_cases hc : c = i
        · subst hc; exact .inr ⟨hi, by simp, Function.update_same _ _ _⟩
        · rw [Function.update_noteq hc]; exact h' _ _
      · rw [Function.update_noteq hk]; exact h' _ _
  · rw [if_neg hs]
    exact h.mono (List.subset_append_left _ _)

theorem attachWalk_locsFrom (items : List HidItem) (l : InputLocals) (hl : LocsFrom [] l.sc.locs) :
    LocsFrom (picks (InputCtl.step E) (acceptPick E) l.ctl items)
      (items.foldl (inputItem E true) l).sc.locs := by
  induction items using List.reverseRecOn with
  | nil => exact hl
  | append_singleton xs hi ih =>
    have h := locsFrom_step E ih hi
    rw [foldl_inputItem_ctl] at h
    simpa only [picks_concat, List.foldl_append, List.foldl_cons, List.foldl_nil] using h

/-- A call that returns a type found a Contact Count item and returns the finished softc. -/
theorem wmtHidParse_pos {sc : ImtSoftc} {items : List HidItem}
    (h : (wmtHidParse E true sc items).1 ≠ 0) :
    (ctlWalk E items).contCountFound = true ∧
      (wmtHidParse E true sc items).2 = wmtHidParseFinish E items (featureWalk E true sc items)
        (inputWalk E true (featureWalk E true sc items).sc items) := by
  rw [← inputWalk_ctl E true (featureWalk E true sc items).sc]
  simp only [wmtHidParse, Bool.not_true, Bool.false_eq_true, if_false] at h ⊢
  split_ifs at h ⊢ with h1 h2
  iterate 3 exact absurd rfl h
  refine ⟨?_, rfl⟩
  simp only [Bool.or_eq_true, Bool.not_eq_true', beq_iff_eq, not_or] at h2
  simpa using h2.1.1

/-- A call that returns a type counted a finger collection. -/
theorem ctlWalk_cont_pos {attach : Bool} {sc : ImtSoftc} {items : List HidItem}
    (h : (wmtHidParse E attach sc items).1 ≠ 0) : 0 < (ctlWalk E items).cont := by
  rw [← inputWalk_ctl E attach (featureWalk E attach sc items).sc]
  refine Nat.pos_of_ne_zero fun h0 => h ?_
  simp only [wmtHidParse, h0, beq_self_eq_true, Bool.or_true, if_true, apply_ite Prod.fst,
    ite_self]

/-- A call that returns a type returns `HUD_TOUCHSCREEN` or `HUD_TOUCHPAD`. -/
theorem wmtHidParse_type_cases {attach : Bool} {sc : ImtSoftc} {items : List HidItem}
    (h : (wmtHidParse E attach sc items).1 ≠ 0) :
    (wmtHidParse E attach sc items).1 = E.hudTouchscreen ∨
      (wmtHidParse E attach sc items).1 = E.hudTouchpad := by
  have ht : (wmtHidParse E attach sc items).1 = 0 ∨
      (wmtHidParse E attach sc items).1 = (ctlWalk E items).type := by
    rw [← inputWalk_ctl E attach (featureWalk E attach sc items).sc]
    simp only [wmtHidParse, apply_ite Prod.fst]
    split_ifs <;> simp
  rcases ht with ht | ht
  · exact absurd ht h
  rw [ht, ctlWalk_type] at h ⊢
  cases hl : (items.filter (touchOpen E)).getLast? with
  | none => rw [hl] at h; exact absurd rfl h
  | some hi =>
    simp only [Option.map_some', Option.getD_some, touchKind]
    split
    exacts [.inr rfl, .inl rfl]

/-- A call that returns a type in attach mode reports every required channel in `caps`. -/
theorem wmtHidParse_required {sc : ImtSoftc} {items : List HidItem}
    (h : (wmtHidParse E true sc items).1 ≠ 0) {i : Fin wmtNUsages}
    (hr : (wmtHidMap E i).required = true) :
    usageSupported (wmtHidParse E true sc items).2.caps i = true := by
  have ho : i ≠ wmtOrientation := by
    rintro rfl
    exact absurd hr Bool.false_ne_true
  obtain ⟨-, he⟩ := wmtHidParse_pos E h
  rw [he, wmtHidParseFinish_caps _ _ _ ho]
  simp only [wmtHidParse, Bool.not_true, Bool.false_eq_true, if_false] at h
  split_ifs at h with h1 h2 h3
  iterate 3 exact absurd rfl h
  have hi := List.any_eq_false.1 (Bool.eq_false_iff.2 h3) i (mem_wmtUsages i)
  simpa [hr] using hi

/-- On a successful attach with an empty location table, the items taken are some items of
report `0` and then items of the final `report_id`, a finger collection opened once the report is
pinned is in it, and the Contact Count location and every nonempty location of the table are
those of items taken. -/
theorem wmtHidParse_report (sc : ImtSoftc) (items : List HidItem)
    (hs : ∀ k c, sc.locs k c = default) (h : (wmtHidParse E true sc items).1 ≠ 0) :
    (∃ a b, (acceptedItems E items).map (fun hi => hi.reportID % 256) =
        List.replicate a 0 ++ List.replicate b (wmtHidParse E true sc items).2.reportId) ∧
      (∀ hi ∈ picks (InputCtl.step E) (fun c hi => fingerOpen E c hi && c.reportId != 0) {} items,
        hi.reportID = (wmtHidParse E true sc items).2.reportId) ∧
      (∃ hi ∈ acceptedItems E items, (wmtHidParse E true sc items).2.contCountLoc = hi.loc) ∧
      (∀ k c, ((wmtHidParse E true sc items).2.locs k c).size ≠ 0 →
        ∃ hi ∈ acceptedItems E items, (wmtHidParse E true sc items).2.locs k c = hi.loc) := by
  obtain ⟨hcc, he⟩ := wmtHidParse_pos E h
  rw [he, wmtHidParseFinish_reportId, inputWalk_ctl, wmtHidParseFinish_contCountLoc,
    wmtHidParseFinish_locs]
  refine ⟨acceptedItems_reportId E items, pinnedFingerOpens_reportId E items, ?_, fun k c hk => ?_⟩
  · -- the last Contact Count item taken
    rw [ctlWalk_contCountFound, Bool.not_eq_true', List.isEmpty_eq_false] at hcc
    rw [inputWalk_contCountLoc]
    cases hl : (topItems E (E.hidUsage2 E.hupDigitizers E.hudContactcount) items).getLast? with
    | none => exact absurd (List.getLast?_eq_none_iff.mp hl) hcc
    | some x =>
      exact ⟨x, (picks_sublist (InputCtl.step E) (topPick E _)
        (fun _ _ => acceptPick_of_topPick E) items {}).subset (List.mem_of_getLast?_eq_some hl), rfl⟩
  · -- a nonempty location of the table
    have hL := attachWalk_locsFrom E items { sc := (featureWalk E true sc items).sc }
      (fun k c => .inl (by simp only [featureWalk_locs, hs]))
    exact (hL k c).resolve_left fun h0 => hk (by rw [inputWalk, h0]; rfl)

end

theorem wmtHidParse_report_sample :
    (∀ k c, ({} : ImtSoftc).locs k c = default) ∧ (wmtHidParse Hid.freeBSD true {} sampleTouchpad).1 ≠ 0 ∧
      ∃ a b, (acceptedItems Hid.freeBSD sampleTouchpad).map (fun hi => hi.reportID % 256) =
        List.replicate a 0 ++
          List.replicate b (wmtHidParse Hid.freeBSD true {} sampleTouchpad).2.reportId :=
  ⟨fun _ _ => rfl, by decide,
    (wmtHidParse_report Hid.freeBSD {} sampleTouchpad (fun _ _ => rfl) (by decide)).1⟩

/-- `sampleTouchpad` with its Contact Count item in report `0`. -/
def contCountUnpinnedTouchpad : List HidItem :=
  sampleTouchpad.set 2 (.field .input 1 (Hid.freeBSD.hidUsage2 0x0d 0x54) 0 0 8 5)

/-- It is accepted, with `report_id` 1 and the Contact Count location of the report-`0` item:
no input item of report 1 has that location. -/
theorem wmtHidParse_contCountUnpinned :
    (wmtHidParse Hid.freeBSD true {} contCountUnpinnedTouchpad).1 ≠ 0 ∧
      (wmtHidParse Hid.freeBSD true {} contCountUnpinnedTouchpad).2.reportId = 1 ∧
      (wmtHidParse Hid.freeBSD true {} contCountUnpinnedTouchpad).2.contCountLoc = ⟨8, 1, 0⟩ ∧
      ∀ hi ∈ contCountUnpinnedTouchpad, hi.kind = .input → hi.reportID = 1 → hi.loc ≠ ⟨8, 1, 0⟩ := by
  refine ⟨by decide, by decide, by decide, by decide⟩

end Imt
