import Imt.Parse.Accept
import Mathlib.Data.List.GetD

/-!
# What the attach's input walk binds

With a softc, the input walk of `wmt_hid_parse` fills `sc->locs`, `sc->ai` and the local `caps`.
`attachItem_eq` says once what one item does: an item that `searchPick` selects goes to the
usage search, any other changes at most the Contact Count location. From it:

* `attachWalk_bound`: finger `k`'s channels of usage `u` hold, in table order, the locations
  of finger `k`'s items of usage `u` in stream order (`Bound`), as long as those have nonzero
  size: the first X item goes to `WMT_X`, the second to `WMT_TOOL_X`, a third nowhere.
* `attachWalk_locs_cap`: no location of a finger at or past `MAX_MT_SLOTS` is written.
* `attachWalk_capsInv`: a `caps` bit is set only by a binding of the first finger, and the
  channel's axis info comes from the item its first-finger location comes from (`CapsInv`).
* `wmtHidParse_bind`: the same of `wmt_hid_parse`'s result on a softc with an empty location
  table, when pass 1 finds a Contact Count Maximum item; `wmtHidParse_noCcm`: without one,
  `wmt_hid_parse` returns before pass 2 and binds nothing.
-/

namespace Imt

/-- `List.find?` returns the element at `m` when the predicate fails before `m` and holds
at `m`. -/
theorem find?_eq_getElem? {α : Type} (q : α → Bool) (l : List α) (m : Nat)
    (hpre : ∀ j (hj : j < l.length), j < m → q l[j] = false)
    (hm : ∀ hm : m < l.length, q l[m] = true) : l.find? q = l[m]? := by
  induction l generalizing m with
  | nil => rfl
  | cons x xs ih =>
    cases m with
    | zero =>
      have hx : q x = true := hm (Nat.zero_lt_succ _)
      rw [List.find?_cons_of_pos _ hx, List.getElem?_cons_zero]
    | succ m =>
      rw [List.find?_cons_of_neg _ (by simpa using hpre 0 (Nat.zero_lt_succ _) (Nat.zero_lt_succ _)),
        ih m (fun j hj hjm => hpre (j + 1) (by simpa using hj) (by omega))
          (fun h => hm (by simpa using h)), List.getElem?_cons_succ]

section

variable (E : Hid)

/-! ## One item of the attach's walk -/

/-- The item goes to the usage search: an accepted input item at depth 2 of a finger
collection, for a finger below `MAX_MT_SLOTS`. -/
def searchPick (c : InputCtl) (hi : HidItem) : Bool :=
  hi.kind == .input && c.accepts E hi && c.fingerColl && hi.collevel == 2 &&
    decide (c.cont < E.maxMtSlots)

/-- The axis info that a binding of the first finger gives a channel. -/
def itemAbsinfo (hi : HidItem) : WmtAbsinfo :=
  ⟨hi.logicalMinimum, hi.logicalMaximum, E.hidItemResolution hi⟩

/-- What one item of the attach's walk does. -/
theorem attachItem_eq (l : InputLocals) (hi : HidItem) :
    inputItem E true l hi =
      if searchPick E l.ctl hi then
        usageSearch E true hi l.ctl.cont wmtUsages { l with ctl := l.ctl.step E hi }
      else { l with
        ctl := l.ctl.step E hi
        sc := { l.sc with
          contCountLoc := (if topPick E (E.hidUsage2 E.hupDigitizers E.hudContactcount) l.ctl hi
            then hi.loc else l.sc.contCountLoc) } } := by
  unfold inputItem searchPick topPick
  cases hk : hi.kind <;> simp only [InputCtl.step, hk] <;> try rfl
  unfold InputCtl.input
  by_cases ha : l.ctl.accepts E hi = true
  swap
  · simp only [ha, Bool.false_eq_true, if_false, Bool.and_false, Bool.false_and]
  -- the Contact Count item
  by_cases hc : hi.collevel = 1 ∧ hi.usage = E.hidUsage2 E.hupDigitizers E.hudContactcount
  · simp [ha, hc]
  -- the Scan Time item
  have hne : E.hidUsage2 E.hupDigitizers E.hudScanTime ≠
      E.hidUsage2 E.hupDigitizers E.hudContactcount := E.usages_get_ne 15 14 (by decide)
  by_cases hs : hi.collevel = 1 ∧ hi.usage = E.hidUsage2 E.hupDigitizers E.hudScanTime
  · simp [ha, hs, hne]
  -- an item of a finger collection, searched below `MAX_MT_SLOTS`
  by_cases hf : l.ctl.fingerColl = true ∧ hi.collevel = 2
  · by_cases hm : E.maxMtSlots ≤ l.ctl.cont
    · simp [ha, hf, hm, Nat.not_lt.mpr hm]
    · simp [ha, hf, hm, Nat.lt_of_not_le hm]
  · have h2 : (!l.ctl.fingerColl || hi.collevel != 2) = true := by
      simpa [Bool.not_eq_true', imp_iff_not_or] using hf
    simp [ha, h2, hs, hc]
    rw [if_neg fun h => hf h.1]

section Bind

variable {E} (hi : HidItem) (k : Nat) (i : Fin wmtNUsages) (l : InputLocals)

@[simp] theorem bindChan_ctl : (bindChan E hi k i l).ctl = l.ctl := by
  unfold bindChan; split <;> rfl

@[simp] theorem bindChan_contCountLoc : (bindChan E hi k i l).sc.contCountLoc = l.sc.contCountLoc := by
  unfold bindChan; split <;> rfl

theorem bindChan_locs :
    (bindChan E hi k i l).sc.locs =
      Function.update l.sc.locs k (Function.update (l.sc.locs k) i hi.loc) := by
  unfold bindChan; split <;> rfl

theorem bindChan_caps :
    (bindChan E hi k i l).caps = if 0 < k then l.caps else l.caps ||| 1 <<< i.val := by
  unfold bindChan; split <;> rfl

theorem bindChan_ai :
    (bindChan E hi k i l).sc.ai =
      if 0 < k then l.sc.ai else Function.update l.sc.ai i (itemAbsinfo E hi) := by
  unfold bindChan; split <;> rfl

end Bind

/-- The search binds nothing, or one channel of the item's usage. -/
theorem attachSearch_cases (hi : HidItem) (k : Nat) (l : InputLocals) :
    usageSearch E true hi k wmtUsages l = l ∨
      ∃ i, (wmtHidMap E i).usage = hi.usage ∧
        usageSearch E true hi k wmtUsages l = bindChan E hi k i l := by
  rw [usageSearch_attach]
  split
  · exact .inl rfl
  · rename_i i hf
    have := List.mem_of_find?_eq_some hf
    rw [List.mem_filter, beq_iff_eq] at this
    exact .inr ⟨i, this.2, rfl⟩

theorem fingerPick_of_searchPick {c : InputCtl} {hi : HidItem} (hs : searchPick E c hi = true) :
    fingerPick E c.cont hi.usage c hi = true := by
  simp only [searchPick, Bool.and_eq_true] at hs
  simp [fingerPick, hs]

theorem searchPick_of_fingerPick {k : Nat} {u : Int} (hk : k < E.maxMtSlots) {c : InputCtl}
    {hi : HidItem} (hp : fingerPick E k u c hi = true) :
    searchPick E c hi = true ∧ c.cont = k ∧ hi.usage = u := by
  simp only [fingerPick, Bool.and_eq_true, beq_iff_eq] at hp
  simp [searchPick, hp, hk]

/-- Finger `k`'s location of channel `c` changes only with an item of finger `k` and `c`'s
usage. -/
theorem attachItem_locs_of_not_pick {k : Nat} {c : Fin wmtNUsages} (l : InputLocals)
    (hi : HidItem) (h : fingerPick E k (wmtHidMap E c).usage l.ctl hi = false) :
    (inputItem E true l hi).sc.locs k c = l.sc.locs k c := by
  rw [attachItem_eq]
  split
  · rename_i hs
    rcases attachSearch_cases E hi l.ctl.cont { l with ctl := l.ctl.step E hi } with
      he | ⟨i, hu, he⟩ <;> rw [he]
    rw [bindChan_locs]
    by_cases hk : k = l.ctl.cont
    · refine update_locs_ne _ _ _ _ fun hic => ?_
      subst hk hic
      rw [hu, fingerPick_of_searchPick E hs] at h
      exact Bool.false_ne_true h.symm
    · exact congrFun (update_locs_row _ _ _ hk) c
  · rfl

/-! ## Finger `k`'s channels of one usage -/

theorem usageChans_nodup (u : Int) : (usageChans E u).Nodup :=
  (List.nodup_finRange _).filter _

/-- The locations of finger `k`'s channels of usage `u` are those of the items `P`, in
order, and the channels past them are empty. -/
def Bound (locs : Nat → Fin wmtNUsages → HidLocation) (k : Nat) (u : Int) (P : List HidItem) :
    Prop :=
  ∀ j (hj : j < (usageChans E u).length),
    locs k (usageChans E u)[j] = (P.map HidItem.loc).getD j default

/-- The search of an item of finger `k` with usage `u` binds the first empty channel. -/
theorem bound_search {k : Nat} {u : Int} {l : InputLocals} {P : List HidItem}
    (hb : Bound E l.sc.locs k u P) (hP : ∀ x ∈ P, x.loc.size ≠ 0) {hi : HidItem}
    (hu : hi.usage = u) : Bound E (usageSearch E true hi k wmtUsages l).sc.locs k u (P ++ [hi]) := by
  have hfind : (usageChans E u).find? (fun i => (l.sc.locs k i).size == 0) =
      (usageChans E u)[P.length]? := by
    refine find?_eq_getElem? _ _ _ (fun j hj hjP => ?_) (fun hm => ?_)
    · rw [hb j hj, List.getD_eq_getElem _ _ (by simpa using hjP), List.getElem_map]
      simpa using hP _ (List.getElem_mem _)
    · rw [hb _ hm, List.getD_eq_default _ _ (by simp)]
      rfl
  rw [usageSearch_attach, show (wmtUsages.filter fun i => (wmtHidMap E i).usage == hi.usage) =
    usageChans E u by rw [← hu]; rfl, hfind]
  intro j hj
  by_cases hn : P.length < (usageChans E u).length
  · rw [List.getElem?_eq_getElem hn]
    dsimp only
    rw [bindChan_locs, Function.update_same]
    by_cases hjn : j = P.length
    · subst hjn
      rw [Function.update_same, List.map_append, List.getD_append_right _ _ _ _ (by simp)]
      simp
    · rw [Function.update_noteq (fun he => hjn ?_), hb j hj, List.map_append]
      · rcases Nat.lt_or_gt_of_ne hjn with hlt | hgt
        · rw [List.getD_append _ _ _ _ (by simpa using hlt)]
        · rw [List.getD_eq_default _ _ (by simpa using hgt.le),
            List.getD_eq_default _ _ (by simpa using hgt)]
      · exact (List.Nodup.getElem_inj_iff (usageChans_nodup E u)).mp he
  · rw [List.getElem?_eq_none (Nat.le_of_not_lt hn)]
    dsimp only
    rw [hb j hj, List.map_append, List.getD_append _ _ _ _ (by simpa using by omega)]

theorem bound_step {k : Nat} {u : Int} (hk : k < E.maxMtSlots) {l : InputLocals}
    {P : List HidItem} (hb : Bound E l.sc.locs k u P) (hP : ∀ x ∈ P, x.loc.size ≠ 0)
    (hi : HidItem) :
    Bound E (inputItem E true l hi).sc.locs k u
      (P ++ if fingerPick E k u l.ctl hi then [hi] else []) := by
  by_cases hp : fingerPick E k u l.ctl hi
  · obtain ⟨hs, hck, hu⟩ := searchPick_of_fingerPick E hk hp
    rw [if_pos hp, attachItem_eq, if_pos hs, hck]
    exact bound_search E (show Bound E ({ l with ctl := l.ctl.step E hi } : InputLocals).sc.locs k u P
      from hb) hP hu
  · rw [if_neg hp, List.append_nil]
    intro j hj
    have hu := (mem_usageChans E u _).mp (List.getElem_mem hj)
    rw [attachItem_locs_of_not_pick E l hi (by rw [hu]; simpa using hp), hb j hj]

/-- Finger `k`'s channels of usage `u` get the locations of its items of usage `u`, in
stream order, as long as those have nonzero size. -/
theorem attachWalk_bound {k : Nat} {u : Int} (hk : k < E.maxMtSlots) (items : List HidItem)
    (l : InputLocals) (h0 : ∀ c, l.sc.locs k c = default)
    (hsz : ∀ x ∈ picks (InputCtl.step E) (fingerPick E k u) l.ctl items, x.loc.size ≠ 0) :
    Bound E (items.foldl (inputItem E true) l).sc.locs k u
      (picks (InputCtl.step E) (fingerPick E k u) l.ctl items) := by
  induction items using List.reverseRecOn with
  | nil => intro j hj; simp [h0]
  | append_singleton xs hi ih =>
    rw [picks_concat] at hsz ⊢
    rw [List.foldl_append, List.foldl_cons, List.foldl_nil, ← foldl_inputItem_ctl E true]
    exact bound_step E hk (ih fun x hx => hsz x (List.mem_append_left _ hx))
      (fun x hx => hsz x (List.mem_append_left _ hx)) hi

/-! ## Fingers at or past `MAX_MT_SLOTS` -/

theorem attachItem_locs_cap {k : Nat} (hk : E.maxMtSlots ≤ k) (l : InputLocals) (hi : HidItem) :
    (inputItem E true l hi).sc.locs k = l.sc.locs k := by
  rw [attachItem_eq]
  split
  · rename_i hs
    have hlt : l.ctl.cont < E.maxMtSlots := by
      simp only [searchPick, Bool.and_eq_true, decide_eq_true_eq] at hs; exact hs.2
    rcases attachSearch_cases E hi l.ctl.cont { l with ctl := l.ctl.step E hi } with
      he | ⟨i, -, he⟩ <;> rw [he]
    rw [bindChan_locs]
    exact update_locs_row _ _ _ (by omega)
  · rfl

/-- The walk writes no location of a finger at or past `MAX_MT_SLOTS`. -/
theorem attachWalk_locs_cap {k : Nat} (hk : E.maxMtSlots ≤ k) (items : List HidItem)
    (l : InputLocals) : (items.foldl (inputItem E true) l).sc.locs k = l.sc.locs k := by
  induction items generalizing l with
  | nil => rfl
  | cons hi his ih => rw [List.foldl_cons, ih, attachItem_locs_cap E hk]

/-! ## `caps` and the axis info -/

@[simp] theorem bindChan_sc_caps (hi : HidItem) (k : Nat) (i : Fin wmtNUsages) (l : InputLocals) :
    (bindChan E hi k i l).sc.caps = l.sc.caps := by
  unfold bindChan; split <;> rfl

/-- The walk leaves the softc's `caps` alone: it builds its own. -/
theorem attachWalk_sc_caps (items : List HidItem) (l : InputLocals) :
    (items.foldl (inputItem E true) l).sc.caps = l.sc.caps := by
  induction items generalizing l with
  | nil => rfl
  | cons hi his ih =>
    rw [List.foldl_cons, ih, attachItem_eq]
    split
    · rcases attachSearch_cases E hi l.ctl.cont { l with ctl := l.ctl.step E hi } with
        he | ⟨i, -, he⟩ <;> rw [he]
      exact bindChan_sc_caps E _ _ _ _
    · rfl

/-- Every `caps` bit of a channel is the binding of a first-finger item of its usage among
`P`, whose location and axis info the channel holds; a channel without its bit keeps the axis
info `ai₀`. -/
structure CapsInv (ai₀ : Fin wmtNUsages → WmtAbsinfo) (P : Int → List HidItem)
    (l : InputLocals) : Prop where
  bound : ∀ c, usageSupported l.caps c = true →
    ∃ hi ∈ P (wmtHidMap E c).usage, l.sc.locs 0 c = hi.loc ∧ l.sc.ai c = itemAbsinfo E hi
  free : ∀ c, usageSupported l.caps c = false → l.sc.ai c = ai₀ c

theorem CapsInv.mono {ai₀ : Fin wmtNUsages → WmtAbsinfo} {P P' : Int → List HidItem}
    {l : InputLocals} (h : CapsInv E ai₀ P l) (hP : ∀ u, P u ⊆ P' u) : CapsInv E ai₀ P' l :=
  ⟨fun c hc => let ⟨hi, hm, h1, h2⟩ := h.bound c hc; ⟨hi, hP _ hm, h1, h2⟩, h.free⟩

theorem capsInv_step {ai₀ : Fin wmtNUsages → WmtAbsinfo} {P : Int → List HidItem}
    {l : InputLocals} (h : CapsInv E ai₀ P l) (hi : HidItem) :
    CapsInv E ai₀ (fun u => P u ++ if fingerPick E 0 u l.ctl hi then [hi] else [])
      (inputItem E true l hi) := by
  have h' : CapsInv E ai₀ (fun u => P u ++ if fingerPick E 0 u l.ctl hi then [hi] else []) l :=
    h.mono E fun u => List.subset_append_left _ _
  rw [attachItem_eq]
  split
  · rename_i hs
    rcases attachSearch_cases E hi l.ctl.cont { l with ctl := l.ctl.step E hi } with
      he | ⟨i, hu, he⟩ <;> rw [he]
    · exact ⟨h'.bound, h'.free⟩
    by_cases hk : 0 < l.ctl.cont
    · -- a later finger: `caps`, the first finger's locations and the axis info stay
      refine ⟨fun c hc => ?_, fun c hc => ?_⟩ <;>
        rw [bindChan_caps, if_pos hk] at hc <;> rw [bindChan_ai, if_pos hk]
      · rw [bindChan_locs, update_locs_row _ _ _ (Nat.ne_of_lt hk)]
        exact h'.bound c hc
      · exact h'.free c hc
    · -- the first finger: channel `i` gets the item
      have h0 : l.ctl.cont = 0 := Nat.eq_zero_of_not_pos hk
      have hp : fingerPick E 0 (wmtHidMap E i).usage l.ctl hi = true := by
        rw [← h0, hu]; exact fingerPick_of_searchPick E hs
      refine ⟨fun c hc => ?_, fun c hc => ?_⟩ <;>
        rw [bindChan_caps, if_neg hk, usageSupported_or] at hc <;> rw [bindChan_ai, if_neg hk]
      · by_cases hic : i = c
        · subst hic
          refine ⟨hi, by simp [hp], ?_, Function.update_same _ _ _⟩
          rw [bindChan_locs, h0, Function.update_same, Function.update_same]
        · obtain ⟨x, hx, h1, h2⟩ := h'.bound c (by simpa [hic] using hc)
          refine ⟨x, hx, ?_, by rw [Function.update_noteq (Ne.symm hic)]; exact h2⟩
          rw [bindChan_locs, h0, update_locs_ne _ _ _ _ hic]; exact h1
      · simp only [Bool.or_eq_false_iff, beq_eq_false_iff_ne, ne_eq] at hc
        rw [Function.update_noteq (Ne.symm hc.2)]
        exact h'.free c hc.1
  · exact ⟨h'.bound, h'.free⟩

/-- After the walk every `caps` bit is the binding of an item of the first finger, whose
location and axis info the channel holds. -/
theorem attachWalk_capsInv {ai₀ : Fin wmtNUsages → WmtAbsinfo} (items : List HidItem)
    (l : InputLocals) (hl : CapsInv E ai₀ (fun _ => []) l) :
    CapsInv E ai₀ (fun u => picks (InputCtl.step E) (fingerPick E 0 u) l.ctl items)
      (items.foldl (inputItem E true) l) := by
  induction items using List.reverseRecOn with
  | nil => exact hl
  | append_singleton xs hi ih =>
    have h := capsInv_step E ih hi
    rw [foldl_inputItem_ctl] at h
    simpa only [picks_concat, List.foldl_append, List.foldl_cons, List.foldl_nil] using h

/-! ## `wmt_hid_parse`'s result -/

/-- The softc `wmt_hid_parse` returns: the feature walk's when pass 1 finds no Contact Count
Maximum, else the input walk's, finished when the checks pass. -/
theorem wmtHidParse_snd_cases (sc : ImtSoftc) (items : List HidItem) :
    (wmtHidParse E true sc items).2 = (featureWalk E true sc items).sc ∧
        (featureWalk E true sc items).contMaxRid = 0 ∨
      (featureWalk E true sc items).contMaxRid ≠ 0 ∧
        ((wmtHidParse E true sc items).2 =
            (inputWalk E true (featureWalk E true sc items).sc items).sc ∨
          (wmtHidParse E true sc items).2 = wmtHidParseFinish E items (featureWalk E true sc items)
            (inputWalk E true (featureWalk E true sc items).sc items)) := by
  unfold wmtHidParse
  by_cases h1 : (featureWalk E true sc items).contMaxRid = 0
  · exact .inl ⟨by simp [h1], h1⟩
  · refine .inr ⟨h1, ?_⟩
    simp only [h1, beq_iff_eq, if_false]
    split_ifs <;> simp

/-- `wmt_hid_parse` on a softc with an empty location table, when pass 1 finds a Contact Count
Maximum item: finger `k`'s channels of usage `u` get the locations of its items of usage `u`
in stream order if `k < MAX_MT_SLOTS` and those have nonzero size, no location of a finger at
or past `MAX_MT_SLOTS` is written, and a `caps` bit (`WMT_ORIENTATION` apart) or an axis info
(`WMT_SLOT` and `WMT_ORIENTATION` apart) that changes comes from a binding of an item of the
first finger, the location and the axis info from the same item. -/
theorem wmtHidParse_bind (sc : ImtSoftc) (items : List HidItem) (k : Nat) (u : Int)
    (hw : wellNested 0 items = true)
    (hccm : ((ccmItems E items).getLast?.any fun hi => hi.reportID % 256 != 0) = true)
    (hs : ∀ k c, sc.locs k c = default)
    (hsize : ∀ hi ∈ fingerItems E k u items, hi.loc.size ≠ 0) :
    (k < E.maxMtSlots → Bound E (wmtHidParse E true sc items).2.locs k u (fingerItems E k u items)) ∧
      (E.maxMtSlots ≤ k → ∀ c, (wmtHidParse E true sc items).2.locs k c = default) ∧
      (∀ c, c ≠ wmtOrientation → usageSupported (wmtHidParse E true sc items).2.caps c = true →
        usageSupported sc.caps c = true ∨ ∃ hi ∈ fingerItems E 0 (wmtHidMap E c).usage items,
          (wmtHidParse E true sc items).2.locs 0 c = hi.loc ∧
            (c ≠ wmtSlot → (wmtHidParse E true sc items).2.ai c = itemAbsinfo E hi)) ∧
      (∀ c, c ≠ wmtSlot → c ≠ wmtOrientation →
        (wmtHidParse E true sc items).2.ai c = sc.ai c ∨
          ∃ hi ∈ fingerItems E 0 (wmtHidMap E c).usage items,
            (wmtHidParse E true sc items).2.locs 0 c = hi.loc ∧
              (wmtHidParse E true sc items).2.ai c = itemAbsinfo E hi) := by
  obtain ⟨hfl, hfa, hfc⟩ := featureWalk_sc E true sc items
  have hrid : (featureWalk E true sc items).contMaxRid ≠ 0 := by
    rw [featureWalk_contMaxRid E true sc items hw]
    revert hccm; cases (ccmItems E items).getLast? <;> simp
  -- what the input walk leaves
  have hinv : CapsInv E sc.ai (fun u => fingerItems E 0 u items)
      (inputWalk E true (featureWalk E true sc items).sc items) :=
    attachWalk_capsInv E items { sc := (featureWalk E true sc items).sc }
      ⟨fun c hc => by simp at hc, fun c _ => by rw [← hfa]⟩
  have hwc : (inputWalk E true (featureWalk E true sc items).sc items).sc.caps = sc.caps :=
    (attachWalk_sc_caps E items _).trans hfc
  -- the softc returned is the input walk's, finished or not
  obtain ⟨hL, hA, hC⟩ : (wmtHidParse E true sc items).2.locs =
        (inputWalk E true (featureWalk E true sc items).sc items).sc.locs ∧
      (∀ c, c ≠ wmtSlot → c ≠ wmtOrientation → (wmtHidParse E true sc items).2.ai c =
        (inputWalk E true (featureWalk E true sc items).sc items).sc.ai c) ∧
      (∀ c, c ≠ wmtOrientation → usageSupported (wmtHidParse E true sc items).2.caps c = true →
        usageSupported sc.caps c = true ∨
          usageSupported (inputWalk E true (featureWalk E true sc items).sc items).caps c = true) := by
    rcases wmtHidParse_snd_cases E sc items with ⟨-, h0⟩ | ⟨-, he | he⟩
    · exact absurd h0 hrid
    · rw [he, hwc]; exact ⟨rfl, fun _ _ _ => rfl, fun _ _ hc => .inl hc⟩
    · rw [he, wmtHidParseFinish_locs]
      exact ⟨rfl, fun c hs ho => wmtHidParseFinish_ai _ _ _ hs ho,
        fun c ho hc => .inr ((wmtHidParseFinish_caps _ _ _ ho).symm.trans hc)⟩
  refine ⟨fun hk => ?_, fun hk c => ?_, fun c ho hc => ?_, fun c hs ho => ?_⟩
  · rw [hL]
    exact attachWalk_bound E hk items _ (fun c => by rw [hfl, hs]) hsize
  · rw [hL, inputWalk, attachWalk_locs_cap E hk, hfl, hs]
  · refine (hC c ho hc).imp id fun hb => ?_
    obtain ⟨hi, hm, h1, h2⟩ := hinv.bound c hb
    exact ⟨hi, hm, hL ▸ h1, fun hs => (hA c hs ho).trans h2⟩
  · rw [hA c hs ho]
    cases hb : usageSupported (inputWalk E true (featureWalk E true sc items).sc items).caps c
    · exact .inl (hinv.free c hb)
    · obtain ⟨hi, hm, h1, h2⟩ := hinv.bound c hb
      exact .inr ⟨hi, hm, hL ▸ h1, h2⟩

end

theorem wmtHidParse_bind_sample :
    wellNested 0 sampleTouchpad = true ∧
      ((ccmItems Hid.freeBSD sampleTouchpad).getLast?.any fun hi => hi.reportID % 256 != 0) = true ∧
      (∀ k c, ({} : ImtSoftc).locs k c = default) ∧
      (∀ hi ∈ fingerItems Hid.freeBSD 0 (Hid.freeBSD.hidUsage2 0x01 0x30) sampleTouchpad,
        hi.loc.size ≠ 0) ∧
      (0 < Hid.freeBSD.maxMtSlots →
        Bound Hid.freeBSD (wmtHidParse Hid.freeBSD true {} sampleTouchpad).2.locs 0
          (Hid.freeBSD.hidUsage2 0x01 0x30)
          (fingerItems Hid.freeBSD 0 (Hid.freeBSD.hidUsage2 0x01 0x30) sampleTouchpad)) :=
  ⟨by decide, by decide, fun _ _ => rfl, by decide,
    (wmtHidParse_bind Hid.freeBSD {} sampleTouchpad 0 _ (by decide) (by decide) (fun _ _ => rfl)
      (by decide)).1⟩

/-- `sampleTouchpad` without its Contact Count Maximum feature item. -/
def noCcmTouchpad : List HidItem := sampleTouchpad.eraseIdx 1

/-- Its first finger has one X item, of nonzero size, and `wmt_hid_parse` binds no channel to
it: pass 1 finds no Contact Count Maximum and the function returns before pass 2. -/
theorem wmtHidParse_noCcm :
    wellNested 0 noCcmTouchpad = true ∧
      fingerItems Hid.freeBSD 0 (Hid.freeBSD.hidUsage2 0x01 0x30) noCcmTouchpad ≠ [] ∧
      (∀ hi ∈ fingerItems Hid.freeBSD 0 (Hid.freeBSD.hidUsage2 0x01 0x30) noCcmTouchpad,
        hi.loc.size ≠ 0) ∧
      ¬Bound Hid.freeBSD (wmtHidParse Hid.freeBSD true {} noCcmTouchpad).2.locs 0
        (Hid.freeBSD.hidUsage2 0x01 0x30)
        (fingerItems Hid.freeBSD 0 (Hid.freeBSD.hidUsage2 0x01 0x30) noCcmTouchpad) := by
  refine ⟨by decide, by decide, by decide, fun h => ?_⟩
  have := h 0 (by decide)
  revert this
  decide

end Imt
