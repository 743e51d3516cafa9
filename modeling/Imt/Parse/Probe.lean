import Imt.Parse

/-!
# The probe's analysis and the attach's analysis agree

`imt_probe` calls `wmt_hid_parse` with a null softc and `imt_attach` with the zero-filled one.
The usage search then decides differently which channel an item takes: the probe skips a
channel whose `caps` bit is set and looks only at the first finger, the attach skips a channel
whose location has a nonzero size and fills every finger below `MAX_MT_SLOTS`. They can end
with different `caps` (an X item of size 0 followed by another X item: the probe sets
`WMT_TOOL_X`, the attach rebinds `WMT_X`), but never on a channel that is the first of its usage
(`ProbeSim`), and the required channels all are.

* `probeSim_step`, `probeSim_walk`: the two input walks keep `ProbeSim`.
* `wmtHidParse_probe_eq_attach`: both calls return the same type.
-/

namespace Imt

section

variable (E : Hid)

theorem update_locs_ne (f : Nat → Fin wmtNUsages → HidLocation) (k k' : Nat)
    {i c : Fin wmtNUsages} (loc : HidLocation) (h : i ≠ c) :
    Function.update f k (Function.update (f k) i loc) k' c = f k' c := by
  by_cases hk : k' = k
  · subst hk; simp [Function.update_noteq (Ne.symm h)]
  · simp [Function.update_noteq hk]

theorem update_locs_row (f : Nat → Fin wmtNUsages → HidLocation) {k k' : Nat}
    (i : Fin wmtNUsages) (loc : HidLocation) (h : k' ≠ k) :
    Function.update f k (Function.update (f k) i loc) k' = f k' :=
  Function.update_noteq h _ _

/-- A channel found by the search has the item's usage. -/
theorem ne_of_find?_filter {p : Fin wmtNUsages → Bool} {hi : HidItem} {i c : Fin wmtNUsages}
    (h : (wmtUsages.filter fun j => (wmtHidMap E j).usage == hi.usage).find? p = some i)
    (hc : (wmtHidMap E c).usage ≠ hi.usage) : i ≠ c := by
  have := List.mem_of_find?_eq_some h
  rw [List.mem_filter, beq_iff_eq] at this
  rintro rfl; exact hc this.2

/-- `usageChans` of a first channel's usage starts with it. -/
theorem filter_eq_of_first {c : Fin wmtNUsages} {rest : List (Fin wmtNUsages)} {hi : HidItem}
    (hrest : usageChans E (wmtHidMap E c).usage = c :: rest)
    (hu : (wmtHidMap E c).usage = hi.usage) :
    (wmtUsages.filter fun j => (wmtHidMap E j).usage == hi.usage) = c :: rest := by
  rw [← hu]; exact hrest

theorem probeSearch_other (hi : HidItem) (k : Nat) (l : InputLocals) {c : Fin wmtNUsages}
    (hc : (wmtHidMap E c).usage ≠ hi.usage) :
    usageSupported (usageSearch E false hi k wmtUsages l).caps c = usageSupported l.caps c := by
  rw [usageSearch_probe]
  split
  · rfl
  · rename_i i hf
    simp [ne_of_find?_filter E hf hc]

theorem probeSearch_first (hi : HidItem) (k : Nat) (l : InputLocals) {c : Fin wmtNUsages}
    (hc : FirstChan E c) (hu : (wmtHidMap E c).usage = hi.usage) :
    usageSupported (usageSearch E false hi k wmtUsages l).caps c = true := by
  obtain ⟨rest, hrest, -⟩ := hc
  rw [usageSearch_probe, filter_eq_of_first E hrest hu]
  by_cases hs : usageSupported l.caps c
  · rw [List.find?_cons_of_neg _ (by simp [hs])]
    split <;> simp [hs]
  · rw [List.find?_cons_of_pos _ (by simp [hs])]
    simp

theorem attachSearch_other (hi : HidItem) (k : Nat) (l : InputLocals) {c : Fin wmtNUsages}
    (hc : (wmtHidMap E c).usage ≠ hi.usage) :
    usageSupported (usageSearch E true hi k wmtUsages l).caps c = usageSupported l.caps c ∧
      ∀ k', (usageSearch E true hi k wmtUsages l).sc.locs k' c = l.sc.locs k' c := by
  rw [usageSearch_attach]
  split
  · exact ⟨rfl, fun _ => rfl⟩
  · rename_i i hf
    have hic := ne_of_find?_filter E hf hc
    unfold bindChan
    split_ifs
    · exact ⟨rfl, fun k' => update_locs_ne _ _ _ _ hic⟩
    · exact ⟨by simp [hic], fun k' => update_locs_ne _ _ _ _ hic⟩

theorem attachSearch_first (hi : HidItem) (l : InputLocals) {c : Fin wmtNUsages}
    (hc : FirstChan E c) (hu : (wmtHidMap E c).usage = hi.usage)
    (hinv : (l.sc.locs 0 c).size ≠ 0 → usageSupported l.caps c = true) :
    usageSupported (usageSearch E true hi 0 wmtUsages l).caps c = true := by
  obtain ⟨rest, hrest, -⟩ := hc
  rw [usageSearch_attach, filter_eq_of_first E hrest hu]
  by_cases hs : (l.sc.locs 0 c).size = 0
  · rw [List.find?_cons_of_pos _ (by simp [hs])]
    simp [bindChan]
  · have hs' : ¬(l.sc.locs 0 c).size = 0#32 := hs
    rw [List.find?_cons_of_neg _ (by simp [hs'])]
    split
    · exact hinv hs
    · simp [bindChan, hinv hs]

/-- For a later finger the search changes neither `caps` nor the first finger's locations. -/
theorem attachSearch_pos (hi : HidItem) {k : Nat} (hk : 0 < k) (l : InputLocals) :
    (usageSearch E true hi k wmtUsages l).caps = l.caps ∧
      (usageSearch E true hi k wmtUsages l).sc.locs 0 = l.sc.locs 0 := by
  rw [usageSearch_attach]
  split
  · exact ⟨rfl, rfl⟩
  · simp only [bindChan, if_pos hk, true_and]
    exact update_locs_row _ _ _ (Nat.pos_iff_ne_zero.mp hk).symm

/-- What the probe's input walk and the attach's agree on. -/
structure ProbeSim (lp la : InputLocals) : Prop where
  ctl : lp.ctl = la.ctl
  caps : ∀ c, FirstChan E c → usageSupported lp.caps c = usageSupported la.caps c
  locs : ∀ c, FirstChan E c → (la.sc.locs 0 c).size ≠ 0 → usageSupported la.caps c = true

theorem probeSim_search {lp la : InputLocals} (h : ProbeSim E lp la) (hi : HidItem) :
    ProbeSim E (usageSearch E false hi 0 wmtUsages lp) (usageSearch E true hi 0 wmtUsages la) := by
  refine ⟨by rw [usageSearch_ctl, usageSearch_ctl, h.ctl], fun c hc => ?_, fun c hc => ?_⟩
  · by_cases hu : (wmtHidMap E c).usage = hi.usage
    · rw [probeSearch_first E hi 0 lp hc hu, attachSearch_first E hi la hc hu (h.locs c hc)]
    · rw [probeSearch_other E hi 0 lp hu, (attachSearch_other E hi 0 la hu).1, h.caps c hc]
  · by_cases hu : (wmtHidMap E c).usage = hi.usage
    · exact fun _ => attachSearch_first E hi la hc hu (h.locs c hc)
    · rw [(attachSearch_other E hi 0 la hu).2 0, (attachSearch_other E hi 0 la hu).1]
      exact h.locs c hc

theorem probeSim_step {lp la : InputLocals} (h : ProbeSim E lp la) (hi : HidItem) :
    ProbeSim E (inputItem E false lp hi) (inputItem E true la hi) := by
  obtain ⟨ctl, capsp, scp⟩ := lp
  obtain ⟨hc, hcaps, hlocs⟩ := h
  simp only at hc; subst hc
  unfold inputItem
  cases hi.kind <;> simp only [Bool.not_false, Bool.not_true, Bool.true_and, Bool.false_and,
    Bool.false_eq_true, if_false, decide_eq_true_eq] <;> try exact ⟨rfl, hcaps, hlocs⟩
  -- every branch but the search keeps `caps` and the first finger's locations
  by_cases ha : la.ctl.accepts E hi = true
  swap
  · simp only [ha, Bool.false_eq_true, if_false]; exact ⟨rfl, hcaps, hlocs⟩
  by_cases hc : (hi.collevel == 1 && hi.usage == E.hidUsage2 E.hupDigitizers E.hudContactcount) = true
  · simp only [ha, hc, if_true]; exact ⟨rfl, hcaps, hlocs⟩
  by_cases hs : (hi.collevel == 1 && hi.usage == E.hidUsage2 E.hupDigitizers E.hudScanTime) = true
  · simp only [ha, hc, hs, if_true, Bool.false_eq_true, if_false]; exact ⟨rfl, hcaps, hlocs⟩
  by_cases hf : (!la.ctl.fingerColl || hi.collevel != 2) = true
  · simp only [ha, hc, hs, hf, if_true, Bool.false_eq_true, if_false]; exact ⟨rfl, hcaps, hlocs⟩
  simp only [ha, hc, hs, hf, if_true, Bool.false_eq_true, if_false]
  by_cases hm : E.maxMtSlots ≤ la.ctl.cont
  · simp only [hm, if_true, ite_self]; exact ⟨rfl, hcaps, hlocs⟩
  simp only [hm, if_false]
  by_cases h0 : 0 < la.ctl.cont
  · -- a later finger: the probe stops, the attach binds locations of that finger only
    have hpos := attachSearch_pos E hi h0
    simp only [h0, if_true]
    refine ⟨by rw [usageSearch_ctl], ?_, ?_⟩
    · rw [(hpos _).1]; exact hcaps
    · rw [(hpos _).2, (hpos _).1]; exact hlocs
  · -- the first finger
    simp only [h0, if_false]
    rw [Nat.eq_zero_of_not_pos h0]
    refine probeSim_search E ?_ hi
    exact ⟨rfl, hcaps, hlocs⟩

theorem probeSim_walk (items : List HidItem) (lp la : InputLocals) (h : ProbeSim E lp la) :
    ProbeSim E (items.foldl (inputItem E false) lp) (items.foldl (inputItem E true) la) := by
  induction items generalizing lp la with
  | nil => exact h
  | cons hi his ih => exact ih _ _ (probeSim_step E h hi)

/-- The required-channel check reads only `caps` bits of first channels. -/
theorem required_any_congr {caps : Nat} {b : Fin wmtNUsages → Bool}
    (h : ∀ c, FirstChan E c → usageSupported caps c = b c) :
    wmtUsages.any (fun i => (wmtHidMap E i).required && !usageSupported caps i) =
      wmtUsages.any (fun i => (wmtHidMap E i).required && !b i) := by
  congr 1; funext i
  cases hr : (wmtHidMap E i).required
  · rfl
  · rw [h i (firstChan_of_required E hr)]

/-- `imt_probe`'s analysis and `imt_attach`'s, on a softc whose first finger's locations are
empty, return the same type. -/
theorem wmtHidParse_probe_eq_attach (items : List HidItem) (s₁ s₂ : ImtSoftc)
    (hs₂ : ∀ c, (s₂.locs 0 c).size = 0) :
    (wmtHidParse E false s₁ items).1 = (wmtHidParse E true s₂ items).1 := by
  have hrid : (featureWalk E false s₁ items).contMaxRid =
      (featureWalk E true s₂ items).contMaxRid :=
    (congrArg FeatureLocals.contMaxRid (featureWalk_erase E false s₁ items)).trans
      (congrArg FeatureLocals.contMaxRid (featureWalk_erase E true s₂ items)).symm
  have hsim := probeSim_walk E items { sc := (featureWalk E false s₁ items).sc }
    { sc := (featureWalk E true s₂ items).sc }
    ⟨rfl, fun _ _ => rfl, fun c _ h => absurd (by rw [featureWalk_locs]; exact hs₂ c) h⟩
  unfold wmtHidParse inputWalk
  simp only [hrid, hsim.ctl, required_any_congr E hsim.caps, apply_ite Prod.fst, ite_self]

end

theorem wmtHidParse_probe_eq_attach_sample :
    (∀ c, (({} : ImtSoftc).locs 0 c).size = 0) ∧
      (wmtHidParse Hid.freeBSD false {} sampleTouchpad).1 =
        (wmtHidParse Hid.freeBSD true {} sampleTouchpad).1 :=
  ⟨fun _ => rfl, wmtHidParse_probe_eq_attach _ _ _ _ fun _ => rfl⟩

end Imt
