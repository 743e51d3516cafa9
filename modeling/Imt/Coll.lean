import Imt.Hid

/-!
# Collections, and the items a walk picks

The walks of `wmt_hid_parse` keep flags (`touch_coll`, `conf_coll`, `finger_coll`) in place of
the collections that enclose an item. `collStep` says what such a flag stands for: the
collections open at a point of the stream, innermost first. On a well-nested stream every item's
`collevel` is the number of collections open after it (`foldl_collStep_rel`), and a flag that a
top-level open sets and a top-level close clears says whether the enclosing top-level collection
has one of the flag's usages (`topFlag_step`).

`picks step p s items` lists the items that a predicate `p` of a walk's state before them
selects. The walks' results are stated with it:

* `foldl_flag`, `foldl_count`, `foldl_last`: a flag that a pick sets, a counter that a pick
  increments, a value that a pick overwrites, after a whole walk.
* `mem_picks`: an item is picked exactly when `p` holds of it at its place in the stream.
-/

namespace Imt

section Picks

variable {σ : Type} (step : σ → HidItem → σ) (p : σ → HidItem → Bool)

/-- The items that `p` picks, each seen with the state that `step` leads to before it. -/
def picks : σ → List HidItem → List HidItem
  | _, [] => []
  | s, hi :: his => (if p s hi then [hi] else []) ++ picks (step s hi) his

@[simp] theorem picks_nil (s : σ) : picks step p s [] = [] := rfl

theorem picks_cons (s : σ) (hi : HidItem) (his : List HidItem) :
    picks step p s (hi :: his) = (if p s hi then [hi] else []) ++ picks step p (step s hi) his :=
  rfl

/-- A predicate that reads only a projection of the state picks what it picks on the walk of the
projection, when the projection is a walk of its own. -/
theorem picks_proj {τ : Type} (step' : τ → HidItem → τ) (proj : σ → τ) (q : τ → HidItem → Bool)
    (h : ∀ s hi, proj (step s hi) = step' (proj s) hi) (items : List HidItem) (s : σ) :
    picks step (fun s => q (proj s)) s items = picks step' q (proj s) items := by
  induction items generalizing s with
  | nil => rfl
  | cons hi his ih => rw [picks_cons, picks_cons, ih, h]

/-- A predicate that reads no state picks a filter. -/
theorem picks_const (q : HidItem → Bool) (items : List HidItem) (s : σ) :
    picks step (fun _ => q) s items = items.filter q := by
  induction items generalizing s with
  | nil => rfl
  | cons hi his ih => rw [picks_cons, ih, List.filter_cons]; split <;> rfl

theorem picks_append (s : σ) (xs ys : List HidItem) :
    picks step p s (xs ++ ys) = picks step p s xs ++ picks step p (xs.foldl step s) ys := by
  induction xs generalizing s with
  | nil => rfl
  | cons hi his ih => rw [List.cons_append, picks_cons, picks_cons, ih, List.append_assoc]; rfl

/-- Items that `p` refuses in every state are never picked. -/
theorem picks_eq_nil {items : List HidItem} (h : ∀ hi ∈ items, ∀ s, p s hi = false) (s : σ) :
    picks step p s items = [] := by
  induction items generalizing s with
  | nil => rfl
  | cons hi his ih =>
    rw [picks_cons, h hi (List.mem_cons_self _ _) s, ih fun x hx => h x (List.mem_cons_of_mem _ hx)]
    rfl

/-- A predicate that holds wherever `p` does picks at least `p`'s items. -/
theorem picks_sublist {q : σ → HidItem → Bool} (h : ∀ s hi, p s hi = true → q s hi = true)
    (items : List HidItem) (s : σ) : (picks step p s items).Sublist (picks step q s items) := by
  induction items generalizing s with
  | nil => exact .slnil
  | cons hi his ih =>
    rw [picks_cons, picks_cons]
    by_cases hp : p s hi = true
    · rw [if_pos hp, if_pos (h s hi hp)]; exact (ih _).cons₂ hi
    · rw [if_neg hp]; exact (ih _).trans (List.sublist_append_right _ _)

/-- The picks of a stream with one more item. -/
theorem picks_concat (s : σ) (xs : List HidItem) (hi : HidItem) :
    picks step p s (xs ++ [hi]) =
      picks step p s xs ++ if p (xs.foldl step s) hi then [hi] else [] := by
  rw [picks_append, picks_cons, picks_nil, List.append_nil]

/-- A flag that the walk sets on a pick and otherwise keeps. -/
theorem foldl_flag (flag : σ → Bool) (h : ∀ s hi, flag (step s hi) = (flag s || p s hi))
    (items : List HidItem) (s : σ) :
    flag (items.foldl step s) = (flag s || !(picks step p s items).isEmpty) := by
  induction items generalizing s with
  | nil => simp
  | cons hi his ih =>
    rw [List.foldl_cons, ih, h, picks_cons]
    cases p s hi <;> simp

/-- A counter that the walk increments on a pick. -/
theorem foldl_count (cnt : σ → Nat) (h : ∀ s hi, cnt (step s hi) = cnt s + if p s hi then 1 else 0)
    (items : List HidItem) (s : σ) :
    cnt (items.foldl step s) = cnt s + (picks step p s items).length := by
  induction items generalizing s with
  | nil => rfl
  | cons hi his ih =>
    rw [List.foldl_cons, ih, h, picks_cons]
    cases p s hi <;> simp; omega

/-- A value that the walk overwrites from a pick: after the walk it comes from the last pick. -/
theorem foldl_last {α : Type} (val : σ → α) (g : HidItem → α)
    (h : ∀ s hi, val (step s hi) = if p s hi then g hi else val s) (items : List HidItem) (s : σ) :
    val (items.foldl step s) = ((picks step p s items).getLast?.map g).getD (val s) := by
  induction items generalizing s with
  | nil => rfl
  | cons hi his ih =>
    rw [List.foldl_cons, ih, h, picks_cons, List.getLast?_append]
    cases picks step p (step s hi) his |>.getLast? <;> cases p s hi <;> rfl

/-- An item is picked exactly when the predicate holds of it at its place in the stream. -/
theorem mem_picks {hi : HidItem} {items : List HidItem} {s : σ} :
    hi ∈ picks step p s items ↔
      ∃ pre post, items = pre ++ hi :: post ∧ p (pre.foldl step s) hi = true := by
  induction items generalizing s with
  | nil => simp
  | cons x xs ih =>
    rw [picks_cons, List.mem_append, ih]
    constructor
    · rintro (hx | ⟨pre, post, rfl, hp⟩)
      · split at hx
        · obtain rfl := List.eq_of_mem_singleton hx
          exact ⟨[], xs, rfl, by assumption⟩
        · cases hx
      · exact ⟨x :: pre, post, rfl, hp⟩
    · rintro ⟨_ | ⟨y, pre⟩, post, he, hp⟩
      · obtain ⟨rfl, rfl⟩ := List.cons_eq_cons.mp he
        rw [List.foldl_nil] at hp
        exact .inl (by simp [hp])
      · obtain ⟨rfl, rfl⟩ := List.cons_eq_cons.mp he
        exact .inr ⟨pre, post, rfl, hp⟩

end Picks

/-! ## The open collections -/

/-- The collections open after item `hi`, innermost first. -/
def collStep (st : List HidItem) (hi : HidItem) : List HidItem :=
  match hi.kind with
  | .collection => hi :: st
  | .endcollection => st.tail
  | _ => st

theorem length_collStep (st : List HidItem) (hi : HidItem) :
    (collStep st hi).length = depthStep st.length hi := by
  unfold collStep depthStep; split <;> simp_all

/-- One item of a well-nested stream: its depth is the number of collections open after it, a
close has a collection to close, and the rest is well nested from there. -/
theorem wellNested_cons_iff (st : List HidItem) (hi : HidItem) (his : List HidItem) :
    wellNested st.length (hi :: his) = true ↔
      hi.collevel = (collStep st hi).length ∧ (hi.kind = .endcollection → st ≠ []) ∧
        wellNested (collStep st hi).length his = true := by
  simp only [wellNested, Bool.and_eq_true, beq_iff_eq, Bool.or_eq_true, bne_iff_ne, ne_eq,
    decide_eq_true_eq, length_collStep, and_assoc]
  exact and_congr_right fun _ => and_congr_left fun _ => by
    rw [List.length_pos, imp_iff_not_or, ne_eq]

/-- A relation between the open collections and a walk's state that every well-placed item
keeps holds after a well-nested stream. -/
theorem foldl_collStep_rel {τ : Type} (f : τ → HidItem → τ) (R : List HidItem → τ → Prop)
    (hstep : ∀ st x hi, R st x → hi.collevel = (collStep st hi).length →
      (hi.kind = .endcollection → st ≠ []) → R (collStep st hi) (f x hi))
    (items : List HidItem) (st : List HidItem) (x : τ) (hw : wellNested st.length items = true)
    (hR : R st x) : R (items.foldl collStep st) (items.foldl f x) := by
  induction items generalizing st x with
  | nil => exact hR
  | cons hi his ih =>
    obtain ⟨hlev, hend, hw⟩ := (wellNested_cons_iff st hi his).mp hw
    exact ih _ _ hw (hstep st x hi hR hlev hend)

/-- The top-level collection around a point of the stream has a usage that `U` selects. -/
def inTop (U : Int → Bool) (st : List HidItem) : Bool :=
  st.getLast?.any fun c => U c.usage

/-- A flag that opening a top-level collection of a usage in `U` sets, closing a top-level
collection clears, and nothing else changes, says whether the enclosing top-level collection has
a usage in `U`. -/
theorem topFlag_step (U : Int → Bool) {st : List HidItem} {hi : HidItem} {fl fl' : Bool}
    (hlev : hi.collevel = (collStep st hi).length) (hend : hi.kind = .endcollection → st ≠ [])
    (hfl : fl = inTop U st)
    (hopen : hi.kind = .collection → fl' = if hi.collevel = 1 ∧ U hi.usage then true else fl)
    (hclose : hi.kind = .endcollection → fl' = if hi.collevel = 0 then false else fl)
    (hother : hi.kind ≠ .collection → hi.kind ≠ .endcollection → fl' = fl) :
    fl' = inTop U (collStep st hi) := by
  unfold collStep at hlev ⊢
  split at hlev <;> rename_i hk
  · rw [hopen hk, hfl]
    rcases st with _ | ⟨c, st⟩
    · simp [inTop, hlev]
    · simp [inTop, hlev, List.getLast?_cons_cons]
  · rw [hclose hk, hfl]
    rcases st with _ | ⟨c, _ | ⟨c', st⟩⟩
    · exact absurd rfl (hend hk)
    · simp [inTop, hlev]
    · simp [inTop, hlev, List.getLast?_cons_cons]
  · rename_i hc
    rw [hother hc hk, hfl]

end Imt
