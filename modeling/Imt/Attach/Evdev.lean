import Imt.Attach
import Imt.Parse.Pin

/-!
# The evdev device and what `imt_attach` and `imt_detach` hold

After the feature reports, `imt_attach` sets up the interrupt handler on the parent, allocates
the evdev device, declares what it reports and registers it (lines 372-405): the property of
the device type, `EV_SYN` and `EV_ABS`, and one absolute axis per channel in `caps` that has an
event code, with the channel's range and resolution. Every failure jumps to the end, which gives
back what was taken. `imt_detach` frees the device, removes the handler and destroys the mutex
(lines 409-421).

* `imtAbsAxes`, `imtInputProp`: the axes and the property declared (`EvdevDev`).
* `KernelCall`, `Held`: the calls that take or give back a resource, and what a sequence of
  them leaves held: the mutex `sc->lock`, the interrupt handler, the evdev device and its
  registration.
* `imtAttachDevice`: `imt_attach` from the report descriptor to its return; `imtDetach`.
* `Reread`: the feature reads and `imt_set_input_mode` change only the buffer and the slot
  range of the parsed softc. `imtAttachSoftc_cases`: the paths of `imt_attach` after the parse,
  from which the theorems below follow.
* `imtAttachDevice_held`: `imt_attach` returns `0` holding everything, which `imt_detach` then
  gives back, or `ENXIO` holding neither the mutex nor the handler, and holding the evdev
  device exactly when its registration failed: that device is leaked.
* `imtAttachDevice_succeeds`: on a bus that accepts the Input Mode report, `imt_attach` returns
  `0` exactly for the devices that `imt_probe` claims, when the registration succeeds.
* `imtAttachDevice_declares`: the declared device has the property of its type, axes of codes
  at most `ABS_MAX`, and the axes of the four required channels.
-/

namespace Imt

/-- `INPUT_PROP_DIRECT` and `INPUT_PROP_POINTER`. -/
inductive InputProp where
  | direct
  | pointer
  deriving DecidableEq, Repr

/-- An axis declared with `evdev_support_abs(evdev, code, 0, min, max, 0, 0, res)`. -/
structure AbsAxis where
  code : Nat
  min : Int
  max : Int
  res : Int
  deriving DecidableEq, Repr

/-- What `imt_attach` declares to the evdev device before registering it. -/
structure EvdevDev where
  prop : Option InputProp
  axes : List AbsAxis
  deriving DecidableEq, Repr

/-- The calls of `imt_attach` and `imt_detach` that take or give back a resource. -/
inductive KernelCall where
  | mtxInit
  | mtxDestroy
  | intrSetup
  | intrUnsetup
  | evdevAlloc
  /-- `evdev_register_mtx`, with the error it returned. -/
  | evdevRegister (error : Nat)
  | evdevFree
  deriving DecidableEq, Repr

/-- What is held: the mutex, the parent's interrupt handler, the evdev device, and whether the
device is registered. -/
structure Held where
  lock : Bool := false
  intr : Bool := false
  evdev : Bool := false
  registered : Bool := false
  deriving DecidableEq, Repr

/-- What a call does to what is held. `evdev_free` unregisters a registered device. -/
def Held.call (h : Held) : KernelCall → Held
  | .mtxInit => { h with lock := true }
  | .mtxDestroy => { h with lock := false }
  | .intrSetup => { h with intr := true }
  | .intrUnsetup => { h with intr := false }
  | .evdevAlloc => { h with evdev := true }
  | .evdevRegister error => { h with registered := error == 0 }
  | .evdevFree => { h with evdev := false, registered := false }

/-- What a sequence of calls leaves held, from `h`. -/
def Held.run (h : Held) (calls : List KernelCall) : Held := calls.foldl Held.call h

@[simp] theorem Held.run_append (h : Held) (xs ys : List KernelCall) :
    h.run (xs ++ ys) = (h.run xs).run ys :=
  List.foldl_append _ _ _ _

/-- What `imt_attach` returns and leaves: the error, the softc, the evdev device when one was
allocated, and the calls that take or give back a resource. -/
structure AttachResult where
  error : Nat
  sc : ImtSoftc
  evdev : Option EvdevDev
  calls : List KernelCall

section

variable (E : Hid) (dev : Iichid)

/-- Lines 382-388: the property of the device type. -/
def imtInputProp (type : Nat) : Option InputProp :=
  if type = E.hudTouchscreen then some .direct
  else if type = E.hudTouchpad then some .pointer
  else none

/-- Lines 391-395: an axis for each channel in `caps` that has an event code, in channel
order. -/
def imtAbsAxes (sc : ImtSoftc) : List AbsAxis :=
  (wmtUsages.filter fun u => usageSupported sc.caps u && (wmtHidMap E u).code != wmtNoCode E).map
    fun u => ⟨(wmtHidMap E u).code, (sc.ai u).min, (sc.ai u).max, (sc.ai u).res⟩

/-- Lines 382-395: the device as declared from the softc. -/
def imtEvdevDev (sc : ImtSoftc) : EvdevDev := ⟨imtInputProp E sc.type, imtAbsAxes E sc⟩

theorem wmtHidMap_code_le {u : Fin wmtNUsages} (hu : u ≠ wmtConfidence) :
    (wmtHidMap E u).code ≤ E.absMax := by
  have h := E.codes_le
  simp only [List.mem_cons, List.mem_singleton, forall_eq_or_imp, forall_eq, List.not_mem_nil,
    or_false] at h
  obtain ⟨h0, h1, h2, h3, h4, h5, h6, h7, h8, h9, h10⟩ := h
  fin_cases u
  exacts [h0, h1, h2, h3, h4, h5, h8, h9, h10, absurd rfl hu, h6, h7]

/-- The declared axes have codes at most `ABS_MAX`. -/
theorem imtAbsAxes_code_le (sc : ImtSoftc) : ∀ a ∈ imtAbsAxes E sc, a.code ≤ E.absMax := by
  intro a ha
  obtain ⟨u, hu, rfl⟩ := List.mem_map.1 ha
  simp only [List.mem_filter, Bool.and_eq_true, bne_iff_ne] at hu
  refine wmtHidMap_code_le E fun hc => hu.2.2 ?_
  rw [hc]
  rfl

/-- A channel in `caps` with an event code has its axis declared, with its axis info. -/
theorem mem_imtAbsAxes (sc : ImtSoftc) (u : Fin wmtNUsages) (hu : usageSupported sc.caps u = true)
    (hc : u ≠ wmtConfidence) :
    ⟨(wmtHidMap E u).code, (sc.ai u).min, (sc.ai u).max, (sc.ai u).res⟩ ∈ imtAbsAxes E sc := by
  have hne : (wmtHidMap E u).code ≠ wmtNoCode E := by
    have := wmtHidMap_code_le E hc
    unfold wmtNoCode; omega
  exact List.mem_map_of_mem _ (List.mem_filter.2 ⟨mem_wmtUsages u, by simp [hu, hne]⟩)

theorem mem_imtAbsAxes_code (sc : ImtSoftc) (u : Fin wmtNUsages)
    (hu : usageSupported sc.caps u = true) (hc : u ≠ wmtConfidence) :
    (wmtHidMap E u).code ∈ (imtAbsAxes E sc).map AbsAxis.code :=
  List.mem_map_of_mem AbsAxis.code (mem_imtAbsAxes E sc u hu hc)

/-- Lines 372-405, on the softc `sc` after the feature reports: the interrupt handler, and the
evdev device declared from `sc` and registered; `registerError` is what `evdev_register_mtx`
returns. The calls are those from `mtx_init` on. -/
def imtAttachRegister (sc : ImtSoftc) (registerError : Nat) : AttachResult :=
  let calls := [.mtxInit, .intrSetup, .evdevAlloc, .evdevRegister registerError]
  if registerError = 0 then ⟨0, sc, some (imtEvdevDev E sc), calls⟩
  else ⟨E.enxio, sc, some (imtEvdevDev E sc), calls ++ [.intrUnsetup, .mtxDestroy]⟩

@[simp] theorem imtAttachRegister_sc (sc : ImtSoftc) (e : Nat) :
    (imtAttachRegister E sc e).sc = sc := by
  unfold imtAttachRegister; split <;> rfl

@[simp] theorem imtAttachRegister_evdev (sc : ImtSoftc) (e : Nat) :
    (imtAttachRegister E sc e).evdev = some (imtEvdevDev E sc) := by
  unfold imtAttachRegister; split <;> rfl

@[simp] theorem imtAttachRegister_error (sc : ImtSoftc) (e : Nat) :
    (imtAttachRegister E sc e).error = if e = 0 then 0 else E.enxio := by
  simp only [imtAttachRegister, apply_ite AttachResult.error]

/-- `imt_attach` from the softc that `wmt_hid_parse` filled (line 340) to its return. -/
def imtAttachSoftc (sc : ImtSoftc) (registerError : Nat) : AttachResult :=
  if sc.type = 0 then ⟨E.enxio, sc, none, [.mtxInit, .mtxDestroy]⟩ else
  let t := attachThqaCert dev (attachContMax E dev sc).1
  if t.1.type = E.hudTouchpad ∧ t.1.inputModeRlen ≠ 0 then
    let m := imtSetInputMode E dev t.1 imtInputModeMtTouchpad
    if m.1 ≠ 0 then ⟨E.enxio, m.2.1, none, [.mtxInit, .mtxDestroy]⟩
    else imtAttachRegister E m.2.1 registerError
  else imtAttachRegister E t.1 registerError

/-- `imt_attach`. `desc` is the report descriptor of `iichid_get_report_desc`, `none` for its
error. -/
def imtAttachDevice (desc : Option (List HidItem)) (registerError : Nat) : AttachResult :=
  match desc with
  | none => ⟨E.enxio, {}, none, []⟩
  | some items =>
    let p := wmtHidParse E true {} items
    imtAttachSoftc E dev { p.2 with type := p.1 } registerError

end

/-- `imt_detach`: the calls it makes. -/
def imtDetach : List KernelCall := [.evdevFree, .intrUnsetup, .mtxDestroy]

/-! ## The paths of `imt_attach` -/

/-- `sc` is `s` with another buffer and another slot range. -/
def Reread (s sc : ImtSoftc) : Prop :=
  ∃ buf ai, sc = { s with buf := buf, ai := ai } ∧ ∀ c, c ≠ wmtSlot → ai c = s.ai c

theorem Reread.refl (s : ImtSoftc) : Reread s s := ⟨s.buf, s.ai, rfl, fun _ _ => rfl⟩

theorem Reread.trans {s t u : ImtSoftc} (h₁ : Reread s t) (h₂ : Reread t u) : Reread s u := by
  obtain ⟨b₁, a₁, rfl, ha₁⟩ := h₁
  obtain ⟨b₂, a₂, rfl, ha₂⟩ := h₂
  exact ⟨b₂, a₂, rfl, fun c hc => (ha₂ c hc).trans (ha₁ c hc)⟩

/-- A buffer write is a reread. -/
theorem Reread.buf (s : ImtSoftc) (buf : Buf) : Reread s { s with buf := buf } :=
  ⟨buf, s.ai, rfl, fun _ _ => rfl⟩

section

variable (E : Hid) (dev : Iichid)

theorem wmtContMaxParse_reread (sc : ImtSoftc) (rPtr : Buf) (rLen : Nat) :
    Reread sc (wmtContMaxParse E sc rPtr rLen) := by
  unfold wmtContMaxParse
  dsimp only
  split_ifs <;>
    first | exact Reread.refl sc | exact ⟨sc.buf, _, rfl, fun c hc => Function.update_noteq hc _ _⟩

theorem attachContMax_reread (sc : ImtSoftc) : Reread sc (attachContMax E dev sc).1 := by
  unfold attachContMax
  dsimp only
  split_ifs
  · exact (Reread.buf sc _).trans (wmtContMaxParse_reread E _ _ _)
  · exact Reread.buf sc _
  · exact Reread.refl sc

theorem attachThqaCert_reread (sc : ImtSoftc) : Reread sc (attachThqaCert dev sc).1 := by
  unfold attachThqaCert
  split_ifs
  · exact Reread.buf sc _
  · exact Reread.refl sc

theorem imtSetInputMode_reread (sc : ImtSoftc) (mode : BitVec 32) :
    Reread sc (imtSetInputMode E dev sc mode).2.1 := by
  rw [imtSetInputMode, if_neg (imtSetInputMode_guard _)]
  exact Reread.buf sc _

/-- The four paths of `imt_attach` after the parse, from the softc `t` after the feature reads:
`ENXIO` for a descriptor it does not take, or for a touch pad with an Input Mode report whose
device refused the mode; else the registration of the softc that `imt_set_input_mode` left, or of
`t` when no mode is to be set. -/
theorem imtAttachSoftc_cases (sc : ImtSoftc) (e : Nat) :
    sc.type = 0 ∧ imtAttachSoftc E dev sc e = ⟨E.enxio, sc, none, [.mtxInit, .mtxDestroy]⟩ ∨
      ∃ t, t = (attachThqaCert dev (attachContMax E dev sc).1).1 ∧ sc.type ≠ 0 ∧
        ((t.type = E.hudTouchpad ∧ t.inputModeRlen ≠ 0) ∧
            ((imtSetInputMode E dev t imtInputModeMtTouchpad).1 ≠ 0 ∧
                imtAttachSoftc E dev sc e = ⟨E.enxio,
                  (imtSetInputMode E dev t imtInputModeMtTouchpad).2.1, none,
                  [.mtxInit, .mtxDestroy]⟩ ∨
              (imtSetInputMode E dev t imtInputModeMtTouchpad).1 = 0 ∧
                imtAttachSoftc E dev sc e =
                  imtAttachRegister E (imtSetInputMode E dev t imtInputModeMtTouchpad).2.1 e) ∨
          ¬(t.type = E.hudTouchpad ∧ t.inputModeRlen ≠ 0) ∧
            imtAttachSoftc E dev sc e = imtAttachRegister E t e) := by
  unfold imtAttachSoftc
  dsimp only
  split_ifs with h0 hmode hset
  · exact .inl ⟨h0, rfl⟩
  · exact .inr ⟨_, rfl, h0, .inl ⟨hmode, .inl ⟨hset, rfl⟩⟩⟩
  · exact .inr ⟨_, rfl, h0, .inl ⟨hmode, .inr ⟨not_not.1 hset, rfl⟩⟩⟩
  · exact .inr ⟨_, rfl, h0, .inr ⟨hmode, rfl⟩⟩

/-- A property of softcs that the feature reads and `imt_set_input_mode` keep holds of the softc
that `imt_attach` returns when it holds of the parsed one. -/
theorem imtAttachSoftc_sc_of (P : ImtSoftc → Prop) (hc : ∀ s, P s → P (attachContMax E dev s).1)
    (ht : ∀ s, P s → P (attachThqaCert dev s).1)
    (hm : ∀ s, P s → P (imtSetInputMode E dev s imtInputModeMtTouchpad).2.1) {sc : ImtSoftc}
    (hsc : P sc) (e : Nat) : P (imtAttachSoftc E dev sc e).sc := by
  have hreads := ht _ (hc _ hsc)
  rcases imtAttachSoftc_cases E dev sc e with
    ⟨-, h⟩ | ⟨t, rfl, -, ⟨-, ⟨-, h⟩ | ⟨-, h⟩⟩ | ⟨-, h⟩⟩ <;>
    simp only [h, imtAttachRegister_sc]
  exacts [hsc, hm _ hreads, hm _ hreads, hreads]

end

/-! ## What is held -/

/-- A return of `imt_attach` that holds the mutex, the interrupt handler and a registered evdev
device, all of which `imt_detach` gives back. -/
def AttachResult.Attached (r : AttachResult) : Prop :=
  r.error = 0 ∧ Held.run {} r.calls = ⟨true, true, true, true⟩ ∧
    Held.run {} (r.calls ++ imtDetach) = {}

/-- A failing return of `imt_attach`: `ENXIO`, neither the mutex nor the handler nor a
registration held, and the evdev device allocated and still held exactly when the path made a
failed `evdev_register_mtx`: nothing between that call and the return frees the device. -/
def AttachResult.Failed (E : Hid) (r : AttachResult) : Prop :=
  r.error = E.enxio ∧ Held.run {} r.calls = ⟨false, false, r.evdev.isSome, false⟩ ∧
    (r.evdev.isSome = true ↔ ∃ e, e ≠ 0 ∧ KernelCall.evdevRegister e ∈ r.calls)

section

variable (E : Hid) (dev : Iichid)

theorem imtAttachRegister_held (sc : ImtSoftc) (e : Nat) :
    (imtAttachRegister E sc e).Attached ∨ (imtAttachRegister E sc e).Failed E := by
  unfold imtAttachRegister
  by_cases he : e = 0
  · subst he; exact .inl ⟨rfl, rfl, rfl⟩
  · rw [if_neg he]
    exact .inr ⟨rfl, by simp [Held.run, Held.call, he], fun _ => ⟨e, he, by simp⟩, fun _ => rfl⟩

theorem imtAttachSoftc_held (sc : ImtSoftc) (e : Nat) :
    (imtAttachSoftc E dev sc e).Attached ∨ (imtAttachSoftc E dev sc e).Failed E := by
  have hfail : ∀ s : ImtSoftc,
      (⟨E.enxio, s, none, [.mtxInit, .mtxDestroy]⟩ : AttachResult).Failed E :=
    fun _ => ⟨rfl, rfl, by simp⟩
  rcases imtAttachSoftc_cases E dev sc e with ⟨-, h⟩ | ⟨t, -, -, ⟨-, ⟨-, h⟩ | ⟨-, h⟩⟩ | ⟨-, h⟩⟩ <;>
    rw [h]
  exacts [.inr (hfail _), .inr (hfail _), imtAttachRegister_held E _ e,
    imtAttachRegister_held E _ e]

end

/-! ## When `imt_attach` succeeds -/

section

variable (E : Hid) (dev : Iichid)

/-- `imt_probe` claims a device exactly when the analysis of `imt_attach`, on the zero softc that
the bus allocates, returns a type: the two analyses agree on every descriptor. -/
theorem imtProbe_iff (items : List HidItem) :
    imtProbe E items = true ↔ (wmtHidParse E true {} items).1 ≠ 0 := by
  have hrid : (featureWalk E false {} items).contMaxRid =
      (featureWalk E true {} items).contMaxRid :=
    (congrArg FeatureLocals.contMaxRid (featureWalk_erase E false {} items)).trans
      (congrArg FeatureLocals.contMaxRid (featureWalk_erase E true {} items)).symm
  have hsim := probeSim_walk E items { sc := (featureWalk E false {} items).sc }
    { sc := (featureWalk E true {} items).sc }
    ⟨rfl, fun _ _ => rfl, fun c _ h => absurd (by rw [featureWalk_locs]; rfl) h⟩
  unfold imtProbe wmtHidParse inputWalk
  simp only [hrid, hsim.ctl, required_any_congr E hsim.caps, apply_ite Prod.fst, ite_self,
    bne_iff_ne]

/-- On a bus that accepts every Set Report request, `imt_attach` returns `0` from the parsed
softc exactly when the descriptor was taken and `evdev_register_mtx` succeeds. -/
theorem imtAttachSoftc_error_eq_zero (hE : E.enxio ≠ 0)
    (hset : ∀ buf len rid, dev.setReport buf len rid = 0) (sc : ImtSoftc) (e : Nat) :
    (imtAttachSoftc E dev sc e).error = 0 ↔ sc.type ≠ 0 ∧ e = 0 := by
  rcases imtAttachSoftc_cases E dev sc e with
    ⟨h0, h⟩ | ⟨t, -, h0, ⟨-, ⟨hm, -⟩ | ⟨-, h⟩⟩ | ⟨-, h⟩⟩
  · rw [h]
    exact ⟨fun h' => absurd h' hE, fun h' => absurd h0 h'.1⟩
  · -- the bus accepts the mode
    rw [imtSetInputMode, if_neg (imtSetInputMode_guard _)] at hm
    exact absurd (hset _ _ _) hm
  all_goals
    rw [h, imtAttachRegister_error]
    by_cases he : e = 0 <;> simp [he, h0, hE]

/-- On a bus that accepts every Set Report request, `imt_attach` returns `0` exactly for the
descriptors that `imt_probe` claims, when `evdev_register_mtx` succeeds: a device that probe
claims is never refused by attach for its descriptor or its Input Mode report. -/
theorem imtAttachDevice_succeeds (hE : E.enxio ≠ 0)
    (hset : ∀ buf len rid, dev.setReport buf len rid = 0) (items : List HidItem) (e : Nat) :
    (imtAttachDevice E dev (some items) e).error = 0 ↔ imtProbe E items = true ∧ e = 0 := by
  rw [imtProbe_iff]
  exact imtAttachSoftc_error_eq_zero E dev hE hset _ e

end

/-! ## The declared device -/

section

variable (E : Hid) (dev : Iichid)

theorem imtAttachSoftc_evdev {sc : ImtSoftc} {e : Nat} {d : EvdevDev}
    (hd : (imtAttachSoftc E dev sc e).evdev = some d) :
    sc.type ≠ 0 ∧ d = imtEvdevDev E (imtAttachSoftc E dev sc e).sc ∧
      Reread sc (imtAttachSoftc E dev sc e).sc := by
  have hreads := (attachContMax_reread E dev sc).trans (attachThqaCert_reread dev _)
  rcases imtAttachSoftc_cases E dev sc e with
    ⟨-, h⟩ | ⟨t, rfl, h0, ⟨-, ⟨-, h⟩ | ⟨-, h⟩⟩ | ⟨-, h⟩⟩ <;>
    rw [h] at hd ⊢
  · cases hd
  · cases hd
  all_goals
    rw [imtAttachRegister_evdev, Option.some.injEq] at hd
    rw [imtAttachRegister_sc]
    refine ⟨h0, hd.symm, ?_⟩
  exacts [hreads.trans (imtSetInputMode_reread E dev _ _), hreads]

/-- A device is declared only after a descriptor that `wmt_hid_parse` accepts, from the parsed
softc with another buffer and slot range. -/
theorem imtAttachDevice_evdev {desc : Option (List HidItem)} {e : Nat} {d : EvdevDev}
    (hd : (imtAttachDevice E dev desc e).evdev = some d) :
    ∃ items, desc = some items ∧ (wmtHidParse E true {} items).1 ≠ 0 ∧
      d = imtEvdevDev E (imtAttachDevice E dev desc e).sc ∧
      Reread { (wmtHidParse E true {} items).2 with type := (wmtHidParse E true {} items).1 }
        (imtAttachDevice E dev desc e).sc := by
  cases desc with
  | none => cases hd
  | some items => exact ⟨items, rfl, imtAttachSoftc_evdev E dev hd⟩

/-- The softc of a declared device has every required channel in `caps`. -/
theorem imtAttachDevice_caps_required {desc : Option (List HidItem)} {e : Nat} {d : EvdevDev}
    (hd : (imtAttachDevice E dev desc e).evdev = some d) {i : Fin wmtNUsages}
    (hr : (wmtHidMap E i).required = true) :
    usageSupported (imtAttachDevice E dev desc e).sc.caps i = true := by
  obtain ⟨items, -, hp, -, buf, ai, hsc, -⟩ := imtAttachDevice_evdev E dev hd
  rw [hsc]
  exact wmtHidParse_required E hp hr

/-- The device `imt_attach` declares has the property of its type, `INPUT_PROP_DIRECT` for a
touch screen and `INPUT_PROP_POINTER` for a touch pad, only axes of codes at most `ABS_MAX`, and
the axes of the four required channels: `ABS_MT_SLOT`, `ABS_MT_POSITION_X`,
`ABS_MT_POSITION_Y` and `ABS_MT_TRACKING_ID`. -/
theorem imtAttachDevice_declares {desc : Option (List HidItem)} {e : Nat} {d : EvdevDev}
    (hd : (imtAttachDevice E dev desc e).evdev = some d) :
    ((imtAttachDevice E dev desc e).sc.type = E.hudTouchscreen ∧ d.prop = some .direct ∨
      (imtAttachDevice E dev desc e).sc.type = E.hudTouchpad ∧ d.prop = some .pointer) ∧
    (∀ a ∈ d.axes, a.code ≤ E.absMax) ∧
    ∀ c ∈ [E.absMtSlot, E.absMtPositionX, E.absMtPositionY, E.absMtTrackingId],
      c ∈ d.axes.map AbsAxis.code := by
  have hreq := fun i => imtAttachDevice_caps_required E dev hd (i := i)
  obtain ⟨items, -, hp, rfl, buf, ai, hsc, -⟩ := imtAttachDevice_evdev E dev hd
  refine ⟨?_, imtAbsAxes_code_le E _, ?_⟩
  · -- the property follows the type
    rw [hsc]
    simp only [imtEvdevDev, imtInputProp]
    by_cases hs : (wmtHidParse E true {} items).1 = E.hudTouchscreen
    · exact .inl ⟨hs, by rw [if_pos hs]⟩
    · have ht := (wmtHidParse_type_cases E hp).resolve_left hs
      exact .inr ⟨ht, by rw [if_neg hs, if_pos ht]⟩
  · -- the required channels are in `caps`
    simp only [List.mem_cons, List.mem_singleton, List.not_mem_nil, or_false]
    rintro c (rfl | rfl | rfl | rfl)
    exacts [mem_imtAbsAxes_code E _ wmtTipSwitch (hreq wmtTipSwitch rfl) (by decide),
      mem_imtAbsAxes_code E _ wmtX (hreq wmtX rfl) (by decide),
      mem_imtAbsAxes_code E _ wmtY (hreq wmtY rfl) (by decide),
      mem_imtAbsAxes_code E _ wmtContactid (hreq wmtContactid rfl) (by decide)]

end

/-- A bus whose feature-report transfers succeed and leave the buffer as it is. -/
def okBus : Iichid := ⟨fun buf _ _ => (0, buf), fun _ _ _ => 0⟩

/-- `sampleTouchpad` with width and height in its finger collection, a byte each from bit 72. -/
def sizedTouchpad : List HidItem :=
  [.coll 1 (Hid.freeBSD.hidUsage2 0x0d 0x05) 1,
    .field .feature 1 (Hid.freeBSD.hidUsage2 0x0d 0x55) 2 0 8 5,
    .field .input 1 (Hid.freeBSD.hidUsage2 0x0d 0x54) 1 0 8 5,
    .field .input 1 (Hid.freeBSD.hidUsage2 0x0d 0x56) 1 8 16 65535,
    .coll 2 (Hid.freeBSD.hidUsage2 0x0d 0x22) 1,
    .field .input 2 (Hid.freeBSD.hidUsage2 0x0d 0x42) 1 24 1 1,
    .field .input 2 (Hid.freeBSD.hidUsage2 0x01 0x30) 1 32 16 4095,
    .field .input 2 (Hid.freeBSD.hidUsage2 0x01 0x31) 1 48 16 4095,
    .field .input 2 (Hid.freeBSD.hidUsage2 0x0d 0x51) 1 64 8 255,
    .field .input 2 (Hid.freeBSD.hidUsage2 0x0d 0x48) 1 72 8 255,
    .field .input 2 (Hid.freeBSD.hidUsage2 0x0d 0x49) 1 80 8 255,
    .ecoll 1,
    .ecoll 0]

/-- The device declared for `sizedTouchpad` on `okBus`: a pointer, the slot range `0 .. 4` from
its Contact Count Maximum of `5`, the ranges of its finger's items, and the orientation `0 .. 1`.
-/
def sizedTouchpadDev : EvdevDev :=
  ⟨some .pointer, [⟨0x2f, 0, 4, 0⟩, ⟨0x30, 0, 255, 0⟩, ⟨0x31, 0, 255, 0⟩, ⟨0x34, 0, 1, 0⟩,
    ⟨0x35, 0, 4095, 0⟩, ⟨0x36, 0, 4095, 0⟩, ⟨0x39, 0, 255, 0⟩]⟩

theorem imtAttachDevice_declares_sized :
    (imtAttachDevice Hid.freeBSD okBus (some sizedTouchpad) 0).evdev = some sizedTouchpadDev ∧
      (((imtAttachDevice Hid.freeBSD okBus (some sizedTouchpad) 0).sc.type =
            Hid.freeBSD.hudTouchscreen ∧ sizedTouchpadDev.prop = some .direct ∨
          (imtAttachDevice Hid.freeBSD okBus (some sizedTouchpad) 0).sc.type =
            Hid.freeBSD.hudTouchpad ∧ sizedTouchpadDev.prop = some .pointer) ∧
        (∀ a ∈ sizedTouchpadDev.axes, a.code ≤ Hid.freeBSD.absMax) ∧
        ∀ c ∈ [Hid.freeBSD.absMtSlot, Hid.freeBSD.absMtPositionX, Hid.freeBSD.absMtPositionY,
          Hid.freeBSD.absMtTrackingId], c ∈ sizedTouchpadDev.axes.map AbsAxis.code) :=
  ⟨by decide, imtAttachDevice_declares Hid.freeBSD okBus (by decide)⟩

theorem imtAttachDevice_succeeds_sized :
    Hid.freeBSD.enxio ≠ 0 ∧ (∀ buf len rid, okBus.setReport buf len rid = 0) ∧
      ((imtAttachDevice Hid.freeBSD okBus (some sizedTouchpad) 0).error = 0 ↔
        imtProbe Hid.freeBSD sizedTouchpad = true ∧ 0 = 0) :=
  ⟨by decide, fun _ _ _ => rfl,
    imtAttachDevice_succeeds Hid.freeBSD okBus (by decide) (fun _ _ _ => rfl) sizedTouchpad 0⟩

end Imt
