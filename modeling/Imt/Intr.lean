import Imt.Map
import Mathlib.Data.List.Count

/-!
# The report handler `imt_intr`

`imtIntr` is `imt_intr` (lines 423-545 of `imt.c`) on the softc, the events pushed to the evdev
device so far and the caller's buffer. `slotOf` stands for `evdev_get_mt_slot_by_tracking_id`:
the device's answer is a function of the events pushed to it, any function.

A report of another id changes nothing (`imtIntr_foreign`). A report of the pinned id restarts
the counter `nconts_todo` from a nonzero Contact Count, visits `MIN(nconts_todo,
nconts_per_report)` contacts (`intrContacts`), counts them off and syncs when none is left. The
loop records the rows of `sc->locs` it reads (`imtIntr_rows`): a row at or past `MAX_MT_SLOTS`
is a read past the array.

* `imtIntr_call`: one call, as counter arithmetic over `ℕ`: the counter stored never wraps, and
  the call adds one sync exactly when it stores `0`.
* `imtIntrRun_zeros`, `imtIntr_counter`: a report with Contact Count `C` followed by reports
  with Contact Count `0` and foreign reports: after `J` matching reports the counter is
  `C - J * P`, the loops have visited `min C (J * P)` contacts and the `j`-th matching report
  synced exactly when `C ≤ j * P`.
-/

namespace Imt

/-- An event that `imt_intr` pushes: `evdev_push_abs(evdev, code, value)` or `evdev_sync`. -/
inductive EvdevEvent
  | abs (code : Nat) (value : BitVec 32)
  | sync
  deriving DecidableEq, Repr

/-- An input report as the bus delivers it. -/
structure Report where
  buf : Buf
  len : Nat
  id : Nat

section

variable (E : Hid) (slotOf : List EvdevEvent → BitVec 32 → Int)

/-- Lines 444-445: `bzero(buf + len, isize - len)` for a report shorter than `isize`. -/
def zeroTail (buf : Buf) (len isize : Nat) : Buf :=
  if len < isize then fun j => if len ≤ j ∧ j < isize then 0 else buf j else buf

/-- Line 456: the report's Contact Count. -/
def reportCount (sc : ImtSoftc) (buf : Buf) (len : Nat) : BitVec 32 :=
  E.hidGetDataUnsigned (zeroTail buf len sc.isize) len sc.contCountLoc

/-- Lines 471-472: a nonzero Contact Count restarts the count of contacts still to come. -/
def ncontsTodoOf (todo count : BitVec 32) : BitVec 32 :=
  if count ≠ 0 then count else todo

/-- Line 486: `MIN(sc->nconts_todo, sc->nconts_per_report)`. -/
def contactBound (todo perReport : BitVec 32) : BitVec 32 :=
  if todo < perReport then todo else perReport

/-- The contact indices that the loop of lines 489-540 visits. -/
def intrContacts (sc : ImtSoftc) (buf : Buf) (len : Nat) : List Nat :=
  List.range
    (contactBound (ncontsTodoOf sc.ncontsTodo (reportCount E sc buf len)) sc.ncontsPerReport).toNat

/-- Lines 491-495: `bzero(slot_data)`, then contact `cont`'s field of each channel in `caps`
that has a location. -/
def readSlotData (sc : ImtSoftc) (buf : Buf) (len cont : Nat) : Fin wmtNUsages → BitVec 32 :=
  wmtUsages.foldl (fun sd u =>
    if usageSupported sc.caps u = true ∧ 0 < (sc.locs cont u).size then
      Function.update sd u (E.hidGetDataUnsigned buf len (sc.locs cont u))
    else sd) fun _ => 0

/-- Lines 521-528: a touching contact's data, rewritten in place. `WMT_SLOT`, `WMT_MAJOR` and
`WMT_MINOR` are the entries of `WMT_TIP_SWITCH`, `WMT_WIDTH` and `WMT_HEIGHT`. -/
def touchData (sd : Fin wmtNUsages → BitVec 32) (slot : Int) : Fin wmtNUsages → BitVec 32 :=
  let sd := Function.update sd wmtSlot (BitVec.ofInt 32 slot)
  let sd := Function.update sd wmtInRange (if sd wmtInRange = 0 then 1 else 0)
  let width := sd wmtWidth >>> 1
  let height := sd wmtHeight >>> 1
  let sd := Function.update sd wmtOrientation (if width > height then 1 else 0)
  let sd := Function.update sd wmtMajor (if width > height then width else height)
  Function.update sd wmtMinor (if width < height then width else height)

/-- Lines 530-534: an `ABS` event for each channel in `caps` that has an event code, in channel
order. -/
def touchEvents (caps : Nat) (sd : Fin wmtNUsages → BitVec 32) : List EvdevEvent :=
  (wmtUsages.filter fun u => usageSupported caps u && (wmtHidMap E u).code != wmtNoCode E).map
    fun u => .abs (wmtHidMap E u).code (sd u)

/-- The contact loop's state: the scratch array `sc->slot_data`, the events pushed, and the rows
of `sc->locs` read, in order. A row at or past `MAX_MT_SLOTS` lies outside the array: C's read
of it is undefined (in the softc's layout, `cont_count_loc` follows the array), and the model
reads the default row there. -/
structure LoopState where
  slotData : Fin wmtNUsages → BitVec 32
  log : List EvdevEvent
  rows : List Nat

/-- One pass of the contact loop (lines 491-539), for contact `cont`. Lines 493-495 read row
`cont` of `sc->locs` for each channel in `caps`. -/
def contactStep (sc : ImtSoftc) (buf : Buf) (len : Nat) (st : LoopState) (cont : Nat) :
    LoopState :=
  let sd := readSlotData E sc buf len cont
  let rows := if wmtUsages.any (usageSupported sc.caps) then st.rows ++ [cont] else st.rows
  let slot := slotOf st.log (sd wmtContactid)
  if slot = -1 then ⟨sd, st.log, rows⟩
  else if sd wmtTipSwitch ≠ 0 ∧
      ¬(usageSupported sc.caps wmtConfidence = true ∧ sd wmtConfidence = 0) then
    ⟨touchData sd slot, st.log ++ touchEvents E sc.caps (touchData sd slot), rows⟩
  else
    ⟨sd, st.log ++ [.abs E.absMtSlot (BitVec.ofInt 32 slot),
      .abs E.absMtTrackingId (BitVec.ofInt 32 (-1))], rows⟩

/-- `imt_intr` for report `id` of `len` bytes: the softc, the events, the caller's buffer, and
the rows of `sc->locs` that the contact loop read. -/
def imtIntr (sc : ImtSoftc) (log : List EvdevEvent) (buf : Buf) (len id : Nat) :
    ImtSoftc × List EvdevEvent × Buf × List Nat :=
  if sc.reportId ≠ id then (sc, log, buf, []) else
  let todo := ncontsTodoOf sc.ncontsTodo (reportCount E sc buf len)
  let contCount := contactBound todo sc.ncontsPerReport
  let st := (intrContacts E sc buf len).foldl
    (contactStep E slotOf sc (zeroTail buf len sc.isize) len) ⟨sc.slotData, log, []⟩
  ({ sc with ncontsTodo := todo - contCount, slotData := st.slotData },
    if todo - contCount = 0 then st.log ++ [.sync] else st.log, zeroTail buf len sc.isize, st.rows)

/-- `imt_intr` on report after report: the softc and the events. -/
def imtIntrRun : ImtSoftc → List EvdevEvent → List Report → ImtSoftc × List EvdevEvent
  | sc, log, [] => (sc, log)
  | sc, log, r :: rs =>
    imtIntrRun (imtIntr E slotOf sc log r.buf r.len r.id).1
      (imtIntr E slotOf sc log r.buf r.len r.id).2.1 rs

/-- The contacts that the loops of a run visit, report after report: the lists that the calls
of the pinned id fold over. -/
def runContacts : ImtSoftc → List EvdevEvent → List Report → List Nat
  | _, _, [] => []
  | sc, log, r :: rs =>
    (if sc.reportId = r.id then intrContacts E sc r.buf r.len else []) ++
      runContacts (imtIntr E slotOf sc log r.buf r.len r.id).1
        (imtIntr E slotOf sc log r.buf r.len r.id).2.1 rs

/-! ## One call -/

/-- A report of another id changes nothing and pushes nothing. -/
theorem imtIntr_foreign {sc : ImtSoftc} {id : Nat} (h : sc.reportId ≠ id) (log : List EvdevEvent)
    (buf : Buf) (len : Nat) : imtIntr E slotOf sc log buf len id = (sc, log, buf, []) := by
  simp [imtIntr, h]

theorem contactStep_sync (sc : ImtSoftc) (buf : Buf) (len : Nat) (st : LoopState) (cont : Nat) :
    (contactStep E slotOf sc buf len st cont).log.count .sync = st.log.count .sync := by
  unfold contactStep touchEvents
  dsimp only
  split_ifs <;> simp [List.count_eq_zero]

/-- The contact loop pushes no sync. -/
theorem foldl_contactStep_sync (sc : ImtSoftc) (buf : Buf) (len : Nat) (ks : List Nat)
    (st : LoopState) :
    (ks.foldl (contactStep E slotOf sc buf len) st).log.count .sync = st.log.count .sync := by
  induction ks generalizing st with
  | nil => rfl
  | cons k ks ih => rw [List.foldl_cons, ih, contactStep_sync]

theorem contactStep_rows (sc : ImtSoftc) (buf : Buf) (len : Nat) (st : LoopState) (cont : Nat) :
    (contactStep E slotOf sc buf len st cont).rows =
      st.rows ++ if wmtUsages.any (usageSupported sc.caps) then [cont] else [] := by
  unfold contactStep
  dsimp only
  split_ifs <;> simp_all

/-- The contact loop reads the row of each contact it visits, when `caps` has a channel. -/
theorem foldl_contactStep_rows (sc : ImtSoftc) (buf : Buf) (len : Nat) (ks : List Nat)
    (st : LoopState) :
    (ks.foldl (contactStep E slotOf sc buf len) st).rows =
      st.rows ++ if wmtUsages.any (usageSupported sc.caps) then ks else [] := by
  induction ks generalizing st with
  | nil => split <;> simp
  | cons k ks ih =>
    rw [List.foldl_cons, ih, contactStep_rows]
    split <;> simp

/-- The rows of `sc->locs` that a call of the pinned id reads: those of the contacts it visits,
when `caps` has a channel. -/
theorem imtIntr_rows {sc : ImtSoftc} {id : Nat} (hid : sc.reportId = id) (log : List EvdevEvent)
    (buf : Buf) (len : Nat) :
    (imtIntr E slotOf sc log buf len id).2.2.2 =
      if wmtUsages.any (usageSupported sc.caps) then intrContacts E sc buf len else [] := by
  subst hid
  simp only [imtIntr, ne_eq, not_true_eq_false, if_false, foldl_contactStep_rows, List.nil_append]

theorem contactBound_le (todo perReport : BitVec 32) : contactBound todo perReport ≤ todo := by
  unfold contactBound; split <;> bv_omega

theorem toNat_contactBound (todo perReport : BitVec 32) :
    (contactBound todo perReport).toNat = min todo.toNat perReport.toNat := by
  unfold contactBound; split <;> bv_omega

/-- What one call of the pinned id does, over `ℕ`: with `n'` the counter restarted by a nonzero
Contact Count and `P` the contacts per report, it visits `min n' P` contacts, stores
`n' - min n' P`, and adds one sync exactly when that is `0`. -/
theorem imtIntr_call (sc : ImtSoftc) (log : List EvdevEvent) (buf : Buf) (len : Nat) :
    (imtIntr E slotOf sc log buf len sc.reportId).1.ncontsTodo.toNat =
        (ncontsTodoOf sc.ncontsTodo (reportCount E sc buf len)).toNat -
          min (ncontsTodoOf sc.ncontsTodo (reportCount E sc buf len)).toNat
            sc.ncontsPerReport.toNat ∧
      intrContacts E sc buf len =
        List.range (min (ncontsTodoOf sc.ncontsTodo (reportCount E sc buf len)).toNat
          sc.ncontsPerReport.toNat) ∧
      (imtIntr E slotOf sc log buf len sc.reportId).2.1.count .sync =
        log.count .sync + (if (imtIntr E slotOf sc log buf len sc.reportId).1.ncontsTodo = 0
          then 1 else 0) := by
  simp only [imtIntr, ne_eq, not_true_eq_false, if_false, intrContacts, reportCount]
  generalize ncontsTodoOf sc.ncontsTodo _ = todo
  have hle := contactBound_le todo sc.ncontsPerReport
  refine ⟨?_, by rw [toNat_contactBound], ?_⟩
  · rw [BitVec.toNat_sub_of_le hle, toNat_contactBound]
  · split <;> simp [foldl_contactStep_sync]

/-- A call writes only `nconts_todo` and `slot_data`. -/
theorem imtIntr_frame (sc : ImtSoftc) (log : List EvdevEvent) (buf : Buf) (len id : Nat) :
    (imtIntr E slotOf sc log buf len id).1 =
      { sc with
        ncontsTodo := (imtIntr E slotOf sc log buf len id).1.ncontsTodo
        slotData := (imtIntr E slotOf sc log buf len id).1.slotData } := by
  unfold imtIntr; split_ifs <;> rfl

/-- The fields that `imt_intr` reads and never writes agree. -/
structure SameProfile (sc s : ImtSoftc) : Prop where
  reportId : s.reportId = sc.reportId
  isize : s.isize = sc.isize
  contCountLoc : s.contCountLoc = sc.contCountLoc
  ncontsPerReport : s.ncontsPerReport = sc.ncontsPerReport

theorem SameProfile.refl (sc : ImtSoftc) : SameProfile sc sc := ⟨rfl, rfl, rfl, rfl⟩

theorem SameProfile.imtIntr {sc s : ImtSoftc} (h : SameProfile sc s) (log : List EvdevEvent)
    (buf : Buf) (len id : Nat) : SameProfile sc (imtIntr E slotOf s log buf len id).1 := by
  rw [imtIntr_frame]; exact ⟨h.reportId, h.isize, h.contCountLoc, h.ncontsPerReport⟩

theorem SameProfile.reportCount {sc s : ImtSoftc} (h : SameProfile sc s) (buf : Buf) (len : Nat) :
    reportCount E s buf len = reportCount E sc buf len := by
  rw [Imt.reportCount, Imt.reportCount, h.isize, h.contCountLoc]

/-! ## Runs -/

/-- The counter after a call that starts from `n` and visits `min n P` contacts, and `K` more
calls of `P`: what is left, how many were visited, and when the first call leaves none. -/
theorem counter_arith (n P K : Nat) :
    n - min n P - K * P = n - (K + 1) * P ∧
      min n P + min (n - min n P) (K * P) = min n ((K + 1) * P) ∧
      (n - min n P = 0 ↔ n ≤ P) := by
  rw [Nat.add_mul, Nat.one_mul]
  omega

/-- Counting the reports `j` (from `1`) with `t ≤ j * P` among `K + 1`: the first, then the
others against what is left after it. -/
theorem countP_range_succ_sub (t P K : Nat) :
    (List.range (K + 1)).countP (fun j => decide (t ≤ (j + 1) * P)) =
      (if t ≤ P then 1 else 0) +
        (List.range K).countP (fun j => decide (t - min t P ≤ (j + 1) * P)) := by
  rw [List.range_succ_eq_map, List.countP_cons, List.countP_map, Nat.add_comm]
  congr 2
  · simp
  · funext j
    simp only [Function.comp, Nat.succ_eq_add_one, Nat.add_mul (j + 1) 1, Nat.one_mul,
      decide_eq_decide]
    omega

/-- A call of the pinned id and the run after it: from what the call does with the restarted
counter `n` (`imtIntr_call`) and what the rest does over `K` matching reports. -/
theorem imtIntrRun_cons_call {s : ImtSoftc} {r : Report} (hid : s.reportId = r.id)
    (rs : List Report) (log : List EvdevEvent) {n P K : Nat}
    (htodo : (imtIntr E slotOf s log r.buf r.len r.id).1.ncontsTodo.toNat = n - min n P)
    (hks : intrContacts E s r.buf r.len = List.range (min n P))
    (hsync : (imtIntr E slotOf s log r.buf r.len r.id).2.1.count .sync =
      log.count .sync + if (imtIntr E slotOf s log r.buf r.len r.id).1.ncontsTodo = 0 then 1 else 0)
    (h1 : (imtIntrRun E slotOf (imtIntr E slotOf s log r.buf r.len r.id).1
      (imtIntr E slotOf s log r.buf r.len r.id).2.1 rs).1.ncontsTodo.toNat =
        (imtIntr E slotOf s log r.buf r.len r.id).1.ncontsTodo.toNat - K * P)
    (h2 : (runContacts E slotOf (imtIntr E slotOf s log r.buf r.len r.id).1
      (imtIntr E slotOf s log r.buf r.len r.id).2.1 rs).length =
        min (imtIntr E slotOf s log r.buf r.len r.id).1.ncontsTodo.toNat (K * P))
    (h3 : (imtIntrRun E slotOf (imtIntr E slotOf s log r.buf r.len r.id).1
      (imtIntr E slotOf s log r.buf r.len r.id).2.1 rs).2.count .sync =
        (imtIntr E slotOf s log r.buf r.len r.id).2.1.count .sync + (List.range K).countP
          fun j => decide ((imtIntr E slotOf s log r.buf r.len r.id).1.ncontsTodo.toNat ≤ (j + 1) * P)) :
    (imtIntrRun E slotOf s log (r :: rs)).1.ncontsTodo.toNat = n - (K + 1) * P ∧
      (runContacts E slotOf s log (r :: rs)).length = min n ((K + 1) * P) ∧
      (imtIntrRun E slotOf s log (r :: rs)).2.count .sync =
        log.count .sync + (List.range (K + 1)).countP fun j => decide (n ≤ (j + 1) * P) := by
  simp only [imtIntrRun, runContacts, hid, if_true, List.length_append, hks, List.length_range]
  obtain ⟨hleft, hvisited, hnone⟩ := counter_arith n P K
  have hz0 : (imtIntr E slotOf s log r.buf r.len r.id).1.ncontsTodo = 0 ↔ n ≤ P := by
    rw [BitVec.toNat_eq, htodo, ← hnone]; rfl
  rw [h1, h2, h3, hsync, htodo, countP_range_succ_sub, hleft, hvisited, Nat.add_assoc]
  simp only [hz0, and_self]

/-- From a softc of the profile `sc`, a run of reports with Contact Count `0` and foreign
reports counts `P` contacts off per matching report and syncs on each matching report that
leaves none. -/
theorem imtIntrRun_zeros (sc : ImtSoftc) (rs : List Report)
    (hz : ∀ r ∈ rs, r.id = sc.reportId → reportCount E sc r.buf r.len = 0) (s : ImtSoftc)
    (hs : SameProfile sc s) (log : List EvdevEvent) :
    (imtIntrRun E slotOf s log rs).1.ncontsTodo.toNat =
        s.ncontsTodo.toNat - rs.countP (fun r => r.id = sc.reportId) * sc.ncontsPerReport.toNat ∧
      (runContacts E slotOf s log rs).length =
        min s.ncontsTodo.toNat (rs.countP (fun r => r.id = sc.reportId) * sc.ncontsPerReport.toNat) ∧
      (imtIntrRun E slotOf s log rs).2.count .sync =
        log.count .sync + (List.range (rs.countP fun r => r.id = sc.reportId)).countP
          fun j => decide (s.ncontsTodo.toNat ≤ (j + 1) * sc.ncontsPerReport.toNat) := by
  induction rs generalizing s log with
  | nil => simp [imtIntrRun, runContacts]
  | cons r rs ih =>
    obtain ⟨h1, h2, h3⟩ := ih (fun r' hr' => hz r' (List.mem_cons_of_mem _ hr'))
      (imtIntr E slotOf s log r.buf r.len r.id).1 (hs.imtIntr E slotOf log r.buf r.len r.id)
      (imtIntr E slotOf s log r.buf r.len r.id).2.1
    by_cases hr : r.id = sc.reportId
    · -- a matching report: `P` contacts off
      have hid : s.reportId = r.id := hs.reportId.trans hr.symm
      have h0 : reportCount E s r.buf r.len = 0 := by
        rw [hs.reportCount]; exact hz r (List.mem_cons_self _ _) hr
      obtain ⟨htodo, hks, hsync⟩ := imtIntr_call E slotOf s log r.buf r.len
      rw [hid] at htodo hsync
      simp only [ncontsTodoOf, h0, ne_eq, not_true_eq_false, if_false, hs.ncontsPerReport]
        at htodo hks
      simp only [List.countP_cons, hr, decide_True, if_true]
      exact imtIntrRun_cons_call E slotOf hid rs log htodo hks hsync h1 h2 h3
    · -- a foreign report: nothing
      have hne : ¬s.reportId = r.id := fun h => hr (h.symm.trans hs.reportId)
      have hf := imtIntr_foreign E slotOf hne log r.buf r.len
      rw [hf] at h1 h2 h3
      simp only [imtIntrRun, runContacts, List.countP_cons, hr, hne, decide_False, if_false, hf,
        Nat.add_zero, List.nil_append]
      exact ⟨h1, h2, h3⟩

/-- `imt_intr` over runs. A report of another id changes nothing. A call of the pinned id
restarts the counter at the Contact Count when it is nonzero (`n'`), visits `min n' P` contacts,
stores `n' - min n' P` and syncs exactly when that is `0`. A report with Contact Count `C ≠ 0`
followed by reports with Contact Count `0` and foreign ones leaves, after `J` matching reports,
the counter at `C - J * P`, has visited `min C (J * P)` contacts, and has synced on the `j`-th
matching report exactly when `C ≤ j * P`. -/
theorem imtIntr_counter :
    (∀ (sc : ImtSoftc) (log : List EvdevEvent) (buf : Buf) (len id : Nat), sc.reportId ≠ id →
      imtIntr E slotOf sc log buf len id = (sc, log, buf, [])) ∧
    (∀ (sc : ImtSoftc) (log : List EvdevEvent) (buf : Buf) (len : Nat),
      (imtIntr E slotOf sc log buf len sc.reportId).1.ncontsTodo.toNat =
          (ncontsTodoOf sc.ncontsTodo (reportCount E sc buf len)).toNat -
            min (ncontsTodoOf sc.ncontsTodo (reportCount E sc buf len)).toNat
              sc.ncontsPerReport.toNat ∧
        intrContacts E sc buf len =
          List.range (min (ncontsTodoOf sc.ncontsTodo (reportCount E sc buf len)).toNat
            sc.ncontsPerReport.toNat) ∧
        (imtIntr E slotOf sc log buf len sc.reportId).2.1.count .sync =
          log.count .sync + (if (imtIntr E slotOf sc log buf len sc.reportId).1.ncontsTodo = 0
            then 1 else 0)) ∧
    (∀ (sc : ImtSoftc) (log : List EvdevEvent) (r : Report) (rs : List Report),
      r.id = sc.reportId → reportCount E sc r.buf r.len ≠ 0 →
      (∀ r' ∈ rs, r'.id = sc.reportId → reportCount E sc r'.buf r'.len = 0) →
        (imtIntrRun E slotOf sc log (r :: rs)).1.ncontsTodo.toNat =
            (reportCount E sc r.buf r.len).toNat -
              (r :: rs).countP (fun r' => r'.id = sc.reportId) * sc.ncontsPerReport.toNat ∧
          (runContacts E slotOf sc log (r :: rs)).length =
            min (reportCount E sc r.buf r.len).toNat
              ((r :: rs).countP (fun r' => r'.id = sc.reportId) * sc.ncontsPerReport.toNat) ∧
          (imtIntrRun E slotOf sc log (r :: rs)).2.count .sync =
            log.count .sync + (List.range ((r :: rs).countP fun r' => r'.id = sc.reportId)).countP
              fun j => decide ((reportCount E sc r.buf r.len).toNat ≤ (j + 1) * sc.ncontsPerReport.toNat)) := by
  refine ⟨fun sc log buf len id h => imtIntr_foreign E slotOf h log buf len,
    imtIntr_call E slotOf, fun sc log r rs hr hC hz => ?_⟩
  -- the first report restarts the counter at its Contact Count
  have hid : sc.reportId = r.id := hr.symm
  obtain ⟨htodo, hks, hsync⟩ := imtIntr_call E slotOf sc log r.buf r.len
  rw [hid] at htodo hsync
  simp only [ncontsTodoOf, ne_eq, hC, not_false_eq_true, if_true] at htodo hks
  obtain ⟨h1, h2, h3⟩ := imtIntrRun_zeros E slotOf sc rs hz _
    ((SameProfile.refl sc).imtIntr E slotOf log r.buf r.len r.id)
    (imtIntr E slotOf sc log r.buf r.len r.id).2.1
  simp only [List.countP_cons, hr, decide_True, if_true]
  exact imtIntrRun_cons_call E slotOf hid rs log htodo hks hsync h1 h2 h3

end

/-- A profile with one contact per report, in report 1, whose Contact Count is the first byte. -/
def oneContactProfile : ImtSoftc :=
  { reportId := 1, isize := 8, contCountLoc := ⟨8, 1, 0⟩, ncontsPerReport := 1 }

/-- A report of id 1 whose Contact Count byte is `c`. -/
def countReport (c : Nat) : Report :=
  ⟨fun j => if j = 0 then BitVec.ofNat 8 c else 0, 8, 1⟩

/-- Counts `[3, 0, 0]` with one contact per report: three contacts, and a sync on the third
report only. -/
theorem imtIntr_counter_hybrid :
    (countReport 3).id = oneContactProfile.reportId ∧
      reportCount Hid.freeBSD oneContactProfile (countReport 3).buf (countReport 3).len ≠ 0 ∧
      (∀ r' ∈ [countReport 0, countReport 0], r'.id = oneContactProfile.reportId →
        reportCount Hid.freeBSD oneContactProfile r'.buf r'.len = 0) ∧
      ((imtIntrRun Hid.freeBSD (fun _ _ => 0) oneContactProfile []
          (countReport 3 :: [countReport 0, countReport 0])).1.ncontsTodo.toNat =
          (reportCount Hid.freeBSD oneContactProfile (countReport 3).buf (countReport 3).len).toNat -
            (countReport 3 :: [countReport 0, countReport 0]).countP
              (fun r' => r'.id = oneContactProfile.reportId) * oneContactProfile.ncontsPerReport.toNat ∧
        (runContacts Hid.freeBSD (fun _ _ => 0) oneContactProfile []
            (countReport 3 :: [countReport 0, countReport 0])).length =
          min (reportCount Hid.freeBSD oneContactProfile (countReport 3).buf (countReport 3).len).toNat
            ((countReport 3 :: [countReport 0, countReport 0]).countP
              (fun r' => r'.id = oneContactProfile.reportId) * oneContactProfile.ncontsPerReport.toNat) ∧
        (imtIntrRun Hid.freeBSD (fun _ _ => 0) oneContactProfile []
            (countReport 3 :: [countReport 0, countReport 0])).2.count .sync =
          ([] : List EvdevEvent).count .sync +
            (List.range ((countReport 3 :: [countReport 0, countReport 0]).countP
              fun r' => r'.id = oneContactProfile.reportId)).countP
              fun j => decide ((reportCount Hid.freeBSD oneContactProfile (countReport 3).buf
                (countReport 3).len).toNat ≤ (j + 1) * oneContactProfile.ncontsPerReport.toNat)) :=
  ⟨rfl, by decide, by decide,
    (imtIntr_counter Hid.freeBSD (fun _ _ => 0)).2.2 oneContactProfile [] (countReport 3)
      [countReport 0, countReport 0] rfl (by decide) (by decide)⟩

example :
    (imtIntrRun Hid.freeBSD (fun _ _ => 0) oneContactProfile []
        [countReport 3, countReport 0, countReport 0]).1.ncontsTodo = 0 ∧
      (runContacts Hid.freeBSD (fun _ _ => 0) oneContactProfile []
        [countReport 3, countReport 0, countReport 0]).length = 3 ∧
      (imtIntrRun Hid.freeBSD (fun _ _ => 0) oneContactProfile []
        [countReport 3, countReport 0]).2.count .sync = 0 := by
  decide

end Imt
