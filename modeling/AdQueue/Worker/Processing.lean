import AdQueue.Persistence.Postgres

/-!
# Workers processing one ad

`AdProcessor.processAd` of `cmd/migrate`, run by several workers on the same identifier (the
queue can hand an ad out twice), against the Postgres repository and interleaved with the
`UpdatePriorityBatch` transactions of bulk rewrites.  A worker reads the ad with `FindByID`
and starts it in memory, saves it, sleeps, completes it in memory and saves it again.  Each
read, each save and each transaction is one atomic step; while a worker sleeps its context
can be cancelled.

`Inv` ties what each worker holds to the stored row: an entity started from the row is at
most one version ahead of it, and not ahead at all once the row has left `queued`; a worker
whose first save landed has moved the row out of `queued`.  Then a second first save always
misses its version, so at most one worker's first save succeeds, and every step leaves each
row as it was or raises its version (`processAd_one_start_save`).

A cancellation ends a sleeping worker with `context canceled` and writes nothing: the
code calls neither `FailProcessing` nor `Save` on that path.  The row it saved stays
`processing`, and once no worker holds a claim or sleeps, no event moves it again
(`Stalled`): a read of it cannot start it, and a bulk rewrite only touches `queued` rows
(`processAd_cancel_leaves_processing`).
-/

namespace AdQueue

namespace AdProcessor

open PostgresAdRepository

/-- Where `processAd` returns an error, with the error it wraps. -/
inductive ProcessError where
  | findAd (err : String)
  | startProcessing (err : AdError)
  | saveStatus (err : AdError)
  | canceled
  | completeProcessing (err : AdError)
  | saveFinal (err : AdError)

/-- The text of each error `processAd` returns. -/
def ProcessError.message : ProcessError → String
  | .findAd e => "failed to find ad: " ++ e
  | .startProcessing e => "failed to start processing: " ++ e.message
  | .saveStatus e => "failed to save ad status: " ++ e.message
  | .canceled => "context canceled"
  | .completeProcessing e => "failed to complete processing: " ++ e.message
  | .saveFinal e => "failed to save final ad status: " ++ e.message

/-- A worker's `processAd` call. -/
inductive Worker where
  /-- Before `FindByID`. -/
  | idle
  /-- Started in memory, before the first `Save`. -/
  | claimed (a : Ad)
  /-- The first `Save` landed; sleeping. -/
  | running (a : Ad)
  /-- Returned. -/
  | finished (result : Except ProcessError Unit)

/-- The worker's first `Save` succeeded: it is past it, or returned from a later point. -/
def Worker.savedStart : Worker → Bool
  | .running _ => true
  | .finished (.ok ()) => true
  | .finished (.error .canceled) => true
  | .finished (.error (.completeProcessing _)) => true
  | .finished (.error (.saveFinal _)) => true
  | _ => false

/-- One step of a worker processing `adID`, at clock `now`. -/
def Worker.step (adID : AdID) (now : Int) (t : Table) : Worker → Worker × Table
  | .idle =>
    match findByID t adID with
    | .error e => (.finished (.error (.findAd e)), t)
    | .ok a =>
      match a.startProcessing now with
      | .error e => (.finished (.error (.startProcessing e)), t)
      | .ok a' => (.claimed a', t)
  | .claimed a =>
    match save t a with
    | .error e => (.finished (.error (.saveStatus e)), t)
    | .ok t' => (.running a, t')
  | .running a =>
    match a.completeProcessing now with
    | .error e => (.finished (.error (.completeProcessing e)), t)
    | .ok a' =>
      match save t a' with
      | .error e => (.finished (.error (.saveFinal e)), t)
      | .ok t' => (.finished (.ok ()), t')
  | .finished r => (.finished r, t)

/-- What happens next. -/
inductive Event where
  /-- Worker `j` takes its next step, reading the clock as `now`. -/
  | work (j : Nat) (now : Int)
  /-- The context of worker `j` is cancelled while it sleeps. -/
  | cancel (j : Nat)
  /-- A bulk rewrite commits `UpdatePriorityBatch ids q`; a failed one changes nothing. -/
  | bulk (ids : List AdID) (q : Int)

/-- The table and the workers. -/
structure State where
  table : Table
  workers : List Worker

/-- One event, with every worker processing `adID`. -/
def State.step (adID : AdID) (s : State) : Event → State
  | .work j now =>
    match s.workers[j]? with
    | none => s
    | some w => ⟨(w.step adID now s.table).2, s.workers.set j (w.step adID now s.table).1⟩
  | .cancel j =>
    match s.workers[j]? with
    | some (.running _) => ⟨s.table, s.workers.set j (.finished (.error .canceled))⟩
    | _ => s
  | .bulk ids q =>
    match updatePriorityBatch s.table ids q with
    | .ok t' => ⟨t', s.workers⟩
    | .error _ => s

/-- The events in order. -/
def State.run (adID : AdID) (s : State) (evs : List Event) : State := evs.foldl (State.step adID) s

/-! ## What each phase of a worker does -/

section
variable (adID : AdID) (now : Int) (t : Table)

/-- A read either ends the call, or starts from a queued row one version ahead of it. -/
theorem step_idle :
    (Worker.idle.step adID now t).2 = t ∧ (Worker.idle.step adID now t).1.savedStart = false ∧
      ∀ a, (Worker.idle.step adID now t).1 = .claimed a → a.id = adID ∧ a.status = .processing ∧
        ∃ row, t.rows adID.value = some row ∧ row.status = "queued" ∧
          a.version = row.version + 1 := by
  cases hf : findByID t adID with
  | error e => simp [Worker.step, hf, Worker.savedStart]
  | ok a =>
    obtain ⟨row, hrow, hid, hst, hv⟩ := findByID_ok hf
    cases hs : a.startProcessing now with
    | error e => simp [Worker.step, hf, hs, Worker.savedStart]
    | ok a' =>
      obtain ⟨hq, ha'⟩ := Ad.startProcessing_ok hs
      have hstep : Worker.idle.step adID now t = (.claimed a', t) := by simp [Worker.step, hf, hs]
      rw [hstep]
      refine ⟨rfl, rfl, fun b hb => ?_⟩
      cases hb
      rw [hst] at hq
      exact ⟨by rw [ha', hid], by rw [ha'], row, hrow, congrArg AdStatus.value hq, by
        rw [ha', hv]⟩

/-- The first save either fails and ends the call, or lands, as `save_ok` says. -/
theorem step_claimed (a : Ad) :
    (((Worker.claimed a).step adID now t).2 = t ∧
        ∃ e, ((Worker.claimed a).step adID now t).1 = .finished (.error (.saveStatus e))) ∨
      (((Worker.claimed a).step adID now t).1 = .running a ∧
        save t a = .ok ((Worker.claimed a).step adID now t).2) := by
  cases hs : save t a with
  | error e => exact .inl ⟨by simp [Worker.step, hs], e, by simp [Worker.step, hs]⟩
  | ok t₁ => exact .inr ⟨by simp [Worker.step, hs], by simp [Worker.step, hs]⟩

/-- The second save either fails, leaving the table, or lands the completed entity, one
version above the worker's. -/
theorem step_running (a : Ad) :
    (∃ r, ((Worker.running a).step adID now t).1 = .finished r) ∧
      ((Worker.running a).step adID now t).1.savedStart = true ∧
      (((Worker.running a).step adID now t).2 = t ∨
        ∃ a', a'.id = a.id ∧ a'.status = .completed ∧ a'.version = a.version + 1 ∧
          save t a' = .ok ((Worker.running a).step adID now t).2) := by
  cases hc : a.completeProcessing now with
  | error e => simp [Worker.step, hc, Worker.savedStart]
  | ok a' =>
    obtain ⟨-, ha'⟩ := Ad.completeProcessing_ok hc
    cases hs : save t a' with
    | error e => simp [Worker.step, hc, hs, Worker.savedStart]
    | ok t₁ =>
      simp only [Worker.step, hc, hs, Worker.savedStart, true_and]
      exact ⟨⟨_, rfl⟩, .inr ⟨a', by rw [ha'], by rw [ha'], by rw [ha'], hs⟩⟩

end

/-! ## The invariant -/

/-- The workers whose first save landed. -/
def startedCount (s : State) : Nat := s.workers.countP Worker.savedStart

/-- What a worker's phase says about the ad's stored row. -/
def WorkerOK (adID : AdID) (t : Table) : Worker → Prop
  | .claimed a => a.id = adID ∧ a.status = .processing ∧ ∃ row, t.rows adID.value = some row ∧
      a.version ≤ row.version + 1 ∧ (row.status ≠ "queued" → a.version ≤ row.version)
  | .running a => a.id = adID
  | _ => True

/-- The invariant of the workers on `adID`. -/
structure Inv (adID : AdID) (s : State) : Prop where
  atMostOne : startedCount s ≤ 1
  settled : ∀ w ∈ s.workers, w.savedStart = true →
    ∃ row, s.table.rows adID.value = some row ∧ row.status ≠ "queued"
  workers : ∀ w ∈ s.workers, WorkerOK adID s.table w

/-- The row of the ad moves on without touching what the workers rely on: no row appears,
the version does not go down, and `queued` stays `queued` and only `queued`. -/
def RowAdvances (adID : AdID) (t t' : Table) : Prop :=
  (t.rows adID.value = none → t'.rows adID.value = none) ∧
    ∀ old, t.rows adID.value = some old → ∃ new, t'.rows adID.value = some new ∧
      old.version ≤ new.version ∧ (old.status = "queued" ↔ new.status = "queued")

theorem WorkerOK.advance {adID : AdID} {t t' : Table} (ht : RowAdvances adID t t') :
    ∀ {w : Worker}, WorkerOK adID t w → WorkerOK adID t' w
  | .idle, _ => trivial
  | .claimed _, ⟨hid, hst, row, hrow, hle, hset⟩ => by
    obtain ⟨new, hnew, hv, hq⟩ := ht.2 row hrow
    exact ⟨hid, hst, new, hnew, by omega, fun h => by have := hset (mt hq.mp h); omega⟩
  | .running _, h => h
  | .finished _, _ => trivial

section
variable {adID : AdID} {s : State} {j : Nat} {w : Worker}

theorem startedCount_set (hj : s.workers[j]? = some w) (t : Table) (w' : Worker) :
    startedCount ⟨t, s.workers.set j w'⟩ =
      startedCount s - (if w.savedStart then 1 else 0) + (if w'.savedStart then 1 else 0) := by
  obtain ⟨hlt, rfl⟩ := List.getElem?_eq_some_iff.mp hj
  exact List.countP_set _ _ _ _ hlt

/-- A step of one worker that keeps its `savedStart` and moves the row along. -/
theorem Inv.set (hinv : Inv adID s) (hj : s.workers[j]? = some w) {t : Table} {w' : Worker}
    (ht : RowAdvances adID s.table t) (hs : w'.savedStart = w.savedStart)
    (hw' : WorkerOK adID t w') : Inv adID ⟨t, s.workers.set j w'⟩ := by
  refine ⟨by rw [startedCount_set hj, hs]; have := hinv.atMostOne; split <;> omega, ?_, ?_⟩
  · intro x hx hxs
    have hsaved : ∃ y ∈ s.workers, y.savedStart = true := by
      rcases List.mem_or_eq_of_mem_set hx with hx | rfl
      · exact ⟨x, hx, hxs⟩
      · exact ⟨w, List.getElem?_mem hj, hs ▸ hxs⟩
    obtain ⟨y, hy, hys⟩ := hsaved
    obtain ⟨row, hrow, hq⟩ := hinv.settled y hy hys
    obtain ⟨new, hnew, -, hiff⟩ := ht.2 row hrow
    exact ⟨new, hnew, mt hiff.mpr hq⟩
  · intro x hx
    rcases List.mem_or_eq_of_mem_set hx with hx | rfl
    · exact WorkerOK.advance ht (hinv.workers x hx)
    · exact hw'

theorem RowAdvances.refl (t : Table) : RowAdvances adID t t :=
  ⟨fun h => h, fun old h => ⟨old, h, Int.le_refl _, Iff.rfl⟩⟩

/-- A worker's read keeps the invariant and the table. -/
theorem Inv.work_idle (hinv : Inv adID s) (hj : s.workers[j]? = some .idle) (now : Int) :
    Inv adID (s.step adID (.work j now)) ∧ s.table.Bumps (s.step adID (.work j now)).table := by
  simp only [State.step, hj]
  obtain ⟨ht, hs, hcl⟩ := step_idle adID now s.table
  rw [ht]
  refine ⟨hinv.set hj (.refl _) hs ?_, .refl _⟩
  cases hw : (Worker.idle.step adID now s.table).1 with
  | claimed a =>
    obtain ⟨hid, hst, row, hrow, hq, hv⟩ := hcl a hw
    exact ⟨hid, hst, row, hrow, by omega, fun h => absurd hq h⟩
  | running a => simp [hw, Worker.savedStart] at hs
  | idle | finished _ => trivial

/-- A bulk transaction, or any change of the table that moves the row along, keeps the
invariant. -/
theorem Inv.retable (hinv : Inv adID s) {t : Table} (ht : RowAdvances adID s.table t) :
    Inv adID ⟨t, s.workers⟩ := by
  refine ⟨hinv.atMostOne, fun x hx hxs => ?_, fun x hx => WorkerOK.advance ht (hinv.workers x hx)⟩
  obtain ⟨row, hrow, hq⟩ := hinv.settled x hx hxs
  obtain ⟨new, hnew, -, hiff⟩ := ht.2 row hrow
  exact ⟨new, hnew, mt hiff.mpr hq⟩

theorem RowAdvances.of_grows {t t' : Table} (h : t.Grows t') : RowAdvances adID t t' := by
  refine ⟨fun hnone => ?_, fun old hold => ?_⟩
  · rcases h adID.value with hk | ⟨row, -, hrow, -⟩
    · rw [hk, hnone]
    · rw [hnone] at hrow; cases hrow
  · rcases h adID.value with hk | ⟨row, row', hrow, hrow', hq, hs, hv⟩
    · exact ⟨old, hk ▸ hold, Int.le_refl _, Iff.rfl⟩
    · obtain rfl := Option.some.inj (hold.symm.trans hrow)
      exact ⟨row', hrow', Int.le_of_lt hv, by rw [hs]⟩

/-- The first save of a claimed worker: it lands only while no first save has landed, and
then it is the one. -/
theorem Inv.work_claimed (hinv : Inv adID s) {a : Ad} (hj : s.workers[j]? = some (.claimed a))
    (now : Int) :
    Inv adID (s.step adID (.work j now)) ∧ s.table.Bumps (s.step adID (.work j now)).table := by
  simp only [State.step, hj]
  obtain ⟨hid, hst, row, hrow, hle, hset⟩ := hinv.workers _ (List.getElem?_mem hj)
  rcases step_claimed adID now s.table a with ⟨ht, e, hw⟩ | ⟨hw, hs⟩
  · rw [ht, hw]
    exact ⟨hinv.set hj (.refl _) rfl trivial, .refl _⟩
  · rw [← hid] at hrow
    have hbumps := save_bumps hs hrow
    obtain ⟨hv, hnew, -⟩ := save_ok_of_row hs hrow
    rw [hid] at hrow hnew
    have hnone : ∀ y ∈ s.workers, y.savedStart = false := fun y hy => by
      by_contra hys
      obtain ⟨row', hrow', hq⟩ := hinv.settled y hy (by simpa using hys)
      obtain rfl := Option.some.inj (hrow.symm.trans hrow')
      have := hset hq
      omega
    have hzero : startedCount s = 0 := List.countP_eq_zero.mpr fun y hy => by simp [hnone y hy]
    rw [hw]
    refine ⟨⟨by rw [startedCount_set hj, hzero]; simp [Worker.savedStart], ?_, ?_⟩, hbumps⟩
    · intro _ _ _
      exact ⟨_, hnew, by simp [rowOf, hst, AdStatus.processing]⟩
    · intro x hx
      rcases List.mem_or_eq_of_mem_set hx with hx | rfl
      · cases x with
        | claimed b =>
          obtain ⟨hbid, hbst, row', hrow', hble, -⟩ := hinv.workers _ hx
          obtain rfl := Option.some.inj (hrow.symm.trans hrow')
          exact ⟨hbid, hbst, _, hnew, by simp [rowOf]; omega, fun _ => by simp [rowOf]; omega⟩
        | running b => exact hinv.workers _ hx
        | idle | finished _ => trivial
      · exact hid

/-- The second save of a running worker moves a row that has left `queued` one version on. -/
theorem Inv.work_running (hinv : Inv adID s) {a : Ad} (hj : s.workers[j]? = some (.running a))
    (now : Int) :
    Inv adID (s.step adID (.work j now)) ∧ s.table.Bumps (s.step adID (.work j now)).table := by
  simp only [State.step, hj]
  have hid : a.id = adID := hinv.workers _ (List.getElem?_mem hj)
  obtain ⟨row, hrow, hq⟩ := hinv.settled _ (List.getElem?_mem hj) rfl
  obtain ⟨⟨r, hw⟩, hs, ht⟩ := step_running adID now s.table a
  have hworker : WorkerOK adID ((Worker.running a).step adID now s.table).2
      ((Worker.running a).step adID now s.table).1 := by rw [hw]; trivial
  rcases ht with ht | ⟨a', hid', hst', hv', hsave⟩
  · rw [ht] at hworker ⊢
    exact ⟨hinv.set hj (.refl _) hs hworker, .refl _⟩
  · rw [← hid, ← hid'] at hrow
    obtain ⟨hv, hnew, -⟩ := save_ok_of_row hsave hrow
    have hbumps := save_bumps hsave hrow
    rw [hid', hid] at hnew hrow
    refine ⟨hinv.set hj ⟨fun h => (by rw [hrow] at h; cases h), fun old hold => ?_⟩ hs hworker,
      hbumps⟩
    obtain rfl := Option.some.inj (hrow.symm.trans hold)
    refine ⟨_, hnew, by simp [rowOf]; omega, ?_⟩
    simp only [rowOf, hst']
    exact ⟨fun h => absurd h hq, fun h => absurd h (by decide)⟩

/-- A step of any worker keeps the invariant, and leaves each row or raises its version. -/
theorem Inv.work (hinv : Inv adID s) (j : Nat) (now : Int) :
    Inv adID (s.step adID (.work j now)) ∧ s.table.Bumps (s.step adID (.work j now)).table := by
  cases hj : s.workers[j]? with
  | none => simp only [State.step, hj]; exact ⟨hinv, .refl _⟩
  | some w =>
    cases w with
    | idle => exact hinv.work_idle hj now
    | claimed a => exact hinv.work_claimed hj now
    | running a => exact hinv.work_running hj now
    | finished r =>
      simp only [State.step, hj]
      exact ⟨hinv.set hj (.refl _) rfl trivial, .refl _⟩

/-- A cancellation ends a sleeping worker, which keeps its landed first save. -/
theorem Inv.cancel (hinv : Inv adID s) (j : Nat) :
    Inv adID (s.step adID (.cancel j)) ∧ s.table.Bumps (s.step adID (.cancel j)).table := by
  cases hj : s.workers[j]? with
  | none => simp only [State.step, hj]; exact ⟨hinv, .refl _⟩
  | some w =>
    cases w with
    | running a =>
      simp only [State.step, hj]
      exact ⟨hinv.set hj (.refl _) rfl trivial, .refl _⟩
    | idle | claimed _ | finished _ => simp only [State.step, hj]; exact ⟨hinv, .refl _⟩

/-- A bulk transaction only moves queued rows, so it keeps the invariant. -/
theorem Inv.bulk (hinv : Inv adID s) (ids : List AdID) (q : Int) :
    Inv adID (s.step adID (.bulk ids q)) ∧ s.table.Bumps (s.step adID (.bulk ids q)).table := by
  cases hb : updatePriorityBatch s.table ids q with
  | error _ => simp only [State.step, hb]; exact ⟨hinv, .refl _⟩
  | ok t' =>
    simp only [State.step, hb]
    exact ⟨hinv.retable (.of_grows (updatePriorityBatch_grows hb)),
      (updatePriorityBatch_grows hb).bumps⟩

/-- Every event keeps the invariant, and leaves each row as it was or raises its version. -/
theorem Inv.step (hinv : Inv adID s) :
    ∀ e, Inv adID (s.step adID e) ∧ s.table.Bumps (s.step adID e).table
  | .work j now => hinv.work j now
  | .cancel j => hinv.cancel j
  | .bulk ids q => hinv.bulk ids q

end

/-- Workers that have not started, on any table. -/
def State.init (t : Table) (m : Nat) : State := ⟨t, List.replicate m .idle⟩

theorem init_inv (adID : AdID) (t : Table) (m : Nat) : Inv adID (State.init t m) := by
  refine ⟨?_, fun w hw => ?_, fun w hw => ?_⟩
  · simp [startedCount, State.init, List.countP_replicate, Worker.savedStart]
  · rw [State.init, List.eq_of_mem_replicate hw]; simp [Worker.savedStart]
  · rw [State.init, List.eq_of_mem_replicate hw]; trivial

theorem Inv.run {adID : AdID} : ∀ (evs : List Event) {s : State}, Inv adID s → Inv adID (s.run adID evs)
  | [], _, h => h
  | e :: evs, _, h => Inv.run evs (h.step e).1

/-- However the workers on one ad and the bulk rewrites interleave, from any table: at
most one worker's first save lands, and every step leaves each row as it was or raises its
version. -/
theorem processAd_one_start_save (adID : AdID) (t : Table) (m : Nat) (evs : List Event)
    (e : Event) :
    let s := (State.init t m).run adID evs
    startedCount s ≤ 1 ∧ ∀ k, (s.step adID e).table.rows k = s.table.rows k ∨
      ∃ row row', s.table.rows k = some row ∧ (s.step adID e).table.rows k = some row' ∧
        row.version < row'.version :=
  have hinv := Inv.run evs (init_inv adID t m)
  ⟨hinv.atMostOne, (hinv.step e).2⟩

/-! ## A cancelled worker -/

section
variable {adID : AdID} {t : Table} {row : AdRow}

/-- A read of a queued row, whose identifier parses, claims the ad one version above the
row. -/
theorem step_idle_of_queued (now : Int) (hid : uuidParses adID.value = true)
    (hrow : t.rows adID.value = some row) (hq : row.status = "queued") :
    ∃ a, Worker.idle.step adID now t = (.claimed a, t) ∧ a.id = adID ∧
      a.status = .processing ∧ a.version = row.version + 1 := by
  obtain ⟨a₀, hf⟩ : ∃ a₀, findByID t adID = .ok a₀ :=
    ⟨_, by simp only [findByID, hrow, AdRow.toAdEntity, t.keyed _ _ hrow, parseAdID_eq_some hid]; rfl⟩
  obtain ⟨row', hrow', hid₀, hst, hv⟩ := findByID_ok hf
  obtain rfl := Option.some.inj (hrow.symm.trans hrow')
  have hstart : a₀.startProcessing now =
      .ok { a₀ with status := .processing, processingStartedAt := some now,
                    queuePosition := none, version := a₀.version + 1 } := by
    rw [Ad.startProcessing, Ad.transition, if_neg (by rw [hst, hq]; exact not_not.mpr rfl)]
  refine ⟨_, by simp only [Worker.step, hf, hstart]; rfl, ?_, ?_, ?_⟩
  · exact hid₀
  · rfl
  · rw [hv]

/-- A read of a row that has left `queued` ends the call and leaves the table. -/
theorem step_idle_of_not_queued (now : Int) (hrow : t.rows adID.value = some row)
    (hq : row.status ≠ "queued") : ∃ r, Worker.idle.step adID now t = (.finished r, t) := by
  cases hf : findByID t adID with
  | error e => exact ⟨.error (.findAd e), by simp only [Worker.step, hf]⟩
  | ok a =>
    obtain ⟨row', hrow', -, hst, -⟩ := findByID_ok hf
    obtain rfl := Option.some.inj (hrow.symm.trans hrow')
    cases hs : a.startProcessing now with
    | error e => exact ⟨.error (.startProcessing e), by simp only [Worker.step, hf, hs]⟩
    | ok a' => exact absurd (congrArg AdStatus.value (hst.symm.trans (Ad.startProcessing_ok hs).1)) hq

end

/-- The row of the ad is `row`, which is `processing`, and no worker holds a claim or
sleeps. -/
def Stalled (adID : AdID) (row : AdRow) (s : State) : Prop :=
  s.table.rows adID.value = some row ∧ row.status = "processing" ∧
    ∀ w ∈ s.workers, w = .idle ∨ ∃ r, w = .finished r

/-- No event moves a stalled row: a read of it fails, no worker sleeps to be cancelled, and
a bulk rewrite skips a row that is not `queued`. -/
theorem Stalled.step {adID : AdID} {row : AdRow} {s : State} (h : Stalled adID row s) :
    ∀ e, Stalled adID row (s.step adID e)
  | .work j now => by
    obtain ⟨hrow, hp, hw⟩ := h
    have hset : ∀ w', (∃ r, w' = .finished r) →
        ∀ x ∈ s.workers.set j w', x = .idle ∨ ∃ r, x = .finished r := fun w' hw' x hx =>
      (List.mem_or_eq_of_mem_set hx).elim (hw x) fun hx => .inr (hx ▸ hw')
    cases hj : s.workers[j]? with
    | none => simp only [State.step, hj]; exact ⟨hrow, hp, hw⟩
    | some w =>
      rcases hw w (List.getElem?_mem hj) with rfl | ⟨r, rfl⟩
      · obtain ⟨r, hstep⟩ := step_idle_of_not_queued now hrow (by rw [hp]; decide)
        simp only [State.step, hj, hstep]
        exact ⟨hrow, hp, hset _ ⟨r, rfl⟩⟩
      · simp only [State.step, hj, Worker.step]
        exact ⟨hrow, hp, hset _ ⟨r, rfl⟩⟩
  | .cancel j => by
    cases hj : s.workers[j]? with
    | none => simp only [State.step, hj]; exact h
    | some w =>
      rcases h.2.2 w (List.getElem?_mem hj) with rfl | ⟨r, rfl⟩ <;>
        simp only [State.step, hj] <;> exact h
  | .bulk ids q => by
    cases hb : updatePriorityBatch s.table ids q with
    | error _ => simp only [State.step, hb]; exact h
    | ok t' =>
      simp only [State.step, hb]
      obtain ⟨hrow, hp, hw⟩ := h
      refine ⟨?_, hp, hw⟩
      rcases updatePriorityBatch_grows hb adID.value with hk | ⟨row₁, -, hrow₁, -, hq, -⟩
      · exact hk.trans hrow
      · obtain rfl := Option.some.inj (hrow₁.symm.trans hrow)
        exact absurd (hp.symm.trans hq) (by decide)

theorem Stalled.run {adID : AdID} {row : AdRow} :
    ∀ (evs : List Event) {s : State}, Stalled adID row s → Stalled adID row (s.run adID evs)
  | [], _, h => h
  | e :: evs, _, h => Stalled.run evs (h.step e)

/-- A worker that reads a queued row, lands its first save and is cancelled while it
sleeps returns `context canceled` and leaves the row `processing`; whatever the workers and
the bulk rewrites do after that, the row stays `processing`. -/
theorem processAd_cancel_leaves_processing (adID : AdID) (hid : uuidParses adID.value = true)
    (t : Table) (row : AdRow) (hrow : t.rows adID.value = some row) (hq : row.status = "queued")
    (m : Nat) (now₁ now₂ : Int) (evs : List Event) :
    let s := (State.init t (m + 1)).run adID [.work 0 now₁, .work 0 now₂, .cancel 0]
    s.workers[0]? = some (.finished (.error .canceled)) ∧
      ∃ row', (s.run adID evs).table.rows adID.value = some row' ∧
        row'.status = "processing" := by
  obtain ⟨a, hstep, hida, hsta, hva⟩ := step_idle_of_queued now₁ hid hrow hq
  set row₁ : AdRow := { rowOf a with createdAt := row.createdAt }
  have hsave : save t a = .ok (t.set row₁) := by
    simp only [save, hida, hrow, hva, add_sub_cancel_right, if_true, row₁]
  have h₁ : (State.init t (m + 1)).step adID (.work 0 now₁) =
      ⟨t, .claimed a :: List.replicate m .idle⟩ := by
    simp only [State.step, State.init, List.replicate_succ, List.getElem?_cons_zero, hstep,
      List.set_cons_zero]
  have h₂ : State.step adID ⟨t, .claimed a :: List.replicate m .idle⟩ (.work 0 now₂) =
      ⟨t.set row₁, .running a :: List.replicate m .idle⟩ := by
    simp only [State.step, List.getElem?_cons_zero, List.set_cons_zero, Worker.step, hsave]
  have h₃ : State.step adID ⟨t.set row₁, .running a :: List.replicate m .idle⟩ (.cancel 0) =
      ⟨t.set row₁, .finished (.error .canceled) :: List.replicate m .idle⟩ := by
    simp only [State.step, List.getElem?_cons_zero, List.set_cons_zero]
  have hrun : (State.init t (m + 1)).run adID [.work 0 now₁, .work 0 now₂, .cancel 0] =
      ⟨t.set row₁, .finished (.error .canceled) :: List.replicate m .idle⟩ := by
    rw [State.run, List.foldl_cons, h₁, List.foldl_cons, h₂, List.foldl_cons, h₃, List.foldl_nil]
  have hstalled : Stalled adID row₁
      ⟨t.set row₁, .finished (.error .canceled) :: List.replicate m .idle⟩ := by
    refine ⟨by rw [← hida]; exact Table.set_rows_self _ _, by simp [row₁, rowOf, hsta,
      AdStatus.processing], fun w hw => ?_⟩
    rcases List.mem_cons.mp hw with rfl | hw
    · exact .inr ⟨_, rfl⟩
    · exact .inl (List.eq_of_mem_replicate hw)
  simp only [hrun]
  obtain ⟨hrow', hp', -⟩ := hstalled.run evs
  exact ⟨List.getElem?_cons_zero, _, hrow', hp'⟩

/-- Two workers on a queued row: the first is cancelled while it sleeps, then the second
reads the row and a bulk rewrite names the ad. -/
theorem processAd_cancel_leaves_processing_at_sample :
    let row : AdRow := ⟨"123e4567-e89b-12d3-a456-426614174000", "Summer sale", "RPG", ["all"],
      3, 0, 300, "queued", none, none, 1⟩
    let s := (State.init (Table.empty.set row) 2).run ⟨row.adID⟩ [.work 0 1, .work 0 2, .cancel 0]
    s.workers[0]? = some (.finished (.error .canceled)) ∧
      ∃ row', (s.run ⟨row.adID⟩ [.work 1 3, .bulk [⟨row.adID⟩] 5]).table.rows row.adID =
        some row' ∧ row'.status = "processing" :=
  processAd_cancel_leaves_processing _ (by decide) _ _ (Table.set_rows_self _ _) rfl 1 1 2 _

end AdProcessor

end AdQueue
