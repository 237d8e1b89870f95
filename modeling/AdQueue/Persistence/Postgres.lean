import AdQueue.Domain.Lifecycle

/-!
# The Postgres ad repository

`persistence.PostgresAdRepository` on the `ads` table, each method as one atomic statement
or transaction.  A table maps an `ad_id` to its row, and a row's own `ad_id` is its key
(`Table.keyed`).

`Save` is an upsert whose `ON CONFLICT` branch updates only when the stored `version` is one
less than the entity's.  Its column list leaves out `processing_started_at` and
`processed_at`, so the row it writes has both `NULL`; its `SET` list leaves out
`created_at`, which keeps the stored value.  `UpdatePriorityBatch` runs one `UPDATE` per
identifier in a transaction: a queued row takes the new priority and one more version.  The
table's `CHECK (priority BETWEEN 1 AND 5)` fails a statement that writes any other
priority, and the transaction is rolled back.  The JSON encoding of the target audience is
taken to round-trip.

`save_ok`, `findByID_ok` and `Table.Grows` say what the methods do to a row; the worker
model of `Worker.Processing` is built on them.  `findByID_save` is the round trip of `Save`
and `FindByID`: the entity comes back with the stored `created_at`, its duration in whole
seconds, and no timestamps.  So an ad that has left `queued`, which always holds a
`processingStartedAt`, loses it (`save_then_findByID_loses_start`).  A batch over distinct
identifiers with a valid priority commits and moves exactly the queued rows it lists
(`updatePriorityBatch_rows`).
-/

namespace AdQueue

namespace PostgresAdRepository

/-- `adRow`: a row of `ads` as the repository scans it.  `maxWaitTime` is seconds. -/
structure AdRow where
  adID : String
  title : String
  gameFamily : String
  targetAudience : List String
  priority : Int
  createdAt : Int
  maxWaitTime : Int
  status : String
  processingStartedAt : Option Int
  processedAt : Option Int
  version : Int
deriving DecidableEq, Repr

/-- The `ads` table: a row by `ad_id`, keyed by its own `ad_id`. -/
structure Table where
  rows : String → Option AdRow
  keyed : ∀ k row, rows k = some row → row.adID = k

/-- The table with no row. -/
def Table.empty : Table := ⟨fun _ => none, fun _ _ h => by cases h⟩

/-- A row written at its own key. -/
def Table.set (t : Table) (row : AdRow) : Table where
  rows := Function.update t.rows row.adID (some row)
  keyed k row' h := by
    by_cases hk : k = row.adID
    · subst hk; simp at h; exact h ▸ rfl
    · rw [Function.update_noteq hk] at h; exact t.keyed k row' h

@[simp] theorem Table.set_rows_self (t : Table) (row : AdRow) :
    (t.set row).rows row.adID = some row := by simp [Table.set]

theorem Table.set_rows_other (t : Table) (row : AdRow) {k : String} (hk : k ≠ row.adID) :
    (t.set row).rows k = t.rows k := by simp [Table.set, hk]

/-- The row `Save` writes for an entity: no timestamps, the duration in whole seconds. -/
def rowOf (a : Ad) : AdRow where
  adID := a.id.value
  title := a.title
  gameFamily := a.gameFamily
  targetAudience := a.targetAudience
  priority := a.priority
  createdAt := a.createdAt
  maxWaitTime := a.maxWaitTime.tdiv 1000000000
  status := a.status.value
  processingStartedAt := none
  processedAt := none
  version := a.version

/-- `adRow.toAdEntity`: the identifier must parse; the rest goes to `ReconstructAd`. -/
def AdRow.toAdEntity (r : AdRow) : Except String Ad :=
  match parseAdID r.adID with
  | none => .error "invalid UUID format"
  | some id =>
    .ok (Factory.reconstructAd id r.title r.gameFamily r.targetAudience r.priority
      (r.maxWaitTime * 1000000000) ⟨r.status⟩ r.createdAt r.processingStartedAt r.processedAt
      r.version)

/-- `Save`: insert, or update from the version just before the entity's. -/
def save (t : Table) (a : Ad) : Except AdError Table :=
  match t.rows a.id.value with
  | none => .ok (t.set (rowOf a))
  | some old =>
    if old.version = a.version - 1 then .ok (t.set { rowOf a with createdAt := old.createdAt })
    else .error .optimisticLockFailed

/-- `FindByID`. -/
def findByID (t : Table) (id : AdID) : Except String Ad :=
  match t.rows id.value with
  | none => .error AdError.adNotFound.message
  | some row => row.toAdEntity

/-- One statement of `UpdatePriorityBatch`:
`UPDATE ads SET priority = $1, version = version + 1 WHERE ad_id = $2 AND status = 'queued'`. -/
def updateQueuedPriority (t : Table) (newPriority : Int) (id : AdID) : Except String Table :=
  match t.rows id.value with
  | none => .ok t
  | some row =>
    if row.status = "queued" then
      if Priority.isValid newPriority then
        .ok (t.set { row with priority := newPriority, version := row.version + 1 })
      else .error ("failed to update ad priority: pq: new row for relation \"ads\" violates " ++
        "check constraint \"ads_priority_check\"")
    else .ok t

/-- `UpdatePriorityBatch`: the statements in one transaction, nothing for no identifier. -/
def updatePriorityBatch (t : Table) (ids : List AdID) (newPriority : Int) : Except String Table :=
  if ids.isEmpty then .ok t else ids.foldlM (fun t id => updateQueuedPriority t newPriority id) t

/-- `UpdateStatus`:
`UPDATE ads SET status = $1, version = version + 1 WHERE ad_id = $2 AND version = $3`, and no
row updated is `ErrOptimisticLockFailed`.  The `status` column is `VARCHAR(20)`. -/
def updateStatus (t : Table) (id : AdID) (status : AdStatus) (version : Int) :
    Except String Table :=
  match t.rows id.value with
  | some row =>
    if row.version = version then
      if status.value.length ≤ 20 then
        .ok (t.set { row with status := status.value, version := row.version + 1 })
      else .error "failed to update ad status: pq: value too long for type character varying(20)"
    else .error AdError.optimisticLockFailed.message
  | none => .error AdError.optimisticLockFailed.message

/-! ## What the methods do to a row -/

/-- A successful `Save` writes the entity's row at its identifier and nothing else, on an
absent row or on the row of the version before. -/
theorem save_ok {t t' : Table} {a : Ad} (h : save t a = .ok t') :
    (∀ k, k ≠ a.id.value → t'.rows k = t.rows k) ∧
      ((t.rows a.id.value = none ∧ t'.rows a.id.value = some (rowOf a)) ∨
        ∃ old, t.rows a.id.value = some old ∧ old.version = a.version - 1 ∧
          t'.rows a.id.value = some { rowOf a with createdAt := old.createdAt }) := by
  unfold save at h
  split at h
  · rename_i hnone
    cases h
    exact ⟨fun k hk => Table.set_rows_other _ _ hk, .inl ⟨hnone, Table.set_rows_self _ _⟩⟩
  · rename_i old hold
    split_ifs at h with hv
    cases h
    exact ⟨fun k hk => Table.set_rows_other _ _ hk,
      .inr ⟨old, hold, hv, Table.set_rows_self t { rowOf a with createdAt := old.createdAt }⟩⟩

/-- A successful `Save` over a stored row: the row was at the version before, and the
entity's row replaces it, keeping `created_at`. -/
theorem save_ok_of_row {t t' : Table} {a : Ad} {old : AdRow} (h : save t a = .ok t')
    (hold : t.rows a.id.value = some old) :
    old.version = a.version - 1 ∧
      t'.rows a.id.value = some { rowOf a with createdAt := old.createdAt } ∧
      ∀ k, k ≠ a.id.value → t'.rows k = t.rows k := by
  obtain ⟨hother, ⟨hnone, -⟩ | ⟨old', hold', hv, hrow⟩⟩ := save_ok h
  · rw [hold] at hnone; cases hnone
  · obtain rfl := Option.some.inj (hold.symm.trans hold')
    exact ⟨hv, hrow, hother⟩

/-- `Save` fails only on a stored row whose version is not the one before the entity's. -/
theorem save_error {t : Table} {a : Ad} {e : AdError} (h : save t a = .error e) :
    ∃ old, t.rows a.id.value = some old ∧ old.version ≠ a.version - 1 := by
  unfold save at h
  split at h
  · cases h
  · rename_i old hold
    split_ifs at h with hv
    exact ⟨old, hold, hv⟩

/-- What `FindByID` reads back: the entity of the row at the identifier. -/
theorem findByID_ok {t : Table} {id : AdID} {a : Ad} (h : findByID t id = .ok a) :
    ∃ row, t.rows id.value = some row ∧ a.id = id ∧ a.status = ⟨row.status⟩ ∧
      a.version = row.version := by
  unfold findByID at h
  split at h
  · cases h
  · rename_i row hrow
    have hkey := t.keyed _ _ hrow
    unfold AdRow.toAdEntity at h
    split at h
    · cases h
    · rename_i id' hid
      cases h
      refine ⟨row, hrow, ?_, rfl, rfl⟩
      rw [eq_of_parseAdID hid, hkey]
      rfl

/-- What `FindByID` reads back after a successful `Save` of an entity whose identifier
parses: the entity, with the stored `created_at`, the duration cut to whole seconds, and
neither timestamp nor a queue position. -/
theorem findByID_save {t t' : Table} {a : Ad} (hs : save t a = .ok t')
    (hid : uuidParses a.id.value = true) :
    ∃ c, findByID t' a.id = .ok
      { a with createdAt := c, maxWaitTime := a.maxWaitTime.tdiv 1000000000 * 1000000000,
               processingStartedAt := none, processedAt := none, queuePosition := none } := by
  obtain ⟨-, ⟨-, hrow⟩ | ⟨old, -, -, hrow⟩⟩ := save_ok hs
  · refine ⟨a.createdAt, ?_⟩
    rw [findByID, hrow]
    simp only [AdRow.toAdEntity, rowOf, parseAdID_eq_some hid]
    rfl
  · refine ⟨old.createdAt, ?_⟩
    rw [findByID, hrow]
    simp only [AdRow.toAdEntity, rowOf, parseAdID_eq_some hid]
    rfl

/-- Every ad of every run from the factory, with an identifier `ParseAdID` accepts, that
has left `queued`: it holds a `processingStartedAt`, and after a successful `Save`,
`FindByID` reads it back without one. -/
theorem save_then_findByID_loses_start {id : AdID} {now : Int} {title gameFamily : String}
    {targetAudience : List String} {priority : Int} {maxWaitTime : Int} {a : Ad}
    (h : Factory.createAd id now title gameFamily targetAudience priority maxWaitTime = .ok a)
    (hid : uuidParses id.value = true) (cs : List AdCall) {s : Ad}
    (hs : s ∈ a :: afterEach a cs) (hst : s.status ≠ .queued) {t t' : Table}
    (hsave : save t s = .ok t') :
    s.processingStartedAt.isSome = true ∧
      ∃ b, findByID t' s.id = .ok b ∧ b.processingStartedAt = none := by
  have hsid : s.id = id := (id_afterEach a cs s hs).trans (Factory.createAd_id h)
  obtain ⟨c, hfind⟩ := findByID_save hsave (by rw [hsid]; exact hid)
  exact ⟨(timestampsAgree_run h cs s hs).1.mpr hst, _, hfind, rfl⟩

/-- A fresh ad, started, saved into an empty table and read back. -/
theorem save_then_findByID_loses_start_at_sample :
    ∃ a, Factory.createAd ⟨"123e4567-e89b-12d3-a456-426614174000"⟩ 0 "Summer sale" "RPG"
        ["all"] 3 300000000000 = .ok a ∧
      let s := stepAd a (.startProcessing 1)
      s.processingStartedAt.isSome = true ∧
        ∃ b, findByID (Table.empty.set (rowOf s)) s.id = .ok b ∧ b.processingStartedAt = none := by
  have h : Factory.createAd ⟨"123e4567-e89b-12d3-a456-426614174000"⟩ 0 "Summer sale" "RPG"
      ["all"] 3 300000000000 = .ok _ := rfl
  exact ⟨_, h, save_then_findByID_loses_start h (by decide) [.startProcessing 1]
    (List.mem_cons_of_mem _ (List.mem_singleton_self _)) (by decide) (t := Table.empty) rfl⟩

/-- A table grows from `t` to `t'`: each row stays, or is a queued row that keeps its status
and identifier and reaches a greater version. -/
def Table.Grows (t t' : Table) : Prop :=
  ∀ k, t'.rows k = t.rows k ∨ ∃ row row', t.rows k = some row ∧ t'.rows k = some row' ∧
    row.status = "queued" ∧ row'.status = row.status ∧ row.version < row'.version

theorem Table.Grows.refl (t : Table) : t.Grows t := fun _ => .inl rfl

theorem Table.Grows.trans {t t' t'' : Table} (h : t.Grows t') (h' : t'.Grows t'') : t.Grows t'' := by
  intro k
  rcases h k with hk | ⟨row, row', hr, hr', hq, hs, hv⟩
  · rcases h' k with hk' | ⟨row₁, row₂, hr₁, hr₂, hq₁, hs₁, hv₁⟩
    · exact .inl (hk'.trans hk)
    · exact .inr ⟨row₁, row₂, hk ▸ hr₁, hr₂, hq₁, hs₁, hv₁⟩
  · rcases h' k with hk' | ⟨row₁, row₂, hr₁, hr₂, hq₁, hs₁, hv₁⟩
    · exact .inr ⟨row, row', hr, hk'.trans hr', hq, hs, hv⟩
    · obtain rfl : row₁ = row' := Option.some.inj (hr₁.symm.trans hr')
      exact .inr ⟨row, row₂, hr, hr₂, hq, hs₁.trans hs, Int.lt_trans hv hv₁⟩

theorem updateQueuedPriority_grows {t t' : Table} {q : Int} {id : AdID}
    (h : updateQueuedPriority t q id = .ok t') : t.Grows t' := by
  unfold updateQueuedPriority at h
  split at h
  · cases h; exact .refl t
  · rename_i row hrow
    split_ifs at h with hq hv
    · cases h
      have hkey := t.keyed _ _ hrow
      intro k
      by_cases hk : k = row.adID
      · subst hk
        exact .inr ⟨row, { row with priority := q, version := row.version + 1 },
          by rw [hkey]; exact hrow, Table.set_rows_self _ _, hq, rfl, Int.lt_succ _⟩
      · exact .inl (Table.set_rows_other _ _ hk)
    · cases h; exact .refl t

theorem foldlM_updateQueuedPriority_grows {q : Int} : ∀ {ids : List AdID} {t t' : Table},
    ids.foldlM (fun t id => updateQueuedPriority t q id) t = .ok t' → t.Grows t'
  | [], t, _, h => by cases h; exact .refl t
  | id :: ids, t, _, h => by
    rw [List.foldlM_cons] at h
    cases hs : updateQueuedPriority t q id with
    | error e => rw [hs] at h; cases h
    | ok t₁ =>
      rw [hs] at h
      exact (updateQueuedPriority_grows hs).trans (foldlM_updateQueuedPriority_grows h)

/-- A committed `UpdatePriorityBatch` only raises the version of queued rows. -/
theorem updatePriorityBatch_grows {t t' : Table} {ids : List AdID} {q : Int}
    (h : updatePriorityBatch t ids q = .ok t') : t.Grows t' := by
  unfold updatePriorityBatch at h
  split_ifs at h
  · cases h; exact .refl t
  · exact foldlM_updateQueuedPriority_grows h

/-- What one statement of the batch does to a row: a queued row takes `q` and one more
version, any other row stays. -/
def bumpRow (q : Int) (row : AdRow) : AdRow :=
  if row.status = "queued" then { row with priority := q, version := row.version + 1 } else row

theorem updateQueuedPriority_rows {q : Int} (hq : 1 ≤ q ∧ q ≤ 5) (t : Table) (id : AdID) :
    ∃ t', updateQueuedPriority t q id = .ok t' ∧ ∀ k, t'.rows k =
      if k = id.value then (t.rows k).map (bumpRow q) else t.rows k := by
  have hv : Priority.isValid q = true := (Priority.isValid_iff q).mpr hq
  cases hrow : t.rows id.value with
  | none =>
    refine ⟨t, by simp [updateQueuedPriority, hrow], fun k => ?_⟩
    split_ifs with hk
    · rw [hk, hrow]; rfl
    · rfl
  | some row =>
    have hkey : row.adID = id.value := t.keyed _ _ hrow
    by_cases hs : row.status = "queued"
    · refine ⟨t.set { row with priority := q, version := row.version + 1 },
        by simp [updateQueuedPriority, hrow, hs, hv], fun k => ?_⟩
      split_ifs with hk
      · rw [hk, hrow, ← hkey]
        simp [bumpRow, hs]
      · exact Table.set_rows_other _ _ (by rw [hkey]; exact hk)
    · refine ⟨t, by simp [updateQueuedPriority, hrow, hs], fun k => ?_⟩
      split_ifs with hk
      · rw [hk, hrow]
        simp [bumpRow, hs]
      · rfl

theorem foldlM_updateQueuedPriority_rows {q : Int} (hq : 1 ≤ q ∧ q ≤ 5) :
    ∀ (ids : List AdID) (t : Table), (ids.map AdID.value).Nodup →
      ∃ t', ids.foldlM (fun t id => updateQueuedPriority t q id) t = .ok t' ∧ ∀ k,
        t'.rows k = if k ∈ ids.map AdID.value then (t.rows k).map (bumpRow q) else t.rows k
  | [], t, _ => ⟨t, rfl, fun k => by simp⟩
  | id :: ids, t, hnd => by
    rw [List.map_cons, List.nodup_cons] at hnd
    obtain ⟨t₁, h₁, hrows₁⟩ := updateQueuedPriority_rows hq t id
    obtain ⟨t', h', hrows'⟩ := foldlM_updateQueuedPriority_rows hq ids t₁ hnd.2
    refine ⟨t', by rw [List.foldlM_cons, h₁]; exact h', fun k => ?_⟩
    rw [hrows', hrows₁]
    by_cases hk : k = id.value
    · subst hk
      simp [hnd.1]
    · by_cases hks : k ∈ ids.map AdID.value <;> simp [hk, hks]

/-- `UpdatePriorityBatch` over distinct identifiers with a priority in `1 .. 5` commits,
and moves exactly the queued rows of the listed identifiers: listed rows in any other status
and unlisted rows stay. -/
theorem updatePriorityBatch_rows {t : Table} {ids : List AdID} {q : Int}
    (hnd : (ids.map AdID.value).Nodup) (hq : 1 ≤ q ∧ q ≤ 5) :
    ∃ t', updatePriorityBatch t ids q = .ok t' ∧ ∀ k,
      t'.rows k = if k ∈ ids.map AdID.value then (t.rows k).map (bumpRow q) else t.rows k := by
  unfold updatePriorityBatch
  split_ifs with he
  · exact ⟨t, rfl, fun k => by simp [List.isEmpty_iff.mp he]⟩
  · exact foldlM_updateQueuedPriority_rows hq ids t hnd

/-- A queued row and an identifier with no row, moved to priority `4`. -/
theorem updatePriorityBatch_rows_at_sample :
    let row : AdRow := ⟨"a", "Summer sale", "RPG", ["all"], 2, 0, 300000000000, "queued", none,
      none, 1⟩
    ∃ t', updatePriorityBatch (Table.empty.set row) [⟨"a"⟩, ⟨"b"⟩] 4 = .ok t' ∧ ∀ k,
      t'.rows k = if k ∈ ([⟨"a"⟩, ⟨"b"⟩] : List AdID).map AdID.value then
        ((Table.empty.set row).rows k).map (bumpRow 4) else (Table.empty.set row).rows k :=
  updatePriorityBatch_rows (by decide) (by decide)

/-- Each row of `t'` is the row of `t`, or a row of `t` at a greater version. -/
def Table.Bumps (t t' : Table) : Prop :=
  ∀ k, t'.rows k = t.rows k ∨ ∃ row row', t.rows k = some row ∧ t'.rows k = some row' ∧
    row.version < row'.version

theorem Table.Bumps.refl (t : Table) : t.Bumps t := fun _ => .inl rfl

theorem Table.Grows.bumps {t t' : Table} (h : t.Grows t') : t.Bumps t' := fun k =>
  (h k).imp_right fun ⟨row, row', hr, hr', _, _, hv⟩ => ⟨row, row', hr, hr', hv⟩

/-- A `Save` over a stored row raises its version by one and touches no other row. -/
theorem save_bumps {t t' : Table} {a : Ad} {old : AdRow} (h : save t a = .ok t')
    (hold : t.rows a.id.value = some old) : t.Bumps t' := by
  obtain ⟨hv, hnew, hother⟩ := save_ok_of_row h hold
  intro k
  by_cases hk : k = a.id.value
  · subst hk
    exact .inr ⟨old, _, hold, hnew, by simp [rowOf]; omega⟩
  · exact .inl (hother k hk)

end PostgresAdRepository

end AdQueue
