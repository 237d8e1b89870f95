import AdQueue.Persistence.Memory
import AdQueue.Queue.Manager

/-!
# The bulk priority rewrites of the ad service

`AdService.ChangePriorityForGameFamily` and `AdService.ChangePriorityForOlderAds`.  Both
check the priority, find the ads, keep the queued ones, change their priority in the store
with one `UpdatePriorityBatch`, then call `UpdatePriority` on the queue for each of them,
counting the calls that succeed.  They differ only in the find and its error text, so both
are `changePriorityOf` applied to their own find (`changePriorityForGameFamily`,
`changePriorityForOlderAds`).  The service reaches the store through the methods of
`ad.Repository` it uses (`AdRepository`); `MemoryAdRepository.repository` is the in-memory
store.  `ChangePriorityForOlderAds` selects the ads created before `time.Now().Add(-d)`,
with Go's wrapping negation of a duration.

`changePriorityOf_memory` says what a rewrite to a valid priority does on the in-memory
store: it succeeds; the selected queued ads, and only they, take the new priority and one
more version; the entry of each in its own shard keeps its age part under the new band;
every other entry stays, in whatever shard it lies; and the count is the number of selected
ads with an entry in their shard.  `Rewrote` collects these facts, and
`changePriority_rewrites_queued` gives them for both rewrites.  For the older ads this needs
a duration other than the least one, whose negation wraps back to itself and puts the
threshold at `now + d` (`changePriorityForOlderAds_least_duration`).
-/

namespace AdQueue

/-- What the bulk rewrites of `AdService` use of an `ad.Repository`. -/
structure AdRepository (R : Type) where
  findByGameFamily : R → String → Except String (List Ad)
  findOlderThan : R → Int → Except String (List Ad)
  updatePriorityBatch : R → List AdID → Int → Except String Unit × R

/-- `MemoryAdRepository` as an `ad.Repository`: its finds never fail. -/
def MemoryAdRepository.repository : AdRepository MemoryAdRepository where
  findByGameFamily r g := .ok (r.findByGameFamily g)
  findOlderThan r threshold := .ok (r.findOlderThan threshold)
  updatePriorityBatch r ids q := r.updatePriorityBatch ids q

namespace AdService

open RedisQueueManager

variable {R : Type}

/-- One turn of the queue loop: `UpdatePriority`, counted when it succeeds. -/
def queueStep (qm : RedisQueueManager) (newPriority : Int) (acc : Nat × Shards) (adID : AdID) :
    Nat × Shards :=
  let res := qm.updatePriority acc.2 adID newPriority
  (match res.1 with
    | .ok () => acc.1 + 1
    | .error _ => acc.1, res.2)

/-- The body of both rewrites, given what the find returned and the text of its error. -/
def changePriorityOf (repo : AdRepository R) (qm : RedisQueueManager) (store : R) (db : Shards)
    (found : Except String (List Ad)) (findError : String) (newPriority : Int) :
    Except String Nat × R × Shards :=
  if !Priority.isValid newPriority then
    (.error ("invalid priority: " ++ toString newPriority), store, db)
  else
    match found with
    | .error e => (.error (findError ++ e), store, db)
    | .ok ads =>
      let adIDs := (ads.filter fun a => a.status = .queued).map Ad.id
      if adIDs.isEmpty then (.ok 0, store, db)
      else
        match repo.updatePriorityBatch store adIDs newPriority with
        | (.error e, store') => (.error ("failed to update priorities: " ++ e), store', db)
        | (.ok (), store') =>
          let p := adIDs.foldl (queueStep qm newPriority) (0, db)
          (.ok p.1, store', p.2)

/-- `ChangePriorityForGameFamily`. -/
def changePriorityForGameFamily (repo : AdRepository R) (qm : RedisQueueManager) (store : R)
    (db : Shards) (gameFamily : String) (newPriority : Int) : Except String Nat × R × Shards :=
  changePriorityOf repo qm store db (repo.findByGameFamily store gameFamily)
    "failed to find ads by game family: " newPriority

/-- `ChangePriorityForOlderAds`, at clock `now`. -/
def changePriorityForOlderAds (repo : AdRepository R) (qm : RedisQueueManager) (store : R)
    (db : Shards) (now olderThan : Int) (newPriority : Int) : Except String Nat × R × Shards :=
  changePriorityOf repo qm store db (repo.findOlderThan store (now + negDuration olderThan))
    "failed to find old ads: " newPriority

/-! ## The queue loop -/

/-- What `UpdatePriority` does to each score: the member of the identifier, in its shard,
moves to the new band with its age part; everything else stays. -/
theorem zscore_updatePriority (qm : RedisQueueManager) (db : Shards) (adID : AdID) (q : Int)
    (i : Nat) (m : String) :
    ((qm.updatePriority db adID q).2 i).zscore m =
      if i = qm.getShardKey adID ∧ m = adID.value then
        ((db i).zscore m).map fun s => q * 10000000000 + timestampPart s
      else (db i).zscore m := by
  unfold updatePriority
  dsimp only
  cases hs : (db (qm.getShardKey adID)).zscore adID.value with
  | none =>
    split_ifs with h
    · obtain ⟨rfl, rfl⟩ := h; rw [hs]; rfl
    · rfl
  | some s =>
    simp only [Shards.zadd]
    by_cases hi : i = qm.getShardKey adID
    · subst hi
      simp only [Shards.set_same, SortedSet.zscore_zadd, true_and]
      by_cases hm : m = adID.value
      · subst hm; simp [hs]
      · simp [hm]
    · simp [Shards.set_other _ _ hi, hi]

theorem updatePriority_ok_iff (qm : RedisQueueManager) (db : Shards) (adID : AdID) (q : Int) :
    (qm.updatePriority db adID q).1 = .ok () ↔ ((db (qm.getShardKey adID)).zscore adID.value).isSome := by
  cases hs : (db (qm.getShardKey adID)).zscore adID.value <;> simp [updatePriority, hs]

/-- The queue loop over identifiers with distinct strings: it counts those with an entry in
their shard, and rescores exactly those entries. -/
theorem foldl_queueStep (qm : RedisQueueManager) (q : Int) : ∀ (ids : List AdID) (n : Nat)
    (db : Shards), (ids.map AdID.value).Nodup →
    (ids.foldl (queueStep qm q) (n, db)).1 =
        n + (ids.filter fun id => ((db (qm.getShardKey id)).zscore id.value).isSome).length ∧
      ∀ i m, ((ids.foldl (queueStep qm q) (n, db)).2 i).zscore m =
        if ∃ id ∈ ids, i = qm.getShardKey id ∧ m = id.value then
          ((db i).zscore m).map fun s => q * 10000000000 + timestampPart s
        else (db i).zscore m
  | [], n, db, _ => ⟨rfl, fun _ _ => by simp⟩
  | id :: ids, n, db, hnd => by
    have hid : id.value ∉ ids.map AdID.value := (List.nodup_cons.mp hnd).1
    set db₁ := (qm.updatePriority db id q).2
    have hstay : ∀ id' ∈ ids, (db₁ (qm.getShardKey id')).zscore id'.value =
        (db (qm.getShardKey id')).zscore id'.value := fun id' hid' => by
      rw [zscore_updatePriority, if_neg]
      rintro ⟨-, h⟩
      exact hid (h ▸ List.mem_map_of_mem _ hid')
    have hstep : queueStep qm q (n, db) id =
        (n + if ((db (qm.getShardKey id)).zscore id.value).isSome then 1 else 0, db₁) := by
      cases hr : (qm.updatePriority db id q).1 with
      | ok u => cases u; simp [queueStep, hr, (updatePriority_ok_iff qm db id q).mp hr, db₁]
      | error e =>
        have hs : ¬ ((db (qm.getShardKey id)).zscore id.value).isSome := fun h => by
          rw [(updatePriority_ok_iff qm db id q).mpr h] at hr; cases hr
        simp [queueStep, hr, hs, db₁]
    obtain ⟨hcount, hscore⟩ := foldl_queueStep qm q ids _ db₁ (List.nodup_cons.mp hnd).2
    rw [List.foldl_cons, hstep]
    refine ⟨?_, fun i m => ?_⟩
    · rw [hcount, List.filter_congr fun id' hid' => by rw [hstay id' hid']]
      by_cases hs : ((db (qm.getShardKey id)).zscore id.value).isSome
      · simp [List.filter_cons, hs]; omega
      · simp [List.filter_cons, hs]
    · rw [hscore, zscore_updatePriority]
      simp only [List.mem_cons, or_and_right, exists_or, exists_eq_left]
      by_cases hhead : i = qm.getShardKey id ∧ m = id.value
      · obtain ⟨rfl, rfl⟩ := hhead
        have hrest : ¬ ∃ id' ∈ ids, qm.getShardKey id = qm.getShardKey id' ∧ id.value = id'.value := by
          rintro ⟨id', hid', -, h⟩
          exact hid (h ▸ List.mem_map_of_mem _ hid')
        simp [hrest]
      · simp only [hhead, if_false, false_or]

/-! ## A rewrite on the in-memory store -/

/-- What a rewrite to `q` of the queued ads that `sel` selects leaves, counting `n`: each of
them, and no other ad, takes `q` and one more version; the entry of each in its own shard
keeps its age part `tau` under band `q`, and no such entry appears; every other entry stays;
`n` counts the selected queued ads with an entry in their shard. -/
structure Rewrote (qm : RedisQueueManager) (sel : Ad → Bool) (q : Int) (store : MemoryAdRepository)
    (db : Shards) (n : Nat) (store' : MemoryAdRepository) (db' : Shards) : Prop where
  ads : store'.ads = store.ads.map (MemoryAdRepository.bump (fun a => sel a && a.status = .queued) q)
  rescored : ∀ a ∈ store.ads, sel a → a.status = .queued → ∀ p tau, 0 ≤ p → 0 ≤ tau →
    tau < 10000000000 →
    (db (qm.getShardKey a.id)).zscore a.id.value = some (p * 10000000000 + tau) →
    (db' (qm.getShardKey a.id)).zscore a.id.value = some (q * 10000000000 + tau)
  absent : ∀ a ∈ store.ads, sel a → a.status = .queued →
    (db (qm.getShardKey a.id)).zscore a.id.value = none →
    (db' (qm.getShardKey a.id)).zscore a.id.value = none
  others : ∀ i m, (∀ a ∈ store.ads, sel a → a.status = .queued →
    ¬ (i = qm.getShardKey a.id ∧ m = a.id.value)) → (db' i).zscore m = (db i).zscore m
  count : n = (store.ads.filter fun a => sel a && a.status = .queued &&
    ((db (qm.getShardKey a.id)).zscore a.id.value).isSome).length

/-- The selected queued ads, rewritten by the store's batch and then by the queue loop. -/
theorem rewrote_of_batch (qm : RedisQueueManager) {sel : Ad → Bool} {q : Int}
    {store store' : MemoryAdRepository} (db : Shards)
    (hads : store'.ads = store.ads.map (MemoryAdRepository.bump
      (fun a => decide (a ∈ store.ads.filter fun a => sel a && a.status = .queued)) q)) :
    let p := ((store.ads.filter fun a => sel a && a.status = .queued).map Ad.id).foldl
      (queueStep qm q) (0, db)
    Rewrote qm sel q store db p.1 store' p.2 := by
  intro p
  set chosen := store.ads.filter fun a => sel a && a.status = .queued
  have hmem : ∀ a ∈ store.ads, a ∈ chosen ↔ sel a ∧ a.status = .queued := fun a ha => by
    simp [chosen, ha]
  have hids : ((chosen.map Ad.id).map AdID.value).Nodup := by
    rw [List.map_map]
    exact store.nodup.sublist ((List.filter_sublist _).map _)
  obtain ⟨hcount, hscore⟩ := foldl_queueStep qm q (chosen.map Ad.id) 0 db hids
  have hsel : ∀ a ∈ store.ads, sel a → a.status = .queued → a.id ∈ chosen.map Ad.id :=
    fun a ha hs hqd => List.mem_map_of_mem _ ((hmem a ha).mpr ⟨hs, hqd⟩)
  refine ⟨?_, ?_, ?_, ?_, ?_⟩
  · rw [hads]
    exact List.map_congr_left fun a ha => by
      simp only [MemoryAdRepository.bump, decide_eq_true_eq, hmem a ha, Bool.and_eq_true]
  · intro a ha hs hqd p tau hp h0 h1 hold
    rw [hscore, if_pos ⟨a.id, hsel a ha hs hqd, rfl, rfl⟩, hold, Option.map_some',
      timestampPart_band hp h0 h1]
  · intro a ha hs hqd hold
    rw [hscore, if_pos ⟨a.id, hsel a ha hs hqd, rfl, rfl⟩, hold, Option.map_none']
  · intro i m hnot
    rw [hscore, if_neg]
    rintro ⟨id, hid, rfl, rfl⟩
    obtain ⟨a, ha, rfl⟩ := List.mem_map.mp hid
    obtain ⟨has, hsa⟩ := List.mem_filter.mp ha
    simp only [Bool.and_eq_true, decide_eq_true_eq] at hsa
    exact hnot a has hsa.1 hsa.2 ⟨rfl, rfl⟩
  · rw [hcount, Nat.zero_add, List.filter_map, List.length_map, List.filter_filter]
    congr 1
    exact List.filter_congr fun a _ => by
      simp only [Function.comp, Bool.and_comm, Bool.and_assoc]

/-- The shared body on the in-memory store, for a find that returns the ads `sel` selects
and a valid priority. -/
theorem changePriorityOf_memory (qm : RedisQueueManager) (store : MemoryAdRepository)
    (db : Shards) (sel : Ad → Bool) (findError : String) {q : Int} (hq : 1 ≤ q ∧ q ≤ 5) :
    ∃ n store' db', changePriorityOf MemoryAdRepository.repository qm store db
        (.ok (store.ads.filter sel)) findError q = (.ok n, store', db') ∧
      Rewrote qm sel q store db n store' db' := by
  set chosen := store.ads.filter fun a => sel a && a.status = .queued
  have hchosen : (store.ads.filter sel).filter (fun a => a.status = .queued) = chosen := by
    simp [chosen, List.filter_filter, Bool.and_comm]
  have hvalid : Priority.isValid q = true := (Priority.isValid_iff q).mpr hq
  unfold changePriorityOf
  simp only [hvalid, Bool.not_true, Bool.false_eq_true, if_false, hchosen]
  by_cases hempty : (chosen.map Ad.id).isEmpty
  · have hnil : store.ads.filter (fun a => sel a && a.status = .queued) = [] := by
      simpa [chosen] using hempty
    have hstay : store.ads = store.ads.map (MemoryAdRepository.bump
        (fun a => decide (a ∈ chosen)) q) :=
      (List.map_id'' (fun a => by simp [MemoryAdRepository.bump, chosen, hnil]) _).symm
    have h := rewrote_of_batch qm db hstay
    rw [hnil] at h
    exact ⟨0, store, db, by simp [hempty], h⟩
  · obtain ⟨store', hbatch, hads⟩ := MemoryAdRepository.updatePriorityBatch_of_valid hq chosen store
      (store.nodup.sublist ((List.filter_sublist _).map _)) fun a ha => by
        obtain ⟨has, hsa⟩ := List.mem_filter.mp ha
        simp only [Bool.and_eq_true, decide_eq_true_eq] at hsa
        exact ⟨has, by simp [hsa.2], by simp [hsa.2]⟩
    exact ⟨_, store', _, by simp [hempty, MemoryAdRepository.repository, hbatch],
      rewrote_of_batch qm db hads⟩

/-! ## The two rewrites -/

/-- Both rewrites to a valid priority on the in-memory store: the queued ads of the family,
or those created before `now - d` for a `d` other than the least duration. -/
theorem changePriority_rewrites_queued (qm : RedisQueueManager) (store : MemoryAdRepository)
    (db : Shards) {q : Int} (hq : 1 ≤ q ∧ q ≤ 5) :
    (∀ g, ∃ n store' db', changePriorityForGameFamily MemoryAdRepository.repository qm store db
        g q = (.ok n, store', db') ∧ Rewrote qm (fun a => a.gameFamily = g) q store db n store' db') ∧
    ∀ now d, d ≠ minDuration → ∃ n store' db',
      changePriorityForOlderAds MemoryAdRepository.repository qm store db now d q =
        (.ok n, store', db') ∧ Rewrote qm (fun a => a.createdAt < now - d) q store db n store' db' := by
  refine ⟨fun g => changePriorityOf_memory qm store db _ _ hq, fun now d hd => ?_⟩
  have hthreshold : now + negDuration d = now - d := by
    rw [negDuration, if_neg hd, Int.sub_eq_add_neg]
  rw [changePriorityForOlderAds, hthreshold]
  exact changePriorityOf_memory qm store db _ _ hq

theorem changePriority_rewrites_queued_at_sample :
    let qm : RedisQueueManager := ⟨⟨true, 300000000000, 2, 10, 60000000000⟩, 2⟩
    let ad : Ad := ⟨⟨"123e4567-e89b-12d3-a456-426614174000"⟩, "Summer sale", "RPG", ["all"], 3,
      300000000000, .queued, 0, none, none, none, 1⟩
    let store : MemoryAdRepository := ⟨[ad], List.nodup_singleton _⟩
    let db := qm.enqueue Shards.empty ad.id 3 0
    (1 ≤ (5 : Int) ∧ (5 : Int) ≤ 5) ∧ ∃ n store' db',
      changePriorityForGameFamily MemoryAdRepository.repository qm store db "RPG" 5 =
        (.ok n, store', db') ∧ Rewrote qm (fun a => a.gameFamily = "RPG") 5 store db n store' db' :=
  ⟨⟨by decide, by decide⟩, (changePriority_rewrites_queued _ _ _ ⟨by decide, by decide⟩).1 "RPG"⟩

/-- At the least duration Go's `-d` wraps back to `d`, so the threshold is `now + d`: an ad
created at `now`, which `createdAt < now - d` selects, is not found, and the store keeps its
version. -/
theorem changePriorityForOlderAds_least_duration :
    let qm : RedisQueueManager := ⟨⟨true, 300000000000, 2, 10, 60000000000⟩, 2⟩
    let ad : Ad := ⟨⟨"123e4567-e89b-12d3-a456-426614174000"⟩, "Summer sale", "RPG", ["all"], 1,
      300000000000, .queued, 0, none, none, none, 1⟩
    let store : MemoryAdRepository := ⟨[ad], List.nodup_singleton _⟩
    ad.status = .queued ∧ ad.createdAt < 0 - minDuration ∧
      changePriorityForOlderAds MemoryAdRepository.repository qm store Shards.empty 0 minDuration 3 =
        (.ok 0, store, Shards.empty) :=
  ⟨rfl, by decide, rfl⟩

end AdService

end AdQueue
