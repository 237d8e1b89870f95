import AdQueue.Queue.Score
import AdQueue.Redis.SortedSet

/-!
# The Redis queue manager

`cache.RedisQueueManager`, method by method, as sequences of commands on the shard sets.
Each method takes the keyspace and returns what the method returns with the keyspace it
leaves; a method that reads the clock takes `now`.  Redis fails only in `enqueueReply`; the
other error paths kept are those the code takes on a well-behaved server (an absent member,
a member that is not an identifier).

`Dequeue` peeks the top entry of every shard (`keepBest` is one turn of its loop) and removes
the best one.  `DequeueBatch` and `GetNext` gather the top `k` of every shard
(`collectTop`), sort the gathered list with the source's nested compare-and-swap loop
(`exchangeSort`, by score only), and take the first `k`.  `DequeueBatch` then removes the
chosen members, each from the shard it was read from (`shardMapping`), one `ZREM` per shard.

`UpdatePriority` and `ApplyAntiStarvation` read a score and write one back with a new band
and the same age part.  The pass reads one clock value for all entries; the source reads
the clock once per entry, microseconds apart.  `int(age.Minutes() / 5)` is read exactly as
`age` divided by five minutes, truncated.

`Enqueue` also publishes a notification that nothing in the repository subscribes to; the
model leaves it out.  `Remove` undoes an `Enqueue` of an identifier its shard did not hold,
to the whole keyspace (`remove_undoes_enqueue`).  `enqueueReply` is `Enqueue` on a server that may refuse the `ZADD`,
because `AdService.CreateAd` has a path for that refusal.
-/

namespace AdQueue

namespace RedisQueueManager

/-- The item a queue read hands out for an entry: the identifier parsed from the member,
the priority decoded from the score, stamped with the clock.  `none` when the member does
not parse. -/
def toQueueItem (now : Int) (z : Z) : Option QueueItem :=
  (parseAdID z.member).map fun id => QueueItem.new id (decodePriority z.score) now

/-! ## Enqueue and Dequeue -/

/-- `Enqueue`. -/
def enqueue (r : RedisQueueManager) (db : Shards) (adID : AdID) (priority : Int) (now : Int) :
    Shards :=
  db.zadd (r.getShardKey adID) adID.value (calculateScore priority now)

/-- `Enqueue` against a server that answers its `ZADD` with `reply`: an error reply writes
nothing and comes back wrapped.  The service's `CreateAd` meets this error path. -/
def enqueueReply (r : RedisQueueManager) (db : Shards) (adID : AdID) (priority : Int) (now : Int)
    (reply : Except String Unit) : Except String Unit × Shards :=
  match reply with
  | .error e => (.error ("failed to enqueue ad: " ++ e), db)
  | .ok () => (.ok (), r.enqueue db adID priority now)

/-- One turn of the loop of `Dequeue`: the top entry of shard `i` replaces the best so far
when there is none yet or its score is strictly greater. -/
def keepBest (db : Shards) (best : Option (Z × Nat)) (i : Nat) : Option (Z × Nat) :=
  match (db i).zrevrange 0 with
  | [] => best
  | z :: _ => if best.all fun b => b.1.score < z.score then some (z, i) else best

/-- The entry `Dequeue` picks, with its shard. -/
def bestEntry (r : RedisQueueManager) (db : Shards) : Option (Z × Nat) :=
  (List.range r.shardCount).foldl (keepBest db) none

/-- `Dequeue`.  The member is removed before it is parsed. -/
def dequeue (r : RedisQueueManager) (db : Shards) (now : Int) :
    Except String (Option QueueItem) × Shards :=
  match r.bestEntry db with
  | none => (.ok none, db)
  | some (z, i) =>
    match toQueueItem now z with
    | none => (.error "invalid ad ID in queue", db.zrem i [z.member])
    | some item => (.ok (some item), db.zrem i [z.member])

/-! ## The sort of `DequeueBatch` and `GetNext` -/

/-- Pass `i` of the nested loop `for j := i + 1 ...: if a[i].Score < a[j].Score then swap`:
`c` stands at position `i`.  Returns what ends at position `i` and the positions after it. -/
def swapPass (c : Z) : List Z → Z × List Z
  | [] => (c, [])
  | y :: ys =>
    if c.score < y.score then
      let p := swapPass y ys
      (p.1, c :: p.2)
    else
      let p := swapPass c ys
      (p.1, y :: p.2)

/-- The outer loop, one pass per position while `fuel` lasts. -/
def exchangeSortFuel : Nat → List Z → List Z
  | 0, l => l
  | _ + 1, [] => []
  | n + 1, c :: cs => (swapPass c cs).1 :: exchangeSortFuel n (swapPass c cs).2

/-- The sort of `DequeueBatch` and `GetNext`: one pass per position. -/
def exchangeSort (l : List Z) : List Z := exchangeSortFuel l.length l

/-! ## DequeueBatch and GetNext -/

/-- The entries `DequeueBatch` and `GetNext` gather: `ZREVRANGE 0 stop` of each shard, shard
after shard. -/
def collectTop (db : Shards) (stop : Int) (shards : List Nat) : List Z :=
  shards.flatMap fun i => (db i).zrevrange stop

/-- `shardMapping[member]`: the shard a gathered member was read from, the last one when it
was read from several. -/
def shardMapping (db : Shards) (stop : Int) (shards : List Nat) (m : String) : Option Nat :=
  shards.reverse.find? fun i => m ∈ ((db i).zrevrange stop).map Z.member

/-- `toRemove[shard]`: the chosen members mapped to shard `i`. -/
def toRemove (mapping : String → Option Nat) (chosen : List Z) (i : Nat) : List String :=
  (chosen.filter fun z => mapping z.member = some i).map Z.member

/-- The removal loop of `DequeueBatch`: one `ZREM` on each shard with members to remove. -/
def removeChosen (db : Shards) (rm : Nat → List String) : Shards :=
  fun i => if rm i = [] then db i else (db i).zrem (rm i)

/-- The entries `DequeueBatch` keeps of what it gathered: the first `batchSize` of the sorted
list whose member parses. -/
def selectBatch (batchSize : Int) (allItems : List Z) : List Z :=
  ((exchangeSort allItems).take batchSize.toNat).filter fun z => (parseAdID z.member).isSome

/-- The entries `DequeueBatch` chooses on the shards it reads. -/
def chooseBatch (r : RedisQueueManager) (db : Shards) (batchSize : Int) : List Z :=
  selectBatch batchSize (collectTop db (batchSize - 1) (List.range r.shardCount))

/-- `DequeueBatch`. -/
def dequeueBatch (r : RedisQueueManager) (db : Shards) (batchSize : Int) (now : Int) :
    List QueueItem × Shards :=
  let chosen := r.chooseBatch db batchSize
  (chosen.filterMap (toQueueItem now),
    removeChosen db
      (toRemove (shardMapping db (batchSize - 1) (List.range r.shardCount)) chosen))

/-- `GetNext`: the same gathering and sort, nothing removed. -/
def getNext (r : RedisQueueManager) (db : Shards) (count : Int) (now : Int) : List QueueItem :=
  ((exchangeSort (collectTop db (count - 1) (List.range r.shardCount))).take
    count.toNat).filterMap (toQueueItem now)

/-! ## Point updates -/

/-- `UpdatePriority`: `ZSCORE`, then `ZADD` with the new band and the same age part. -/
def updatePriority (r : RedisQueueManager) (db : Shards) (adID : AdID) (newPriority : Int) :
    Except String Unit × Shards :=
  let i := r.getShardKey adID
  match (db i).zscore adID.value with
  | none => (.error ("ad not found in queue: " ++ adID.value), db)
  | some currentScore =>
    (.ok (), db.zadd i adID.value (newPriority * 10000000000 + timestampPart currentScore))

/-- `Remove`: `ZREM`, an error when it removed nothing. -/
def remove (r : RedisQueueManager) (db : Shards) (adID : AdID) : Except String Unit × Shards :=
  let i := r.getShardKey adID
  if (db i).zremCount [adID.value] = 0 then
    (.error ("ad not found in queue: " ++ adID.value), db.zrem i [adID.value])
  else (.ok (), db.zrem i [adID.value])

/-! ## Counts -/

/-- `GetPosition`: one more than the entries of all shards scoring strictly above the
identifier's score in its own shard. -/
def getPosition (r : RedisQueueManager) (db : Shards) (adID : AdID) : Except String Int :=
  match (db (r.getShardKey adID)).zscore adID.value with
  | none => .error ("ad not found in queue: " ++ adID.value)
  | some targetScore =>
    .ok (((List.range r.shardCount).map fun i => (db i).zcount (.excl targetScore) .posInf).sum
      + 1)

/-- `GetSize`. -/
def getSize (r : RedisQueueManager) (db : Shards) : Nat :=
  ((List.range r.shardCount).map fun i => (db i).zcard).sum

/-- `GetSizeByPriority`: for `p = 1 .. 5` the entries of all shards in `[p·10^10, (p+1)·10^10 − 1]`. -/
def getSizeByPriority (r : RedisQueueManager) (db : Shards) : List (Int × Nat) :=
  [1, 2, 3, 4, 5].map fun p =>
    (p, ((List.range r.shardCount).map fun i =>
      (db i).zcount (.incl (p * 10000000000)) (.incl ((p + 1) * 10000000000 - 1))).sum)

/-! ## Anti-starvation -/

/-- The score an entry gets from a pass at clock `now`, if it is rewritten: an entry older
than `maxWaitTime` and below priority `5` moves up one band per five minutes of age, up to
`5`, keeping its age part. -/
def boostedScore (cfg : QueueConfig) (now : Int) (score : Int) : Option Int :=
  let priority := decodePriority score
  let age := timeSub now ((9999999999 - timestampPart score) * 1000000000)
  if cfg.maxWaitTime < age ∧ priority < Priority.high then
    some (min (priority + age.tdiv 300000000000) Priority.high * 10000000000 + timestampPart score)
  else none

/-- One entry of the pass. -/
def boostEntry (cfg : QueueConfig) (now : Int) (i : Nat) (db : Shards) (z : Z) : Shards :=
  match boostedScore cfg now z.score with
  | some s => db.zadd i z.member s
  | none => db

/-- One shard of the pass: its entries, read once with `ZRANGE`, each boosted in turn. -/
def boostShard (cfg : QueueConfig) (now : Int) (db : Shards) (i : Nat) : Shards :=
  ((db i).zrangeAll).foldl (boostEntry cfg now i) db

/-- `ApplyAntiStarvation`. -/
def applyAntiStarvation (r : RedisQueueManager) (db : Shards) (now : Int) : Shards :=
  if !r.config.antiStarvationEnabled then db
  else (List.range r.shardCount).foldl (boostShard r.config now) db

/-! ## Remove undoes Enqueue -/

/-- `Remove` after `Enqueue` of an identifier its shard does not hold succeeds and leaves the
keyspace as it was before the `Enqueue`; a `Remove` of an identifier its shard does not hold
reports it not found and changes nothing. -/
theorem remove_undoes_enqueue (r : RedisQueueManager) (db : Shards) (adID : AdID)
    (priority now : Int) (h : (db (r.getShardKey adID)).zscore adID.value = none) :
    r.remove (r.enqueue db adID priority now) adID = (.ok (), db) ∧
      r.remove db adID = (.error ("ad not found in queue: " ++ adID.value), db) := by
  have hm := SortedSet.zscore_eq_none.mp h
  have hnot : ∀ z ∈ (db (r.getShardKey adID)).entries, z.member ∉ [adID.value] := fun z hz e =>
    hm (SortedSet.mem_members.mpr ⟨z, hz, List.mem_singleton.mp e⟩)
  have hself : db.set (r.getShardKey adID) (db (r.getShardKey adID)) = db := Function.update_eq_self _ db
  have hidem : ∀ s t : SortedSet, (db.set (r.getShardKey adID) s).set (r.getShardKey adID) t =
      db.set (r.getShardKey adID) t := fun s t => Function.update_idem _ _ _
  have hadd : ((db (r.getShardKey adID)).zadd adID.value
      (calculateScore priority now)).zremCount [adID.value] ≠ 0 := by
    simp [SortedSet.zadd, hm, SortedSet.zremCount]
  constructor
  · simp only [remove, enqueue, Shards.zadd, Shards.zrem, Shards.set_same, hadd, if_false, hidem,
      SortedSet.zrem_zadd_of_not_mem hm, hself]
  · simp only [remove, SortedSet.zremCount_eq_zero.mpr hnot, if_true, Shards.zrem,
      SortedSet.zrem_of_disjoint hnot, hself]

/-- An identifier enqueued into an empty keyspace, then removed twice. -/
theorem remove_undoes_enqueue_at_sample :
    let r : RedisQueueManager := ⟨⟨true, 300000000000, 2, 10, 60000000000⟩, 2⟩
    let adID : AdID := ⟨"123e4567-e89b-12d3-a456-426614174000"⟩
    (Shards.empty (r.getShardKey adID)).zscore adID.value = none ∧
      r.remove (r.enqueue Shards.empty adID 3 1700000000) adID = (.ok (), Shards.empty) ∧
      r.remove Shards.empty adID = (.error ("ad not found in queue: " ++ adID.value), Shards.empty) := by
  intro r adID
  have h : (Shards.empty (r.getShardKey adID)).zscore adID.value = none := rfl
  exact ⟨h, remove_undoes_enqueue r Shards.empty adID 3 1700000000 h⟩

end RedisQueueManager

end AdQueue
