import AdQueue.Domain.Queue

/-!
# Scores and shards

How the Redis queue manager places an ad.  `calculateScore` puts priority `p` enqueued at
Unix second `t` at `p·10^10 + (9999999999 − t)`: the priority picks a band of width
`10^10`, and inside a band an older entry scores higher.  `decodePriority` and
`timestampPart` are the decoding that `Dequeue`, `DequeueBatch`, `GetNext`,
`UpdatePriority` and `ApplyAntiStarvation` repeat inline: Go's `int(score / 10^10)`, which
truncates toward zero, and what is left of the score.

`getShardKey` hashes the runes of the identifier with the wrapping 64-bit polynomial hash
`hash = c + 31·hash`, takes Go's truncated remainder by the shard count, and negates a
negative remainder.  The sorted set it names, `queue:shard:i`, is identified by `i`.
`getShardKey_lt` says `i` is always below the shard count, for every string, including
those whose hash wraps to a negative value or to the minimum `int64`.

The queue package scores its own items differently, `p·10^6 + t/10^9`, and
`itemScore_orders_newer_first` compares the two: both put a higher priority first, but
inside one priority the item score prefers the later timestamp, against the comment above
it and against the Redis score.
-/

namespace AdQueue

/-- `cache.RedisQueueManager`, without its Redis client: the configuration it reads and
the number of shards it was built with. -/
structure RedisQueueManager where
  config : QueueConfig
  shardCount : Nat
deriving DecidableEq, Repr

/-- The hash loop of `getShardKey` and `hashAdID`: `hash = int(c) + ((hash << 5) - hash)`
over the runes, in 64-bit two's complement. -/
def runeHash (s : String) : BitVec 64 :=
  s.data.foldl (fun h c => BitVec.ofNat 64 c.toNat + ((h <<< 5) - h)) 0

namespace RedisQueueManager

/-! ## The score encoding -/

/-- `calculateScore`: `priority·10^10 + (9999999999 − unix seconds)`. -/
def calculateScore (priority : Int) (timestamp : Int) : Int :=
  priority * 10000000000 + (9999999999 - unixSeconds timestamp)

/-- `int(score / 10000000000)`, truncated toward zero. -/
def decodePriority (score : Int) : Int := score.tdiv 10000000000

/-- `score - float64(int(score/10000000000))*10000000000`: the age part of a score. -/
def timestampPart (score : Int) : Int := score - decodePriority score * 10000000000

theorem decodePriority_band {p tau : Int} (hp : 0 ≤ p) (h0 : 0 ≤ tau) (h1 : tau < 10000000000) :
    decodePriority (p * 10000000000 + tau) = p := by
  rw [decodePriority, Int.tdiv_eq_ediv (by omega) (by decide)]
  omega

theorem timestampPart_band {p tau : Int} (hp : 0 ≤ p) (h0 : 0 ≤ tau) (h1 : tau < 10000000000) :
    timestampPart (p * 10000000000 + tau) = tau := by
  rw [timestampPart, decodePriority_band hp h0 h1]
  omega

/-! ## Shards -/

/-- `getShardKey`: the shard an identifier lives in. -/
def getShardKey (r : RedisQueueManager) (adID : AdID) : Nat :=
  let shard := (runeHash adID.value).toInt.tmod r.shardCount
  (if shard < 0 then -shard else shard).toNat

/-- `hashAdID`: the same hash with a negative value negated, in 64 bits. -/
def hashAdID (adID : AdID) : Int :=
  let hash := runeHash adID.value
  (if hash.toInt < 0 then -hash else hash).toInt

theorem natAbs_tmod_lt (a : Int) {n : Nat} (hn : 0 < n) : (a.tmod n).natAbs < n := by
  cases a with
  | ofNat m => simpa [Int.tmod] using Nat.mod_lt m hn
  | negSucc m => simpa [Int.tmod] using Nat.mod_lt (m + 1) hn

theorem getShardKey_eq (r : RedisQueueManager) (adID : AdID) :
    r.getShardKey adID = ((runeHash adID.value).toInt.tmod r.shardCount).natAbs := by
  simp only [getShardKey]
  split_ifs <;> omega

/-- Every identifier names one of the shards `0 .. shardCount - 1`. -/
theorem getShardKey_lt (r : RedisQueueManager) (adID : AdID) (hn : 0 < r.shardCount) :
    r.getShardKey adID < r.shardCount := by
  rw [getShardKey_eq]
  exact natAbs_tmod_lt _ hn

/-! ## The item score of the queue package -/

/-- `queue.calculateScore`, the score `NewQueueItem` and `QueueItem.UpdatePriority` store,
against the Redis score.  Inside one priority the item score grows with the Unix seconds of
the timestamp, so the later item comes first, where the Redis score puts the older one.
Across priorities the higher one scores higher while the seconds stay below `10^15`. -/
theorem itemScore_orders_newer_first {p p' : Int} (hp' : p' < p) {t₁ t₂ t t' : Int}
    (h₁₂ : unixSeconds t₁ < unixSeconds t₂) (ht : 0 ≤ unixSeconds t)
    (ht' : unixSeconds t' < 10 ^ 15) :
    Queue.calculateScore p t₁ < Queue.calculateScore p t₂ ∧
      calculateScore p t₂ < calculateScore p t₁ ∧
      Queue.calculateScore p' t' < Queue.calculateScore p t := by
  have hitem : ∀ q u, Queue.calculateScore q u = q * 1000000 + (unixSeconds u : ℚ) / 1000000000 :=
    fun _ _ => rfl
  have hmono : (unixSeconds t₁ : ℚ) < unixSeconds t₂ := by exact_mod_cast h₁₂
  have hlt : (unixSeconds t' : ℚ) < 10 ^ 15 := by exact_mod_cast ht'
  have hnn : (0 : ℚ) ≤ unixSeconds t := by exact_mod_cast ht
  have hpp : (p' : ℚ) + 1 ≤ p := by exact_mod_cast hp'
  refine ⟨?_, by unfold calculateScore; omega, ?_⟩ <;> rw [hitem, hitem]
  · linarith only [hmono]
  · linarith only [hlt, hnn, hpp]

/-- Priority `3` enqueued at Unix second `1700000000` and a minute later: the later item
scores `3000001.70000006`, above the earlier one's `3000001.7`, and the Redis score puts
the earlier one first; a priority-`2` item scores below both. -/
theorem itemScore_orders_newer_first_at_sample :
    Queue.calculateScore 3 1700000000000000000 < Queue.calculateScore 3 1700000060000000000 ∧
      calculateScore 3 1700000060000000000 < calculateScore 3 1700000000000000000 ∧
      Queue.calculateScore 2 1700000060000000000 < Queue.calculateScore 3 1700000000000000000 :=
  itemScore_orders_newer_first (by norm_num) (by decide) (by decide) (by decide)

end RedisQueueManager

end AdQueue
