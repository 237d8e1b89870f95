import AdQueue.Queue.Score
import AdQueue.Text.Strings

/-!
# The shard key of the optimized Postgres repository

`OptimizedPostgresAdRepository.getShardKey` and `RedisQueueManager.hashAdID` run the rune
hash of the Redis `getShardKey` (`runeHash`), but negate a negative hash before anything
else, where the Redis `getShardKey` negates the remainder.  Go's `-hash` wraps: the least
`int64`, `-2^63`, is its own negation (`toInt_negateNegative`).  So `hashAdID` is negative
exactly when the hash is `-2^63`, and the repository's key is then the decimal of
`-(2^63 mod n)`, negative unless the shard count `n` divides `2^63`
(`negated_hash_negative_iff_least`).

The hash is linear in the runes, `Σ cᵢ·31^(n-1-i)` modulo `2^64`, so a string of a given
shape with a given hash is a closest-vector problem in a lattice of determinant `2^64`.
Lattice reduction finds `35423824-3658-4243-6454-355443454464`, a canonical UUID that
`ParseAdID` accepts, with hash `-2^63`.
-/

namespace AdQueue

/-- `OptimizedPostgresAdRepository`, without its connections and prepared statements: the
shard count it was configured with. -/
structure OptimizedPostgresAdRepository where
  shardCount : Int
deriving DecidableEq, Repr

namespace OptimizedPostgresAdRepository

open Text

/-- `getShardKey`: `"0"` for at most one shard; otherwise the hash, negated in 64 bits when
negative, and the decimal of its truncated remainder by the shard count. -/
def getShardKey (r : OptimizedPostgresAdRepository) (adID : AdID) : String :=
  if r.shardCount ≤ 1 then "0"
  else
    let hash := runeHash adID.value
    let hash := if hash.toInt < 0 then -hash else hash
    ⟨formatInt (hash.toInt.tmod r.shardCount)⟩

/-- With two shards or more, the key is the decimal of the remainder of `hashAdID`. -/
theorem getShardKey_eq (r : OptimizedPostgresAdRepository) (adID : AdID)
    (hn : 2 ≤ r.shardCount) :
    r.getShardKey adID = ⟨formatInt ((RedisQueueManager.hashAdID adID).tmod r.shardCount)⟩ := by
  rw [getShardKey, if_neg (by omega)]
  rfl

end OptimizedPostgresAdRepository

/-! ## Negating an `int64` -/

/-- The signed reading of a 64-bit word is an `int64`. -/
theorem toInt_mem_int64 (x : BitVec 64) : -2 ^ 63 ≤ x.toInt ∧ x.toInt < 2 ^ 63 := by
  have := x.isLt
  rw [BitVec.toInt_eq_toNat_cond]
  split <;> omega

/-- Go's `if hash < 0 { hash = -hash }` on an `int64`: the absolute value, except at
`-2^63`, which is its own negation. -/
theorem toInt_negateNegative (x : BitVec 64) :
    (if x.toInt < 0 then -x else x).toInt = if x.toInt = -2 ^ 63 then -2 ^ 63 else |x.toInt| := by
  obtain ⟨h0, h1⟩ := toInt_mem_int64 x
  split_ifs with hneg hmin hmin
  · rw [BitVec.toInt_neg, hmin]
    rfl
  · rw [BitVec.toInt_neg, bmod_of_int64 (by omega) (by omega), abs_of_neg hneg]
  · omega
  · rw [abs_of_nonneg (not_lt.mp hneg)]

theorem RedisQueueManager.hashAdID_eq (adID : AdID) :
    RedisQueueManager.hashAdID adID = if (runeHash adID.value).toInt = -2 ^ 63 then -2 ^ 63
      else |(runeHash adID.value).toInt| :=
  toInt_negateNegative _

/-- Go's `-2^63 % n`: the negated remainder of `2^63`. -/
theorem tmod_least_int64 {n : Int} (hn : 0 ≤ n) : (-2 ^ 63 : Int).tmod n = -(2 ^ 63 % n) := by
  rw [← Int.tmod_eq_emod (by norm_num) hn, Int.tmod_def, Int.tmod_def, Int.neg_tdiv]
  ring

/-! ## The shard key at the least hash -/

open Text in
/-- For every identifier string and every repository with `n ≥ 2` shards: `hashAdID` is
negative exactly when the rune hash is `-2^63`, and the repository's key is the decimal of a
`k` with `-n < k < n`, negative exactly when the hash is `-2^63` and `n` does not divide
`2^63`. -/
theorem negated_hash_negative_iff_least (s : String) (r : OptimizedPostgresAdRepository)
    (hn : 2 ≤ r.shardCount) :
    let n := r.shardCount
    let k := (RedisQueueManager.hashAdID ⟨s⟩).tmod n
    (RedisQueueManager.hashAdID ⟨s⟩ < 0 ↔ (runeHash s).toInt = -2 ^ 63) ∧
      r.getShardKey ⟨s⟩ = ⟨formatInt k⟩ ∧ -n < k ∧ k < n ∧
      (k < 0 ↔ (runeHash s).toInt = -2 ^ 63 ∧ ¬ n ∣ 2 ^ 63) := by
  intro n k
  have hkey := OptimizedPostgresAdRepository.getShardKey_eq r ⟨s⟩ hn
  have hk : k = (RedisQueueManager.hashAdID ⟨s⟩).tmod n := rfl
  rw [RedisQueueManager.hashAdID_eq] at hk ⊢
  by_cases hmin : (runeHash s).toInt = -2 ^ 63
  · rw [if_pos hmin, tmod_least_int64 (by omega)] at hk
    have hr0 : 0 ≤ 2 ^ 63 % n := Int.emod_nonneg _ (by omega)
    have hr1 : 2 ^ 63 % n < n := Int.emod_lt_of_pos _ (by omega)
    rw [if_pos hmin, Int.dvd_iff_emod_eq_zero]
    exact ⟨⟨fun _ => hmin, fun _ => by norm_num⟩, hkey, by omega, by omega,
      by simp only [hmin, true_and]; omega⟩
  · rw [if_neg hmin] at hk
    have hk0 : 0 ≤ k := hk ▸ Int.tmod_nonneg _ (abs_nonneg _)
    have hk1 : k < n := hk ▸ Int.tmod_lt_of_pos _ (by omega)
    rw [if_neg hmin]
    exact ⟨⟨fun h => absurd h (not_lt.mpr (abs_nonneg _)), fun h => absurd h hmin⟩, hkey,
      by omega, hk1, ⟨fun h => absurd h (not_lt.mpr hk0), fun h => absurd h.1 hmin⟩⟩

open Text in
/-- `35423824-3658-4243-6454-355443454464` is a UUID `ParseAdID` accepts and hashes to
`-2^63`: `hashAdID` returns `-2^63`, and with three shards the optimized repository files
the ad under the key `-2`. -/
theorem negated_hash_negative_at_sample :
    uuidParses "35423824-3658-4243-6454-355443454464" = true ∧
      (runeHash "35423824-3658-4243-6454-355443454464").toInt = -2 ^ 63 ∧
      RedisQueueManager.hashAdID ⟨"35423824-3658-4243-6454-355443454464"⟩ < 0 ∧
      (⟨3⟩ : OptimizedPostgresAdRepository).getShardKey
        ⟨"35423824-3658-4243-6454-355443454464"⟩ = ⟨formatInt (-2)⟩ := by
  have hmin : (runeHash "35423824-3658-4243-6454-355443454464").toInt = -2 ^ 63 := by
    set_option maxRecDepth 4000 in decide
  obtain ⟨hneg, hkey, -⟩ := negated_hash_negative_iff_least
    "35423824-3658-4243-6454-355443454464" ⟨3⟩ (by decide)
  refine ⟨by decide, hmin, hneg.mpr hmin, hkey.trans ?_⟩
  rw [RedisQueueManager.hashAdID_eq, if_pos hmin]
  rfl

end AdQueue
