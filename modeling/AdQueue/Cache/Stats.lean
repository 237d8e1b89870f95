import AdQueue.Cache.Run
import AdQueue.Queue.Binary64

/-!
# The statistics of the cache

`CacheStats` holds five counters.  `GetAd` and `GetAdBatch` (and `PrefetchAds` through
it) bump them as they look identifiers up; `ResetStats` sets them to zero, and
`CalculateHitRatio` divides the L1 and L2 hits by the hits and the DB hits.  No method
reads a counter to decide what it does to the cache, so the counters are modelled as a
second output of each call: the list of counters it records (`records`).

*What the counters count.*  A run of calls looks up identifiers: one per `GetAd`, one per
identifier handed to `GetAdBatch` or `PrefetchAds`.  The log of a run (`runLookups`) has one
entry per lookup, read off what the call answered: whether an ad came back, and whether
the lookup was a `GetAd`.  Over every run from every cache (`run_accounts`):
* the L1 and L2 hits together are the lookups answered, and the DB hits the `GetAd` calls
  that failed;
* with L1 on, every lookup is one L1 hit or one L1 miss; with L2 on, every lookup L1 did not
  answer is one L2 hit or one L2 miss; a level that is off records nothing.

So after `ResetStats` the hit ratio is the float64 quotient of the answered lookups by the
answered lookups and the failed `GetAd` calls (`hitRatio_of_run`).  `GetAdBatch` records
no DB hit: an identifier a batch misses is in neither term.

The counters are `int64`: `record` and the sums of `CalculateHitRatio` wrap at `2^64`.
Along a run of fewer than `2^63` lookups after `ResetStats` none wraps, and each counter
holds the number of times the run records it (`runRecords_counters`).
-/

namespace AdQueue

/-- The five counters of `CacheStats`. -/
inductive Counter where
  | l1Hits
  | l1Misses
  | l2Hits
  | l2Misses
  | dbHits
deriving DecidableEq, Repr

/-- `CacheStats`: the value of each counter. -/
structure CacheStats where
  count : Counter → Int

namespace CacheStats

/-- One more at counter `k`, an `int64`: the body of each `recordX`. -/
def record (s : CacheStats) (k : Counter) : CacheStats :=
  ⟨fun k' => if k' = k then Int.bmod (s.count k' + 1) (2 ^ 64) else s.count k'⟩

/-- `recordL1Hit`. -/
def recordL1Hit (s : CacheStats) : CacheStats := s.record .l1Hits

/-- `recordL1Miss`. -/
def recordL1Miss (s : CacheStats) : CacheStats := s.record .l1Misses

/-- `recordL2Hit`. -/
def recordL2Hit (s : CacheStats) : CacheStats := s.record .l2Hits

/-- `recordL2Miss`. -/
def recordL2Miss (s : CacheStats) : CacheStats := s.record .l2Misses

/-- `recordDBHit`. -/
def recordDBHit (s : CacheStats) : CacheStats := s.record .dbHits

/-- The counters recorded in turn. -/
def recordAll (s : CacheStats) (ks : List Counter) : CacheStats := ks.foldl record s

/-- `ResetStats`, and the counters `NewHighPerformanceCache` starts with: all zero. -/
def resetStats : CacheStats := ⟨fun _ => 0⟩

/-- `CalculateHitRatio`: `float64(totalHits) / float64(totalRequests)`, and `0` when there
was no request. -/
def calculateHitRatio (s : CacheStats) : ℚ :=
  let totalHits := Int.bmod (s.count .l1Hits + s.count .l2Hits) (2 ^ 64)
  let totalRequests := Int.bmod (totalHits + s.count .dbHits) (2 ^ 64)
  if totalRequests = 0 then 0
  else Binary64.div (Binary64.ofInt totalHits) (Binary64.ofInt totalRequests)

/-- One record below `2^63` adds one to its counter and nothing to the others. -/
theorem count_record {s : CacheStats} {k k' : Counter} (h0 : 0 ≤ s.count k')
    (h1 : s.count k' + (if k' = k then 1 else 0) < 2 ^ 63) :
    (s.record k).count k' = s.count k' + if k' = k then 1 else 0 := by
  show (if k' = k then Int.bmod (s.count k' + 1) (2 ^ 64) else s.count k') = _
  split_ifs at h1 ⊢
  · exact bmod_of_int64 (by omega) h1
  · rw [add_zero]

/-- Each counter grows by the times the list records it, while it stays below `2^63`. -/
theorem count_recordAll (k : Counter) : ∀ (s : CacheStats) (ks : List Counter),
    0 ≤ s.count k → s.count k + ks.count k < 2 ^ 63 →
      (s.recordAll ks).count k = s.count k + ks.count k
  | _, [], _, _ => by simp [recordAll]
  | s, k' :: ks, h0, h1 => by
    have hcons : (((k' :: ks).count k : Nat) : Int) = ks.count k + if k = k' then 1 else 0 := by
      by_cases h : k = k' <;> simp [List.count_cons, h, eq_comm]
    have hone : (0 : Int) ≤ if k = k' then 1 else 0 := by split_ifs <;> omega
    rw [hcons] at h1 ⊢
    have hstep := count_record (s := s) (k := k') h0 (by omega)
    have hrest := count_recordAll k (s.record k') ks (by rw [hstep]; omega) (by rw [hstep]; omega)
    show ((s.record k').recordAll ks).count k = _
    rw [hrest, hstep]
    omega

end CacheStats

/-- One identifier looked up: by `GetAd` or in a batch, and whether an ad came back. -/
structure Lookup where
  batch : Bool
  answered : Bool
deriving DecidableEq, Repr

/-- The identifiers a call looks up: one for `GetAd`, each one handed to `GetAdBatch` or
`PrefetchAds`. -/
def CacheOp.lookupCount : CacheOp → Nat
  | .getAd _ => 1
  | .getAdBatch adIDs => adIDs.length
  | .prefetchAds adIDs _ => adIDs.length
  | _ => 0

namespace HighPerformanceCache

/-! ## The counters each call records -/

/-- The counters `GetAd` records, in order: an L1 hit; or, with L1 on, an L1 miss, then with
L2 on an L2 hit or an L2 miss, and a DB hit for every read that found no ad. -/
def getAdRecords (c : HighPerformanceCache) (adID : AdID) (now : Int) : List Counter :=
  let key := "ad:" ++ adID.value
  match (c.readL1 key now).1 with
  | some _ => [.l1Hits]
  | none =>
    (if c.config.enableL1 then [.l1Misses] else []) ++
      if c.config.enableL2 then
        match (c.l2.get key now).bind unmarshalAd with
        | some _ => [.l2Hits]
        | none => [.l2Misses, .dbHits]
      else [.dbHits]

/-- The counters `GetAdBatch` records.  The L1 loop records an L1 hit with each ad it
appends to the ads found and an L1 miss with each identifier it appends to the L1 misses;
the L2 loop records an L2 hit with each ad it appends and an L2 miss with each identifier
it reports missing.  No DB hit. -/
def getAdBatchRecords (c : HighPerformanceCache) (adIDs : List AdID) (now : Int) : List Counter :=
  let p := c.l1Pass adIDs now
  let r := (c.getAdBatch adIDs now).1
  (if c.config.enableL1 then
    List.replicate p.1.length .l1Hits ++ List.replicate p.2.1.length .l1Misses else []) ++
  if c.config.enableL2 ∧ p.2.1 ≠ [] then
    List.replicate (r.1.length - p.1.length) .l2Hits ++ List.replicate r.2.length .l2Misses
  else []

/-- The counters one call records. -/
def records (c : HighPerformanceCache) : Int × CacheOp → List Counter
  | (now, .getAd adID) => c.getAdRecords adID now
  | (now, .getAdBatch adIDs) => c.getAdBatchRecords adIDs now
  | (now, .prefetchAds adIDs _) => if adIDs.isEmpty then [] else c.getAdBatchRecords adIDs now
  | _ => []

/-- The counters a run records, call after call. -/
def runRecords (bulk : BulkConfig) (c : HighPerformanceCache) : List (Int × CacheOp) → List Counter
  | [] => []
  | o :: os => c.records o ++ (c.step bulk o).runRecords bulk os

/-! ## The lookups of a run -/

/-- The lookups of a batch answer: one answered per ad found, one not per identifier
missing. -/
def batchLookups (r : List Ad × List AdID) : List Lookup :=
  r.1.map (fun _ => ⟨true, true⟩) ++ r.2.map fun _ => ⟨true, false⟩

/-- The lookups of one call, read off its answer. -/
def lookups (c : HighPerformanceCache) : Int × CacheOp → List Lookup
  | (now, .getAd adID) => [⟨false, (c.getAd adID now).1.isOk⟩]
  | (now, .getAdBatch adIDs) => batchLookups (c.getAdBatch adIDs now).1
  | (now, .prefetchAds adIDs _) =>
    if adIDs.isEmpty then [] else batchLookups (c.getAdBatch adIDs now).1
  | _ => []

/-- The lookups of a run, call after call. -/
def runLookups (bulk : BulkConfig) (c : HighPerformanceCache) : List (Int × CacheOp) → List Lookup
  | [] => []
  | o :: os => c.lookups o ++ (c.step bulk o).runLookups bulk os

end HighPerformanceCache

/-! ## What the counters account for -/

/-- What a list of recorded counters says of the `n` lookups of a log, under a
configuration: the log has an entry per lookup; the L1 and L2 hits are the lookups answered
and the DB hits the failed `GetAd` calls; with L1 on each lookup is one L1 hit or miss, and
with L2 on each lookup L1 did not answer is one L2 hit or miss; a level that is off records
nothing. -/
structure Accounts (config : CacheConfig) (n : Nat) (log : List Lookup) (t : List Counter) :
    Prop where
  length : log.length = n
  hits : t.count .l1Hits + t.count .l2Hits = log.countP (·.answered)
  dbHits : t.count .dbHits = log.countP fun l => !l.batch && !l.answered
  l1 : t.count .l1Hits + t.count .l1Misses = if config.enableL1 then n else 0
  l2 : t.count .l2Hits + t.count .l2Misses =
    if config.enableL2 then (if config.enableL1 then t.count .l1Misses else n) else 0

namespace Accounts

variable {config : CacheConfig}

theorem nil : Accounts config 0 [] [] := ⟨rfl, rfl, rfl, by simp, by simp⟩

/-- Each clause adds up over consecutive calls. -/
theorem append {n n' : Nat} {log log' : List Lookup} {t t' : List Counter}
    (h : Accounts config n log t) (h' : Accounts config n' log' t') :
    Accounts config (n + n') (log ++ log') (t ++ t') where
  length := by rw [List.length_append, h.length, h'.length]
  hits := by simp only [List.count_append, List.countP_append, ← h.hits, ← h'.hits]; omega
  dbHits := by simp only [List.count_append, List.countP_append, h.dbHits, h'.dbHits]
  l1 := by
    have := h.l1; have := h'.l1
    simp only [List.count_append]
    split_ifs at * <;> omega
  l2 := by
    have := h.l2; have := h'.l2
    simp only [List.count_append]
    split_ifs at * <;> omega

/-- No counter is recorded more often than there are lookups. -/
theorem count_le {n : Nat} {log : List Lookup} {t : List Counter} (h : Accounts config n log t)
    (k : Counter) : t.count k ≤ n := by
  have hans : log.countP (·.answered) ≤ log.length := List.countP_le_length _
  have hdb : (log.countP fun l => !l.batch && !l.answered) ≤ log.length := List.countP_le_length _
  have h1 := h.l1
  have h2 := h.l2
  have := h.hits
  have := h.dbHits
  have := h.length
  cases k <;> split_ifs at h1 h2 <;> omega

end Accounts

namespace HighPerformanceCache

/-- `GetAd` records what its answer and the levels that are on account for. -/
theorem getAdRecords_accounts (c : HighPerformanceCache) (adID : AdID) (now : Int) :
    Accounts c.config 1 [⟨false, (c.getAd adID now).1.isOk⟩] (c.getAdRecords adID now) := by
  rw [getAd_isOk]
  unfold getAdRecords HighPerformanceCache.find readL2
  cases h : (c.readL1 ("ad:" ++ adID.value) now).1 with
  | some a =>
    have hL1 : c.config.enableL1 = true := by
      by_contra hL1
      simp [readL1_fst, hL1] at h
    constructor <;> simp [h, hL1]
  | none =>
    cases hL1 : c.config.enableL1 <;> cases hL2 : c.config.enableL2 <;>
      cases hd : (c.l2.get ("ad:" ++ adID.value) now).bind unmarshalAd <;> constructor <;>
      simp [h, hL1, hL2, hd]

/-- With L1 off the L1 loop finds nothing and misses every identifier. -/
theorem l1Pass_of_disabled (c : HighPerformanceCache) (adIDs : List AdID) (now : Int)
    (hL1 : c.config.enableL1 = false) : c.l1Pass adIDs now = ([], adIDs, c) := by
  simp [l1Pass, hL1]

/-- `GetAdBatch` as its two loops: the L1 pass, then, with L2 on and an L1 miss, what L2
decodes of the misses appended to the ads found, and the misses L2 does not decode. -/
theorem getAdBatch_fst (c : HighPerformanceCache) (adIDs : List AdID) (now : Int) :
    (c.getAdBatch adIDs now).1 = if c.config.enableL2 ∧ (c.l1Pass adIDs now).2.1 ≠ [] then
      ((c.l1Pass adIDs now).1 ++ (c.l1Pass adIDs now).2.1.filterMap
          (fun adID => (c.l2.get ("ad:" ++ adID.value) now).bind unmarshalAd),
        (c.l1Pass adIDs now).2.1.filter
          fun adID => ((c.l2.get ("ad:" ++ adID.value) now).bind unmarshalAd).isNone)
    else ((c.l1Pass adIDs now).1, (c.l1Pass adIDs now).2.1) := by
  have hl2 := (l1Pass_spec now c adIDs).2.2.2.1
  obtain ⟨h₁, h₂⟩ := foldl_l2Turn now (c.l1Pass adIDs now).2.2.l2 (c.l1Pass adIDs now).2.1
    (c.l1Pass adIDs now).1 [] (c.l1Pass adIDs now).2.2
  rw [hl2] at h₁ h₂
  rw [List.nil_append] at h₂
  simp only [getAdBatch, hl2]
  split_ifs
  · exact Prod.ext h₁ h₂
  · rfl

/-- What `f` reads and what it misses make up the list. -/
theorem length_filterMap_add_filter_isNone {α β : Type} (f : α → Option β) (l : List α) :
    (l.filterMap f).length + (l.filter fun x => (f x).isNone).length = l.length := by
  rw [List.length_filterMap_eq_countP, ← List.countP_eq_length_filter,
    List.length_eq_countP_add_countP (fun x => (f x).isSome) l]
  congr 1
  exact List.countP_congr fun x _ => by cases f x <;> simp

/-- The L1 loop finds or misses each identifier once. -/
theorem l1Pass_length (c : HighPerformanceCache) (adIDs : List AdID) (now : Int) :
    (c.l1Pass adIDs now).1.length + (c.l1Pass adIDs now).2.1.length = adIDs.length := by
  obtain ⟨h₁, h₂, -⟩ := l1Pass_spec now c adIDs
  rw [h₁, h₂]
  exact length_filterMap_add_filter_isNone _ adIDs

/-- `GetAdBatch` records what its answer and the levels that are on account for. -/
theorem getAdBatchRecords_accounts (c : HighPerformanceCache) (adIDs : List AdID) (now : Int) :
    Accounts c.config adIDs.length (batchLookups (c.getAdBatch adIDs now).1)
      (c.getAdBatchRecords adIDs now) := by
  have hlen := l1Pass_length c adIDs now
  have hsplit := length_filterMap_add_filter_isNone
    (fun adID : AdID => (c.l2.get ("ad:" ++ adID.value) now).bind unmarshalAd) (c.l1Pass adIDs now).2.1
  unfold getAdBatchRecords batchLookups
  rw [getAdBatch_fst]
  cases hL1 : c.config.enableL1
  · rw [l1Pass_of_disabled c adIDs now hL1] at hsplit ⊢
    cases hL2 : c.config.enableL2 <;> by_cases hnil : adIDs = [] <;> constructor <;>
      simp [hL1, hL2, hnil, List.count_replicate, List.countP_eq_length_filter] at hsplit ⊢
    all_goals omega
  · generalize c.l1Pass adIDs now = p at hlen hsplit ⊢
    obtain ⟨found, miss, d⟩ := p
    cases hL2 : c.config.enableL2 <;> by_cases hmiss : miss = [] <;> constructor <;>
      simp [hL1, hL2, hmiss, List.count_replicate, List.countP_eq_length_filter] at hlen hsplit ⊢ <;>
      omega

/-! ## Over whole runs -/

/-- Each call records what its answer and the levels that are on account for. -/
theorem records_accounts (c : HighPerformanceCache) (o : Int × CacheOp) :
    Accounts c.config o.2.lookupCount (c.lookups o) (c.records o) := by
  obtain ⟨now, o⟩ := o
  cases o with
  | getAd adID => exact c.getAdRecords_accounts adID now
  | getAdBatch adIDs => exact c.getAdBatchRecords_accounts adIDs now
  | prefetchAds adIDs loader =>
    simp only [records, lookups, CacheOp.lookupCount]
    split_ifs with h
    · rw [List.isEmpty_iff.mp h]
      exact Accounts.nil
    · exact c.getAdBatchRecords_accounts adIDs now
  | setAd | setAdBatch | deleteAd | invalidatePattern | warmupCache | cleanupExpired =>
    exact Accounts.nil

/-- The run lemma: the accounts of the calls add up along the run, whose configuration
stays. -/
theorem runRecords_accounts (bulk : BulkConfig) :
    ∀ (c : HighPerformanceCache) (ops : List (Int × CacheOp)),
      Accounts c.config (ops.map fun o => o.2.lookupCount).sum (c.runLookups bulk ops)
        (c.runRecords bulk ops)
  | _, [] => Accounts.nil
  | c, o :: os => by
    have h := runRecords_accounts bulk (c.step bulk o) os
    rw [(step_moves bulk c o).1] at h
    exact (c.records_accounts o).append h

/-- After `ResetStats`, along a run of fewer than `2^63` lookups no `int64` counter wraps:
each holds the number of times the run records it. -/
theorem runRecords_counters (bulk : BulkConfig) (c : HighPerformanceCache)
    (ops : List (Int × CacheOp)) (hn : (ops.map fun o => o.2.lookupCount).sum < 2 ^ 63)
    (k : Counter) :
    (CacheStats.resetStats.recordAll (c.runRecords bulk ops)).count k =
      (c.runRecords bulk ops).count k := by
  have hk := (runRecords_accounts bulk c ops).count_le k
  rw [CacheStats.count_recordAll k _ _ le_rfl (by simp only [CacheStats.resetStats]; omega)]
  simp [CacheStats.resetStats]

/-- Over every run from every cache, the counters the calls record account for the lookups
of the run: one log entry per identifier the calls were handed, the L1 and L2 hits the
lookups answered, the DB hits the `GetAd` calls that failed, each lookup one L1 hit or miss
with L1 on, and each lookup L1 did not answer one L2 hit or miss with L2 on.  After
`ResetStats`, along a run of fewer than `2^63` lookups, the `int64` counters hold exactly
these numbers. -/
theorem run_accounts (bulk : BulkConfig) (c : HighPerformanceCache) (ops : List (Int × CacheOp)) :
    Accounts c.config (ops.map fun o => o.2.lookupCount).sum (c.runLookups bulk ops)
        (c.runRecords bulk ops) ∧
      ((ops.map fun o => o.2.lookupCount).sum < 2 ^ 63 → ∀ k,
        (CacheStats.resetStats.recordAll (c.runRecords bulk ops)).count k =
          (c.runRecords bulk ops).count k) :=
  ⟨runRecords_accounts bulk c ops, runRecords_counters bulk c ops⟩

end HighPerformanceCache

/-! ## The hit ratio -/

namespace Binary64

/-- A value in `[0, 1]` rounds into `[0, 1]`: both ends are on its grid. -/
theorem roundDouble_mem_unit {x : ℚ} (h0 : 0 ≤ x) (h1 : x ≤ 1) :
    0 ≤ roundDouble x ∧ roundDouble x ≤ 1 := by
  have hq : ulpExponent x ≤ 0 := by
    have := ulpExponent_le (x := x) (k := 1) (by rw [abs_of_nonneg h0]; norm_num; linarith)
      (by norm_num)
    omega
  have hgrid : ((1 * 2 ^ (-ulpExponent x).toNat : ℤ) : ℚ) * 2 ^ ulpExponent x = 1 := by
    rw [← intCast_div_zpow hq 1, div_mul_cancel₀ _ (zpow_ne_zero _ two_ne_zero), Int.cast_one]
  have hhi := roundDouble_le (x := x) (b := 1 * 2 ^ (-ulpExponent x).toNat) (by rw [hgrid]; exact h1)
  rw [hgrid] at hhi
  exact ⟨by simpa using le_roundDouble (x := x) (a := 0) (by simpa using h0), hhi⟩

end Binary64

namespace CacheStats

open Binary64

/-- With `a` hits of `a + f` requests, fewer than `2^53`, `CalculateHitRatio` is `a / (a + f)`
rounded once to a double, in `[0, 1]`. -/
theorem calculateHitRatio_of_counts (s : CacheStats) {a f : ℕ}
    (ha : s.count .l1Hits + s.count .l2Hits = a) (hf : s.count .dbHits = f) (hn : a + f < 2 ^ 53) :
    s.calculateHitRatio = (if a + f = 0 then 0 else roundDouble ((a : ℚ) / (a + f))) ∧
      0 ≤ s.calculateHitRatio ∧ s.calculateHitRatio ≤ 1 := by
  have hexact : ∀ m : ℕ, m < 2 ^ 53 → ofInt m = m := fun m hm =>
    roundDouble_intCast (by rw [abs_of_nonneg (by positivity)]; exact_mod_cast hm)
  have heq : s.calculateHitRatio = if a + f = 0 then 0 else roundDouble ((a : ℚ) / (a + f)) := by
    have hsum : (a : ℤ) + f = ((a + f : ℕ) : ℤ) := by push_cast; rfl
    have hwa : Int.bmod (a : ℤ) (2 ^ 64) = a := bmod_of_int64 (by omega) (by omega)
    have hwaf : Int.bmod ((a : ℤ) + f) (2 ^ 64) = a + f := bmod_of_int64 (by omega) (by omega)
    simp only [calculateHitRatio, div, ha, hf, hwa, hwaf]
    rw [hsum, hexact a (by omega), hexact _ hn]
    simp only [Nat.cast_eq_zero]
    push_cast
    rfl
  refine ⟨heq, ?_⟩
  rw [heq]
  split_ifs with h0
  · exact ⟨le_rfl, zero_le_one⟩
  · exact roundDouble_mem_unit (by positivity)
      (div_le_one_of_le₀ (by simp) (by positivity))

end CacheStats

namespace HighPerformanceCache

/-- After `ResetStats`, along any run of fewer than `2^53` lookups, `CalculateHitRatio` is
the lookups answered over the lookups answered and the `GetAd` calls that failed, rounded
once to a double, and lies in `[0, 1]`.  A lookup a batch misses counts in neither. -/
theorem hitRatio_of_run (bulk : BulkConfig) (c : HighPerformanceCache) (ops : List (Int × CacheOp))
    (hn : (ops.map fun o => o.2.lookupCount).sum < 2 ^ 53) :
    let answered := (c.runLookups bulk ops).countP (·.answered)
    let failed := (c.runLookups bulk ops).countP fun l => !l.batch && !l.answered
    let ratio := (CacheStats.resetStats.recordAll (c.runRecords bulk ops)).calculateHitRatio
    ratio = (if answered + failed = 0 then 0
      else Binary64.roundDouble ((answered : ℚ) / (answered + failed))) ∧ 0 ≤ ratio ∧ ratio ≤ 1 := by
  intro answered failed ratio
  have h := runRecords_accounts bulk c ops
  have hle : answered + failed ≤ (c.runLookups bulk ops).length := by
    rw [List.length_eq_countP_add_countP (·.answered)]
    exact Nat.add_le_add_left (List.countP_mono_left fun l _ hl => by simp at hl ⊢; exact hl.2) _
  have hcount := runRecords_counters bulk c ops (by omega)
  exact CacheStats.calculateHitRatio_of_counts _
    (by rw [hcount, hcount]; exact_mod_cast h.hits) (by rw [hcount]; exact_mod_cast h.dbHits)
    (by rw [h.length] at hle; omega)

/-- An ad set, read back, then a batch that misses another identifier: the ratio is `1`, the
batch's miss counted nowhere. -/
theorem hitRatio_of_run_at_sample :
    let c := HighPerformanceCache.new StringKeys.empty none
    let a : Ad := ⟨⟨"123e4567-e89b-12d3-a456-426614174000"⟩, "Summer sale", "RPG", ["all"], 3,
      300000000000, .queued, 0, none, none, none, 1⟩
    let ops : List (Int × CacheOp) := [(0, .setAd a), (1, .getAd a.id), (1, .getAdBatch [⟨"b"⟩])]
    (ops.map fun o => o.2.lookupCount).sum < 2 ^ 53 ∧
      (CacheStats.resetStats.recordAll (c.runRecords defaultBulkConfig ops)).calculateHitRatio = 1 := by
  intro c a ops
  have h := hitRatio_of_run defaultBulkConfig c ops (by decide)
  have h1 : (c.runLookups defaultBulkConfig ops).countP (·.answered) = 1 := by decide
  have h2 : (c.runLookups defaultBulkConfig ops).countP (fun l => !l.batch && !l.answered) = 0 := by
    decide
  refine ⟨by decide, h.1.trans ?_⟩
  simp only [h1, h2]
  simpa using Binary64.roundDouble_intCast (n := 1) (by norm_num)

end HighPerformanceCache

end AdQueue
