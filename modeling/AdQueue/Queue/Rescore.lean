import AdQueue.Queue.Invariants
import AdQueue.Service.Priority

/-!
# What the two rescoring methods do to each entry

`UpdatePriority` and `ApplyAntiStarvation` rewrite scores in place.  On a queue in the bands
a score is `p·10^10 + tau`, with `tau` the age part `9999999999 − t` of the enqueue second
`t`, and both methods keep `tau`.

`UpdatePriority` reads the score of the identifier in its shard and writes it back in band
`q`.  `updatePriority_keeps_enqueue_time` says what that does to every entry of every shard,
that a missing identifier is an error that writes nothing, and that a second identical call
writes nothing more: it reads back the score it would write, and `ZADD` of a member's own
score is no change (`SortedSet.zadd_self`).

`ApplyAntiStarvation` reads each shard once and writes back, member by member, the score
`boostedScore` gives, if any.  The members of one read are distinct and each is written
once, and a shard's pass touches no other shard, so after the whole pass every member scores
`boostOf` of its score before it, in the shards the loop visits
(`zscore_applyAntiStarvation`).  On the band form (`boostOf_band`): an entry below band `5`
whose age passes `MaxWaitTime` moves up one band per five minutes of its whole age, up to
`5`, and every other entry keeps its score.  `applyAntiStarvation_raises_bands` draws the
monotonicity from this; `applyAntiStarvation_boosts_by_age` compares it with the rule of
`Ad.calculateEffectivePriority`, which counts only the minutes past `MaxWaitTime`.

The ad processor calls `ApplyAntiStarvation` every thirty seconds (`antiStarvationRun`).
Since each pass adds the bands of the whole age again, the passes compound
(`antiStarvationRun_compounds`): with a `MaxWaitTime` of at least five minutes, every tick
past it raises a waiting entry by at least one band, until band `5`.
-/

namespace AdQueue

namespace RedisQueueManager

/-! ## UpdatePriority -/

/-- A new band for a score that is not negative keeps its age part. -/
theorem timestampPart_rescore {q s : Int} (hq : 0 ≤ q) (hs : 0 ≤ s) :
    timestampPart (q * 10000000000 + timestampPart s) = timestampPart s := by
  have hd : decodePriority s = s / 10000000000 := Int.tdiv_eq_ediv hs (by decide)
  have ht : 0 ≤ timestampPart s ∧ timestampPart s < 10000000000 := by
    rw [timestampPart, hd]
    omega
  exact timestampPart_band hq ht.1 ht.2

/-- `UpdatePriority` twice with the same priority is `UpdatePriority` once, when the score it
reads is not negative. -/
theorem updatePriority_twice (qm : RedisQueueManager) (db : Shards) (adID : AdID) {q : Int}
    (hq : 0 ≤ q) (hs : ∀ s, (db (qm.getShardKey adID)).zscore adID.value = some s → 0 ≤ s) :
    qm.updatePriority (qm.updatePriority db adID q).2 adID q = qm.updatePriority db adID q := by
  cases h : (db (qm.getShardKey adID)).zscore adID.value with
  | none => simp only [updatePriority, h]
  | some s =>
    have hread : ((db.zadd (qm.getShardKey adID) adID.value (q * 10000000000 + timestampPart s))
        (qm.getShardKey adID)).zscore adID.value = some (q * 10000000000 + timestampPart s) := by
      simp [Shards.zadd, SortedSet.zscore_zadd]
    simp only [updatePriority, h, hread, timestampPart_rescore hq (hs s h)]
    rw [Shards.zadd_self hread]

/-- `UpdatePriority` on a queue in the bands, to a priority `q` in `1 .. 5`: the entry
`p·10^10 + tau` of the identifier in its shard becomes `q·10^10 + tau`; every other member of
every shard keeps its score; an identifier without an entry is an error that changes
nothing; and calling it again with `q` changes nothing more. -/
theorem updatePriority_keeps_enqueue_time (qm : RedisQueueManager) {db : Shards}
    (hdb : Banded db) (adID : AdID) {q : Int} (hq : 1 ≤ q ∧ q ≤ 5) :
    (∀ p tau, 0 ≤ tau → tau < 10000000000 →
      (db (qm.getShardKey adID)).zscore adID.value = some (p * 10000000000 + tau) →
        (qm.updatePriority db adID q).1 = .ok () ∧
          ((qm.updatePriority db adID q).2 (qm.getShardKey adID)).zscore adID.value =
            some (q * 10000000000 + tau)) ∧
      (∀ i m, i ≠ qm.getShardKey adID ∨ m ≠ adID.value →
        ((qm.updatePriority db adID q).2 i).zscore m = (db i).zscore m) ∧
      ((db (qm.getShardKey adID)).zscore adID.value = none →
        qm.updatePriority db adID q = (.error ("ad not found in queue: " ++ adID.value), db)) ∧
      qm.updatePriority (qm.updatePriority db adID q).2 adID q = qm.updatePriority db adID q := by
  have hband : ∀ i m s, (db i).zscore m = some s → InBands s := fun i m s hs =>
    hdb i _ (SortedSet.zscore_eq_some.mp hs)
  refine ⟨fun p tau ht0 ht1 hs => ?_, fun i m hne => ?_, fun hs => ?_, ?_⟩
  · have hp : 0 ≤ p := by have := hband _ _ _ hs; unfold InBands at this; omega
    refine ⟨(AdService.updatePriority_ok_iff qm db adID q).mpr (by rw [hs]; rfl), ?_⟩
    rw [AdService.zscore_updatePriority, if_pos ⟨rfl, rfl⟩, hs, Option.map_some',
      timestampPart_band hp ht0 ht1]
  · rw [AdService.zscore_updatePriority, if_neg (by tauto)]
  · simp only [updatePriority, hs]
  · exact updatePriority_twice qm db adID (by omega) fun s hs => by
      have := hband _ _ _ hs; unfold InBands at this; omega

/-- An ad enqueued at priority `3` in Unix second `1700000000`, moved to priority `5`. -/
theorem updatePriority_keeps_enqueue_time_at_sample :
    let qm : RedisQueueManager := ⟨⟨true, 300000000000, 2, 10, 60000000000⟩, 2⟩
    let adID : AdID := ⟨"123e4567-e89b-12d3-a456-426614174000"⟩
    let db := Shards.empty.zadd (qm.getShardKey adID) adID.value (3 * 10000000000 + 8299999999)
    (qm.updatePriority db adID 5).1 = .ok () ∧
      ((qm.updatePriority db adID 5).2 (qm.getShardKey adID)).zscore adID.value =
        some (5 * 10000000000 + 8299999999) ∧
      qm.updatePriority (qm.updatePriority db adID 5).2 adID 5 = qm.updatePriority db adID 5 :=
  have h := updatePriority_keeps_enqueue_time _
    (AllEntries.empty.zadd (show InBands (3 * 10000000000 + 8299999999) by decide)) _
    (show 1 ≤ (5 : Int) ∧ (5 : Int) ≤ 5 by decide)
  ⟨(h.1 3 8299999999 (by decide) (by decide) (by simp [Shards.zadd, SortedSet.zscore_zadd])).1,
    (h.1 3 8299999999 (by decide) (by decide) (by simp [Shards.zadd, SortedSet.zscore_zadd])).2,
    h.2.2.2⟩

/-! ## ApplyAntiStarvation -/

/-- The score an entry has after a pass at clock `now`: its boost, or itself. -/
def boostOf (cfg : QueueConfig) (now score : Int) : Int := (boostedScore cfg now score).getD score

/-- The age a pass reads off an age part `tau`: the time since Unix second
`9999999999 − tau`. -/
def entryAge (now tau : Int) : Int := timeSub now ((9999999999 - tau) * 1000000000)

/-- One entry of the pass, on a member that holds the score the pass read. -/
theorem zscore_boostEntry (cfg : QueueConfig) (now : Int) {i : Nat} {db : Shards} {z : Z}
    (hz : (db i).zscore z.member = some z.score) (j : Nat) (m : String) :
    ((boostEntry cfg now i db z) j).zscore m =
      if j = i ∧ m = z.member then some (boostOf cfg now z.score) else (db j).zscore m := by
  unfold boostEntry boostOf
  cases hb : boostedScore cfg now z.score with
  | none =>
    split_ifs with h
    · obtain ⟨rfl, rfl⟩ := h
      exact hz
    · rfl
  | some s =>
    by_cases hj : j = i
    · subst hj
      simp only [Shards.zadd, Shards.set_same, SortedSet.zscore_zadd, true_and, Option.getD_some]
    · simp [Shards.zadd, Shards.set_other _ _ hj, hj]

/-- The loop over one read of a shard: each member read, and no other, takes its boost. -/
theorem zscore_foldl_boostEntry (cfg : QueueConfig) (now : Int) (i : Nat) :
    ∀ (l : List Z) (db : Shards), (l.map Z.member).Nodup →
      (∀ z ∈ l, (db i).zscore z.member = some z.score) → ∀ j m,
        ((l.foldl (boostEntry cfg now i) db) j).zscore m =
          if j = i ∧ m ∈ l.map Z.member then ((db j).zscore m).map (boostOf cfg now)
          else (db j).zscore m
  | [], db, _, _, j, m => by simp
  | z :: l, db, hnd, hl, j, m => by
    rw [List.map_cons, List.nodup_cons] at hnd
    have hz := hl z (List.mem_cons_self _ _)
    have hrest : ∀ y ∈ l, ((boostEntry cfg now i db z) i).zscore y.member = some y.score :=
      fun y hy => by
        have hyz : y.member ≠ z.member := fun h => hnd.1 (h ▸ List.mem_map_of_mem _ hy)
        rw [zscore_boostEntry cfg now hz, if_neg fun h => hyz h.2]
        exact hl y (List.mem_cons_of_mem _ hy)
    rw [List.foldl_cons, zscore_foldl_boostEntry cfg now i l _ hnd.2 hrest,
      zscore_boostEntry cfg now hz]
    by_cases hj : j = i
    · subst hj
      by_cases hm : m = z.member
      · subst hm
        simp [hnd.1, hz]
      · simp [hm]
    · simp [hj]

/-- One shard of the pass: every member of that shard takes its boost. -/
theorem zscore_boostShard (cfg : QueueConfig) (now : Int) (db : Shards) (i j : Nat)
    (m : String) :
    ((boostShard cfg now db i) j).zscore m =
      if j = i then ((db j).zscore m).map (boostOf cfg now) else (db j).zscore m := by
  have hperm : (db i).zrangeAll.Perm (db i).entries :=
    (List.reverse_perm _).trans (db i).revSorted_perm
  have hl : ∀ z ∈ (db i).zrangeAll, (db i).zscore z.member = some z.score := fun z hz =>
    SortedSet.zscore_eq_some.mpr (hperm.mem_iff.mp hz)
  rw [boostShard, zscore_foldl_boostEntry cfg now i _ db ((hperm.map _).nodup_iff.mpr (db i).nodup)
    hl]
  by_cases hj : j = i
  · subst hj
    by_cases hm : m ∈ (db j).zrangeAll.map Z.member
    · simp [hm]
    · have hnone : (db j).zscore m = none :=
        SortedSet.zscore_eq_none.mpr fun h => hm ((hperm.map Z.member).mem_iff.mpr h)
      simp [hm, hnone]
  · simp [hj]

/-- The loop over distinct shards: each shard of the list, and no other, takes its boosts. -/
theorem zscore_foldl_boostShard (cfg : QueueConfig) (now : Int) :
    ∀ (l : List Nat) (db : Shards), l.Nodup → ∀ j m,
      ((l.foldl (boostShard cfg now) db) j).zscore m =
        if j ∈ l then ((db j).zscore m).map (boostOf cfg now) else (db j).zscore m
  | [], db, _, j, m => by simp
  | i :: l, db, hnd, j, m => by
    rw [List.nodup_cons] at hnd
    rw [List.foldl_cons, zscore_foldl_boostShard cfg now l _ hnd.2, zscore_boostShard]
    by_cases hj : j = i
    · subst hj
      simp [hnd.1]
    · by_cases hjl : j ∈ l <;> simp [hj, hjl]

/-- After a pass every member of a shard the loop visits scores `boostOf` of its score, and
every other shard is as it was. -/
theorem zscore_applyAntiStarvation (qm : RedisQueueManager) (db : Shards) (now : Int) (j : Nat)
    (m : String) :
    ((qm.applyAntiStarvation db now) j).zscore m =
      if qm.config.antiStarvationEnabled ∧ j < qm.shardCount then
        ((db j).zscore m).map (boostOf qm.config now)
      else (db j).zscore m := by
  unfold applyAntiStarvation
  cases qm.config.antiStarvationEnabled
  · simp
  · simp [zscore_foldl_boostShard _ _ _ _ (List.nodup_range _)]

/-- The rewrite of one entry `p·10^10 + tau`: past `MaxWaitTime` and below band `5`, one band
per five minutes of age, up to `5`; otherwise no change. -/
theorem boostOf_band {cfg : QueueConfig} {now p tau : Int} (hp : 0 ≤ p)
    (ht : 0 ≤ tau ∧ tau < 10000000000) :
    boostOf cfg now (p * 10000000000 + tau) =
      if cfg.maxWaitTime < entryAge now tau ∧ p < 5 then
        min (p + (entryAge now tau).tdiv 300000000000) 5 * 10000000000 + tau
      else p * 10000000000 + tau := by
  simp only [boostOf, boostedScore, decodePriority_band hp ht.1 ht.2,
    timestampPart_band hp ht.1 ht.2, entryAge, Priority.high]
  split_ifs <;> rfl

/-- One sequential pass over a queue in the bands, with a `MaxWaitTime` that is not
negative: with anti-starvation off it changes nothing; otherwise every shard keeps its
members, and each entry `p·10^10 + tau` becomes `p'·10^10 + tau` with `p ≤ p' ≤ 5`, where
`p' = p` at band `5` and for an entry not older than `MaxWaitTime`. -/
theorem applyAntiStarvation_raises_bands (qm : RedisQueueManager) {db : Shards} (hdb : Banded db)
    (now : Int) (hw : 0 ≤ qm.config.maxWaitTime) :
    (qm.config.antiStarvationEnabled = false → qm.applyAntiStarvation db now = db) ∧
      ∀ i m, ((qm.applyAntiStarvation db now i).zscore m).isSome = ((db i).zscore m).isSome ∧
        ∀ p tau, 0 ≤ tau → tau < 10000000000 → (db i).zscore m = some (p * 10000000000 + tau) →
          ∃ p', (qm.applyAntiStarvation db now i).zscore m = some (p' * 10000000000 + tau) ∧
            p ≤ p' ∧ p' ≤ 5 ∧ (p = 5 ∨ entryAge now tau ≤ qm.config.maxWaitTime → p' = p) := by
  refine ⟨fun hoff => by simp [applyAntiStarvation, hoff], fun i m => ⟨?_, ?_⟩⟩
  · rw [zscore_applyAntiStarvation]
    split_ifs <;> simp
  · intro p tau ht0 ht1 hs
    have hp : 1 ≤ p ∧ p ≤ 5 := by
      have : InBands (p * 10000000000 + tau) := hdb i _ (SortedSet.zscore_eq_some.mp hs)
      unfold InBands at this
      omega
    have hkeep : ∃ p', some (p * 10000000000 + tau) = some (p' * 10000000000 + tau) ∧
        p ≤ p' ∧ p' ≤ 5 ∧ (p = 5 ∨ entryAge now tau ≤ qm.config.maxWaitTime → p' = p) :=
      ⟨p, rfl, le_rfl, hp.2, fun _ => rfl⟩
    rw [zscore_applyAntiStarvation, hs]
    split_ifs
    · rw [Option.map_some', boostOf_band (by omega) ⟨ht0, ht1⟩]
      split_ifs with hb
      · have hk := Int.tdiv_nonneg (a := entryAge now tau) (b := 300000000000) (by omega)
          (by decide)
        exact ⟨_, rfl, by omega, by omega, fun h => by omega⟩
      · exact hkeep
    · exact hkeep

/-- An entry of priority `2` enqueued in Unix second `1700000000`, eleven minutes later, with
a `MaxWaitTime` of ten minutes. -/
theorem applyAntiStarvation_raises_bands_at_sample :
    let qm : RedisQueueManager := ⟨⟨true, 600000000000, 2, 10, 60000000000⟩, 2⟩
    let db := Shards.empty.zadd 0 "ad" (2 * 10000000000 + 8299999999)
    ∃ p', (qm.applyAntiStarvation db 1700000660000000000 0).zscore "ad" =
        some (p' * 10000000000 + 8299999999) ∧ 2 ≤ p' ∧ p' ≤ 5 :=
  have h := ((applyAntiStarvation_raises_bands _
    (AllEntries.empty.zadd (show InBands (2 * 10000000000 + 8299999999) by decide))
    1700000660000000000 (by decide)).2 0 "ad").2 2 8299999999 (by decide) (by decide)
    (by simp [Shards.zadd, SortedSet.zscore_zadd])
  let ⟨p', hs, h2, h5, _⟩ := h
  ⟨p', hs, h2, h5⟩

/-- An entry below band `5` whose age passes a `MaxWaitTime` of at least five minutes by
less than five minutes.  The pass moves it up by the bands of its whole age, at least one;
`calculateEffectivePriority` of a queued ad of that priority, created at that second and
with that `MaxWaitTime`, counts only the minutes past `MaxWaitTime`, and keeps it. -/
theorem applyAntiStarvation_boosts_by_age (qm : RedisQueueManager) (db : Shards) (now : Int)
    (hon : qm.config.antiStarvationEnabled = true) {i : Nat} {m : String} {p tau : Int}
    (hi : i < qm.shardCount) (hp : 1 ≤ p ∧ p < 5) (ht : 0 ≤ tau ∧ tau < 10000000000)
    (hs : (db i).zscore m = some (p * 10000000000 + tau))
    (hw : 300000000000 ≤ qm.config.maxWaitTime)
    (hage : qm.config.maxWaitTime < entryAge now tau ∧
      entryAge now tau < qm.config.maxWaitTime + 300000000000)
    (a : Ad) (ha : a.status = .queued ∧ a.processingStartedAt = none ∧ a.priority = p ∧
      a.maxWaitTime = qm.config.maxWaitTime ∧ a.createdAt = (9999999999 - tau) * 1000000000) :
    ((qm.applyAntiStarvation db now) i).zscore m =
        some (min (p + (entryAge now tau).tdiv 300000000000) 5 * 10000000000 + tau) ∧
      p < min (p + (entryAge now tau).tdiv 300000000000) 5 ∧
      a.calculateEffectivePriority now true = p := by
  obtain ⟨hq, hstart, hprio, hmax, hcreated⟩ := ha
  have hwait : a.waitTime now = entryAge now tau := by
    rw [Ad.waitTime, hstart, hcreated, entryAge]
  have hk : (entryAge now tau).tdiv 300000000000 = entryAge now tau / 300000000000 :=
    Int.tdiv_eq_ediv (by omega) (by decide)
  have hover : (durationSub (a.waitTime now) a.maxWaitTime).tdiv 300000000000 = 0 := by
    have hmaxd : entryAge now tau ≤ 2 ^ 63 - 1 :=
      max_le (by unfold minDuration; norm_num) (min_le_left _ _)
    rw [hwait, hmax, durationSub_eq (by omega) (by omega)]
    exact Int.tdiv_eq_zero_of_lt (by omega) (by omega)
  refine ⟨?_, by omega, ?_⟩
  · rw [zscore_applyAntiStarvation, if_pos ⟨hon, hi⟩, hs, Option.map_some',
      boostOf_band (by omega) ht, if_pos ⟨hage.1, hp.2⟩]
  · have hstarving : a.isStarving now = true := by
      simp [Ad.isStarving, hq, hwait, hmax, hage.1]
    rw [Ad.calculateEffectivePriority, if_neg (by simp), if_pos hstarving, hover, hprio]
    unfold Priority.high
    omega

theorem applyAntiStarvation_boosts_by_age_at_sample :
    let qm : RedisQueueManager := ⟨⟨true, 600000000000, 2, 10, 60000000000⟩, 2⟩
    let db := Shards.empty.zadd 0 "ad" 28299999999
    let a : Ad := ⟨⟨"123e4567-e89b-12d3-a456-426614174000"⟩, "Summer sale", "RPG", ["all"], 2,
      600000000000, .queued, 1700000000000000000, none, none, none, 1⟩
    let now := 1700000660000000000
    ((qm.applyAntiStarvation db now) 0).zscore "ad" =
        some (min (2 + (entryAge now 8299999999).tdiv 300000000000) 5 * 10000000000 +
          8299999999) ∧
      2 < min (2 + (entryAge now 8299999999).tdiv 300000000000) 5 ∧
      a.calculateEffectivePriority now true = 2 :=
  applyAntiStarvation_boosts_by_age _ _ _ rfl (by decide) (by decide) (by decide) (by decide)
    (by decide) (by decide) _ ⟨rfl, rfl, rfl, rfl, by decide⟩

/-! ## Passes of the ticker -/

/-- The ad processor's anti-starvation ticker: `ApplyAntiStarvation` once per tick, at the
clocks `nows`, with nothing else written between. -/
def antiStarvationRun (qm : RedisQueueManager) (db : Shards) (nows : List Int) : Shards :=
  nows.foldl qm.applyAntiStarvation db

/-- Passes compound.  Each pass adds the bands of the entry's whole age to the band it has
then, not to the band it was enqueued with, so along ticks at which the entry is older than
a `MaxWaitTime` that is not negative, an entry `p·10^10 + tau` below band `5` ends in band
`min (p + Σ ⌊age/5 min⌋) 5`. -/
theorem antiStarvationRun_compounds (qm : RedisQueueManager)
    (hon : qm.config.antiStarvationEnabled = true) (hw : 0 ≤ qm.config.maxWaitTime) {i : Nat}
    {m : String} {tau : Int} (hi : i < qm.shardCount) (ht : 0 ≤ tau ∧ tau < 10000000000)
    (nows : List Int) (hold : ∀ now ∈ nows, qm.config.maxWaitTime < entryAge now tau)
    (db : Shards) {p : Int} (hp : 0 ≤ p ∧ p ≤ 5)
    (hs : (db i).zscore m = some (p * 10000000000 + tau)) :
    ((qm.antiStarvationRun db nows) i).zscore m =
      some (min (p + (nows.map fun now => (entryAge now tau).tdiv 300000000000).sum) 5 *
        10000000000 + tau) := by
  induction nows generalizing db p with
  | nil => simp [antiStarvationRun, hs, min_eq_left hp.2]
  | cons now nows ih =>
    have hage := hold now (List.mem_cons_self _ _)
    have hb := Int.tdiv_nonneg (a := entryAge now tau) (b := 300000000000) (by omega) (by decide)
    have hstep : ((qm.applyAntiStarvation db now) i).zscore m =
        some (min (p + (entryAge now tau).tdiv 300000000000) 5 * 10000000000 + tau) := by
      rw [zscore_applyAntiStarvation, if_pos ⟨hon, hi⟩, hs, Option.map_some',
        boostOf_band hp.1 ht]
      split_ifs with hup
      · rfl
      · have : p = 5 := by omega
        subst this
        rw [min_eq_right (by omega)]
    have hrest : ∀ n ∈ nows, qm.config.maxWaitTime < entryAge n tau :=
      fun n hn => hold n (List.mem_cons_of_mem _ hn)
    have hsum : 0 ≤ (nows.map fun now => (entryAge now tau).tdiv 300000000000).sum :=
      List.sum_nonneg fun _ hx => by
        obtain ⟨n, hn, rfl⟩ := List.mem_map.mp hx
        exact Int.tdiv_nonneg (by have := hrest n hn; omega) (by decide)
    rw [antiStarvationRun, List.foldl_cons, ← antiStarvationRun, ih hrest _ (by omega) hstep,
      List.map_cons, List.sum_cons]
    congr 3
    omega

/-- An entry of priority `1` enqueued in Unix second `1700000000`, with a `MaxWaitTime` of ten
minutes: two ticks thirty seconds apart, eleven minutes on, take it to band `5`. -/
theorem antiStarvationRun_compounds_at_sample :
    let qm : RedisQueueManager := ⟨⟨true, 600000000000, 2, 10, 60000000000⟩, 2⟩
    let db := Shards.empty.zadd 0 "ad" (1 * 10000000000 + 8299999999)
    let nows := [1700000660000000000, 1700000690000000000]
    ((qm.antiStarvationRun db nows) 0).zscore "ad" =
        some (min (1 + (nows.map fun now => (entryAge now 8299999999).tdiv 300000000000).sum) 5 *
          10000000000 + 8299999999) ∧
      min (1 + (nows.map fun now => (entryAge now 8299999999).tdiv 300000000000).sum) 5 = 5 :=
  ⟨antiStarvationRun_compounds _ rfl (by decide) (by decide) (by decide) _ (by decide) _
    (by decide) (by simp [Shards.zadd, SortedSet.zscore_zadd]), by decide⟩

end RedisQueueManager

end AdQueue
