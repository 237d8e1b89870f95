import AdQueue.Queue.Clients

/-!
# What every run of the queue keeps

The shard sets reachable from empty shards by the six methods of `RedisQueueManager` that
write them, called one after another (`Call.applyAll`).  A method either removes entries or
writes one entry into one shard: `Enqueue` and `UpdatePriority` the member of an identifier
into the shard `getShardKey` names, with a score they compute, and `ApplyAntiStarvation` a
member it has just read from a shard back into that shard.  So a property of an entry at
its shard that each such write keeps holds of every entry of every reachable state
(`AllEntries`, one lemma per command and per method).

Two such properties.  Every member lies in the shard its identifier hashes to (`Placed`),
whatever the arguments of the calls (`placed_applyAll`); hence each identifier has at most
one entry, and every entry lies in a shard `0 .. n - 1`, the shards the loops of the reads
look at.  Every score is `p·10^10 + tau` with `p` in `1 .. 5` and `tau` in
`0 .. 9999999999` (`Banded`), when the calls take the arguments the service gives them
(`Call.Admissible`): priorities in `1 .. 5`, clock readings from second `0` to second
`9999999999`, and a maximum wait that is not negative (`banded_applyAll`).  On such a
queue the five bands `GetSizeByPriority` counts cover every entry once, so its counts add
up to `GetSize`.  When every enqueued identifier is one `ParseAdID` accepts, the reachable
states are the well-formed queues the reads are specified on (`applyAll_wellFormed`).

Both properties also hold when the calls' commands interleave (`run_keeps_placed_banded`):
a call in progress carries what it will still write (`Client.Keeps`), which it computed
from entries that had the property when it read them, so each step of any client keeps
the property of the shards and of every call (`SystemKeeps.step`).
-/

namespace AdQueue

namespace RedisQueueManager

/-! ## Entries at their shards -/

/-- Every entry of every shard satisfies `P` at its shard. -/
def AllEntries (P : Nat → Z → Prop) (db : Shards) : Prop :=
  ∀ i, ∀ z ∈ (db i).entries, P i z

section
variable {P : Nat → Z → Prop} {db : Shards}

theorem AllEntries.empty : AllEntries P Shards.empty := fun _ _ hz => by
  simp [Shards.empty, SortedSet.empty] at hz

/-- Each entry of `db'` is an entry of `db` at the same shard, or satisfies `P` there. -/
theorem AllEntries.of_mem (h : AllEntries P db) {db' : Shards}
    (h' : ∀ i, ∀ z ∈ (db' i).entries, z ∈ (db i).entries ∨ P i z) : AllEntries P db' :=
  fun i z hz => (h' i z hz).elim (h i z) id

theorem AllEntries.zadd (h : AllEntries P db) {i : Nat} {m : String} {s : Int}
    (hz : P i ⟨s, m⟩) : AllEntries P (db.zadd i m s) := by
  refine h.of_mem fun j z hz' => ?_
  by_cases hj : j = i
  · subst hj
    rcases SortedSet.mem_zadd.mp (by simpa [Shards.zadd] using hz') with rfl | ⟨hz', -⟩
    · exact .inr hz
    · exact .inl hz'
  · exact .inl (by simpa [Shards.zadd, hj] using hz')

theorem AllEntries.zrem (h : AllEntries P db) (i : Nat) (ms : List String) :
    AllEntries P (db.zrem i ms) := by
  refine h.of_mem fun j z hz => .inl ?_
  by_cases hj : j = i
  · subst hj
    exact (SortedSet.mem_zrem.mp (by simpa [Shards.zrem] using hz)).1
  · simpa [Shards.zrem, hj] using hz

theorem AllEntries.removeChosen (h : AllEntries P db) (rm : Nat → List String) :
    AllEntries P (removeChosen db rm) := by
  refine h.of_mem fun j z hz => .inl ?_
  unfold RedisQueueManager.removeChosen at hz
  split_ifs at hz
  · exact hz
  · exact (SortedSet.mem_zrem.mp hz).1

/-! ## What each method writes -/

theorem AllEntries.enqueue (h : AllEntries P db) (r : RedisQueueManager) (adID : AdID)
    (priority now : Int) (hz : P (r.getShardKey adID) ⟨calculateScore priority now, adID.value⟩) :
    AllEntries P (r.enqueue db adID priority now) :=
  h.zadd hz

theorem AllEntries.dequeue (h : AllEntries P db) (r : RedisQueueManager) (now : Int) :
    AllEntries P (r.dequeue db now).2 := by
  unfold RedisQueueManager.dequeue
  split
  · exact h
  · split <;> exact h.zrem _ _

theorem AllEntries.dequeueBatch (h : AllEntries P db) (r : RedisQueueManager)
    (batchSize now : Int) : AllEntries P (r.dequeueBatch db batchSize now).2 :=
  h.removeChosen _

/-- `UpdatePriority` writes the member back with a score made from the one it read. -/
theorem AllEntries.updatePriority (h : AllEntries P db) (r : RedisQueueManager) (adID : AdID)
    (q : Int) (hz : ∀ v, P (r.getShardKey adID) ⟨v, adID.value⟩ →
      P (r.getShardKey adID) ⟨q * 10000000000 + timestampPart v, adID.value⟩) :
    AllEntries P (r.updatePriority db adID q).2 := by
  unfold RedisQueueManager.updatePriority
  dsimp only
  cases hs : (db (r.getShardKey adID)).zscore adID.value with
  | none => exact h
  | some v => exact h.zadd (hz v (h _ _ (SortedSet.zscore_eq_some.mp hs)))

theorem AllEntries.remove (h : AllEntries P db) (r : RedisQueueManager) (adID : AdID) :
    AllEntries P (r.remove db adID).2 := by
  unfold RedisQueueManager.remove
  dsimp only
  split_ifs <;> exact h.zrem _ _

/-- Every boost a pass at clock `now` makes keeps `P` at the shard of the entry. -/
def BoostKeeps (P : Nat → Z → Prop) (cfg : QueueConfig) (now : Int) : Prop :=
  ∀ i z, P i z → ∀ s, boostedScore cfg now z.score = some s → P i ⟨s, z.member⟩

section
variable {cfg : QueueConfig} {now : Int} (hP : BoostKeeps P cfg now)
include hP

theorem AllEntries.boostEntry (h : AllEntries P db) {i : Nat} {z : Z} (hz : P i z) :
    AllEntries P (boostEntry cfg now i db z) := by
  unfold RedisQueueManager.boostEntry
  cases hb : boostedScore cfg now z.score with
  | none => exact h
  | some s => exact h.zadd (hP i z hz s hb)

/-- One shard of the pass writes back, into that shard, entries it read there. -/
theorem AllEntries.boostShard (h : AllEntries P db) (i : Nat) :
    AllEntries P (boostShard cfg now db i) := by
  have hread : ∀ z ∈ (db i).zrangeAll, P i z := fun z hz =>
    h i z ((db i).revSorted_perm.mem_iff.mp (List.mem_reverse.mp hz))
  exact List.foldlRecOn (motive := AllEntries P) _ _ _ h fun _ h' z hz => h'.boostEntry hP (hread z hz)

theorem AllEntries.applyAntiStarvation (h : AllEntries P db) (r : RedisQueueManager)
    (hcfg : r.config = cfg) : AllEntries P (r.applyAntiStarvation db now) := by
  unfold RedisQueueManager.applyAntiStarvation
  split_ifs
  · exact h
  · rw [hcfg]
    exact List.foldlRecOn (motive := AllEntries P) _ _ _ h fun _ h' i _ => h'.boostShard hP i

end

end

/-! ## Scores in the five bands -/

/-- A score of band `1 .. 5`: `p·10^10 + tau` with `tau` below `10^10`. -/
def InBands (score : Int) : Prop := 10000000000 ≤ score ∧ score < 60000000000

instance : DecidablePred InBands := fun _ => inferInstanceAs (Decidable (_ ∧ _))

theorem inBands_iff {score : Int} : InBands score ↔ ∃ p tau, score = p * 10000000000 + tau ∧
    1 ≤ p ∧ p ≤ 5 ∧ 0 ≤ tau ∧ tau ≤ 9999999999 := by
  unfold InBands
  constructor
  · intro h
    exact ⟨score / 10000000000, score % 10000000000, by omega, by omega, by omega, by omega,
      by omega⟩
  · rintro ⟨p, tau, rfl, h⟩
    omega

/-- What the decoding of the reads finds in a score of the bands. -/
theorem decode_of_inBands {score : Int} (h : InBands score) :
    decodePriority score = score / 10000000000 ∧ 1 ≤ decodePriority score ∧
      decodePriority score ≤ 5 ∧ 0 ≤ timestampPart score ∧ timestampPart score < 10000000000 := by
  unfold InBands at h
  have hd : decodePriority score = score / 10000000000 :=
    Int.tdiv_eq_ediv (by omega) (by decide)
  refine ⟨hd, ?_⟩
  rw [timestampPart, hd]
  omega

/-- A boost of a score in the bands, with a maximum wait that is not negative, stays in
the bands: the age is positive, so the band only rises, and it stops at `5`. -/
theorem boostedScore_inBands {cfg : QueueConfig} {now score s : Int}
    (hw : 0 ≤ cfg.maxWaitTime) (hz : InBands score) (h : boostedScore cfg now score = some s) :
    InBands s := by
  simp only [boostedScore] at h
  split_ifs at h with hb
  cases h
  obtain ⟨-, hp1, hp5, ht0, ht1⟩ := decode_of_inBands hz
  have hk := Int.tdiv_nonneg (a := timeSub now ((9999999999 - timestampPart score) * 1000000000))
    (b := 300000000000) (by omega) (by decide)
  unfold InBands Priority.high
  omega

theorem boostKeeps_inBands {cfg : QueueConfig} {now : Int} (hw : 0 ≤ cfg.maxWaitTime) :
    BoostKeeps (fun _ z => InBands z.score) cfg now :=
  fun _ _ hz _ hs => boostedScore_inBands hw hz hs

/-- `Enqueue` scores a priority in `1 .. 5`, at a clock reading from second `0` to second
`9999999999`, into the bands. -/
theorem calculateScore_inBands {priority now : Int} (hp : 1 ≤ priority ∧ priority ≤ 5)
    (ht : 0 ≤ unixSeconds now ∧ unixSeconds now ≤ 9999999999) :
    InBands (calculateScore priority now) := by
  unfold InBands calculateScore
  omega

/-- `UpdatePriority` moves a score of the bands to band `q`, for `q` in `1 .. 5`. -/
theorem rescore_inBands {q v : Int} (hq : 1 ≤ q ∧ q ≤ 5) (hv : InBands v) :
    InBands (q * 10000000000 + timestampPart v) := by
  obtain ⟨-, -, -, ht0, ht1⟩ := decode_of_inBands hv
  unfold InBands
  omega

/-- The arguments the service calls the methods with: a priority in `1 .. 5`, a clock
reading from second `0` to second `9999999999`, a maximum wait that is not negative. -/
def Call.Admissible (r : RedisQueueManager) : Call → Prop
  | .enqueue _ priority now =>
    1 ≤ priority ∧ priority ≤ 5 ∧ 0 ≤ unixSeconds now ∧ unixSeconds now ≤ 9999999999
  | .updatePriority _ newPriority => 1 ≤ newPriority ∧ newPriority ≤ 5
  | .applyAntiStarvation _ => 0 ≤ r.config.maxWaitTime
  | .dequeue _ | .dequeueBatch _ _ | .remove _ => True

instance (r : RedisQueueManager) : DecidablePred (Call.Admissible r)
  | .enqueue _ _ _ => inferInstanceAs (Decidable (_ ∧ _))
  | .updatePriority _ _ => inferInstanceAs (Decidable (_ ∧ _))
  | .applyAntiStarvation _ => inferInstanceAs (Decidable (_ ≤ _))
  | .dequeue _ | .dequeueBatch _ _ | .remove _ => isTrue trivial

/-- Every score of the queue is in the bands. -/
def Banded (db : Shards) : Prop := AllEntries (fun _ z => InBands z.score) db

theorem banded_apply {r : RedisQueueManager} {db : Shards} (h : Banded db) :
    ∀ {c : Call}, c.Admissible r → Banded (c.apply r db).2
  | .enqueue adID priority now, ⟨hp1, hp5, ht⟩ =>
    AllEntries.enqueue h r adID priority now (calculateScore_inBands ⟨hp1, hp5⟩ ht)
  | .dequeue now, _ => AllEntries.dequeue h r now
  | .dequeueBatch batchSize now, _ => AllEntries.dequeueBatch h r batchSize now
  | .updatePriority adID q, hq => AllEntries.updatePriority h r adID q fun _ => rescore_inBands hq
  | .remove adID, _ => AllEntries.remove h r adID
  | .applyAntiStarvation _, hw => AllEntries.applyAntiStarvation (boostKeeps_inBands hw) h r rfl

/-- Calls with the service's arguments keep every score in the bands. -/
theorem banded_applyAll {r : RedisQueueManager} : ∀ (cs : List Call) {db : Shards}, Banded db →
    (∀ c ∈ cs, c.Admissible r) → Banded (Call.applyAll r cs db).2
  | [], _, h, _ => h
  | c :: cs, _, h, hcs => banded_applyAll cs (banded_apply h (hcs c (List.mem_cons_self _ _)))
      fun c' hc' => hcs c' (List.mem_cons_of_mem _ hc')

/-! ## Members in their own shard -/

/-- Every member lies in the shard its identifier names. -/
def Placed (r : RedisQueueManager) (db : Shards) : Prop :=
  AllEntries (fun i z => r.getShardKey ⟨z.member⟩ = i) db

theorem placed_apply {r : RedisQueueManager} {db : Shards} (h : Placed r db) :
    ∀ c : Call, Placed r (c.apply r db).2
  | .enqueue adID priority now => AllEntries.enqueue h r adID priority now rfl
  | .dequeue now => AllEntries.dequeue h r now
  | .dequeueBatch batchSize now => AllEntries.dequeueBatch h r batchSize now
  | .updatePriority adID q => AllEntries.updatePriority h r adID q fun _ hv => hv
  | .remove adID => AllEntries.remove h r adID
  | .applyAntiStarvation _ => AllEntries.applyAntiStarvation (fun _ _ hz _ _ => hz) h r rfl

/-- Calls with any arguments keep every member in its own shard. -/
theorem placed_applyAll {r : RedisQueueManager} : ∀ (cs : List Call) {db : Shards},
    Placed r db → Placed r (Call.applyAll r cs db).2
  | [], _, h => h
  | c :: cs, _, h => placed_applyAll cs (placed_apply h c)

section
variable {r : RedisQueueManager} {db : Shards}

/-- With at least one shard, every entry of a placed queue lies in a shard the loops read. -/
theorem Placed.mem_entriesOf_range (h : Placed r db) (hn : 0 < r.shardCount) {i : Nat} {z : Z}
    (hz : z ∈ (db i).entries) : z ∈ entriesOf db (List.range r.shardCount) :=
  mem_entriesOf.mpr ⟨i, List.mem_range.mpr (h i z hz ▸ getShardKey_lt r _ hn), hz⟩

/-- Two entries of one member in a placed queue are one entry of one shard. -/
theorem Placed.unique (h : Placed r db) {i j : Nat} {z z' : Z} (hz : z ∈ (db i).entries)
    (hz' : z' ∈ (db j).entries) (hm : z.member = z'.member) : i = j ∧ z = z' := by
  obtain rfl : i = j := (h i z hz).symm.trans (by rw [hm]; exact h j z' hz')
  exact ⟨rfl, (db i).eq_of_member_eq hz hz' hm⟩

end

/-! ## Identifiers the reads can parse -/

/-- Every member is a string `ParseAdID` accepts. -/
def Parsed (db : Shards) : Prop := AllEntries (fun _ z => uuidParses z.member = true) db

/-- The call enqueues, if anything, an identifier `ParseAdID` accepts. -/
def Call.EnqueuesParsed : Call → Prop
  | .enqueue adID _ _ => uuidParses adID.value = true
  | _ => True

theorem parsed_apply {r : RedisQueueManager} {db : Shards} (h : Parsed db) :
    ∀ {c : Call}, c.EnqueuesParsed → Parsed (c.apply r db).2
  | .enqueue adID priority now, hid => AllEntries.enqueue h r adID priority now hid
  | .dequeue now, _ => AllEntries.dequeue h r now
  | .dequeueBatch batchSize now, _ => AllEntries.dequeueBatch h r batchSize now
  | .updatePriority adID q, _ => AllEntries.updatePriority h r adID q fun _ hv => hv
  | .remove adID, _ => AllEntries.remove h r adID
  | .applyAntiStarvation _, _ => AllEntries.applyAntiStarvation (fun _ _ hz _ _ => hz) h r rfl

theorem parsed_applyAll {r : RedisQueueManager} : ∀ (cs : List Call) {db : Shards}, Parsed db →
    (∀ c ∈ cs, c.EnqueuesParsed) → Parsed (Call.applyAll r cs db).2
  | [], _, h, _ => h
  | c :: cs, _, h, hcs => parsed_applyAll cs (parsed_apply h (hcs c (List.mem_cons_self _ _)))
      fun c' hc' => hcs c' (List.mem_cons_of_mem _ hc')

/-- A run that enqueues only identifiers `ParseAdID` accepts reaches a well-formed queue,
the states `Dequeue`, `DequeueBatch` and `GetNext` are specified on. -/
theorem applyAll_wellFormed (r : RedisQueueManager) {cs : List Call}
    (hcs : ∀ c ∈ cs, c.EnqueuesParsed) :
    WellFormedQueue r.shardCount (Call.applyAll r cs Shards.empty).2 := by
  have hp : Placed r (Call.applyAll r cs Shards.empty).2 := placed_applyAll cs AllEntries.empty
  exact ⟨fun i _ z hz => parsed_applyAll cs AllEntries.empty hcs i z hz,
    fun i _ j _ z hz z' hz' hm => (hp.unique hz hz' hm).1⟩

/-! ## Counting the queue -/

/-- `ZCOUNT` over band `p` counts the entries whose score floors to `p`. -/
theorem zcount_band (s : SortedSet) (p : Int) :
    s.zcount (.incl (p * 10000000000)) (.incl ((p + 1) * 10000000000 - 1)) =
      s.entries.countP fun z => z.score / 10000000000 = p := by
  unfold SortedSet.zcount
  exact List.countP_congr fun z _ => by
    simp only [ScoreBound.admitsAbove, ScoreBound.admitsBelow, Bool.and_eq_true,
      decide_eq_true_eq]
    omega

theorem countP_entriesOf (db : Shards) (f : Z → Bool) : ∀ shards : List Nat,
    (shards.map fun i => (db i).entries.countP f).sum = (entriesOf db shards).countP f
  | [] => rfl
  | i :: is => by simp [List.countP_append, countP_entriesOf db f is]

/-- `GetSize` counts every entry of the shards it reads. -/
theorem getSize_eq (r : RedisQueueManager) (db : Shards) :
    r.getSize db = (entriesOf db (List.range r.shardCount)).length := by
  rw [← List.countP_true, ← countP_entriesOf]
  simp [getSize, SortedSet.zcard]

/-- `GetSizeByPriority` counts, for each band, the entries whose score floors to it. -/
theorem getSizeByPriority_eq (r : RedisQueueManager) (db : Shards) :
    r.getSizeByPriority db = [1, 2, 3, 4, 5].map fun p =>
      (p, (entriesOf db (List.range r.shardCount)).countP fun z => z.score / 10000000000 = p) := by
  simp only [getSizeByPriority, zcount_band, countP_entriesOf]

/-- On scores in the bands, the five band counts add up to the number of entries. -/
theorem sum_band_counts : ∀ l : List Z, (∀ z ∈ l, InBands z.score) →
    (([1, 2, 3, 4, 5] : List Int).map fun p => l.countP fun z => z.score / 10000000000 = p).sum =
      l.length
  | [], _ => rfl
  | z :: l, h => by
    have ih := sum_band_counts l fun z hz => h z (List.mem_cons_of_mem _ hz)
    have hz := h z (List.mem_cons_self _ _)
    unfold InBands at hz
    simp only [List.map_cons, List.map_nil, List.sum_cons, List.sum_nil, List.countP_cons,
      List.length_cons] at ih ⊢
    have hp : z.score / 10000000000 = 1 ∨ z.score / 10000000000 = 2 ∨
        z.score / 10000000000 = 3 ∨ z.score / 10000000000 = 4 ∨ z.score / 10000000000 = 5 := by
      omega
    rcases hp with hp | hp | hp | hp | hp <;>
      simp only [hp, Int.reduceEq, decide_True, decide_False, ite_true, ite_false,
        Bool.false_eq_true] <;> omega

/-! ## Every run -/

/-- Every run of the methods from empty shards, with the service's arguments: each score
is `p·10^10 + tau` with `p` in `1 .. 5` and `tau` in `0 .. 9999999999`, below `2^53`; the
counts of `GetSizeByPriority` add up to `GetSize`, and the count of band `p` is the number
of entries the reads decode to priority `p`. -/
theorem applyAll_scores_in_bands (r : RedisQueueManager) (cs : List Call)
    (hcs : ∀ c ∈ cs, c.Admissible r) :
    let db := (Call.applyAll r cs Shards.empty).2
    (∀ i, ∀ z ∈ (db i).entries, z.score < 2 ^ 53 ∧ ∃ p tau, z.score = p * 10000000000 + tau ∧
      1 ≤ p ∧ p ≤ 5 ∧ 0 ≤ tau ∧ tau ≤ 9999999999) ∧
    ((r.getSizeByPriority db).map Prod.snd).sum = r.getSize db ∧
    r.getSizeByPriority db = [1, 2, 3, 4, 5].map fun p =>
      (p, (entriesOf db (List.range r.shardCount)).countP fun z => decodePriority z.score = p) := by
  intro db
  have hb : Banded db := banded_applyAll cs AllEntries.empty hcs
  have hall : ∀ z ∈ entriesOf db (List.range r.shardCount), InBands z.score := fun z hz => by
    obtain ⟨i, -, hz⟩ := mem_entriesOf.mp hz
    exact hb i z hz
  refine ⟨fun i z hz => ⟨?_, inBands_iff.mp (hb i z hz)⟩, ?_, ?_⟩
  · have := hb i z hz
    unfold InBands at this
    omega
  · rw [getSizeByPriority_eq, getSize_eq, ← sum_band_counts _ hall]
    simp
  · rw [getSizeByPriority_eq]
    exact List.map_congr_left fun p _ => congrArg _ (List.countP_congr fun z hz => by
      simp [(decode_of_inBands (hall z hz)).1])

theorem applyAll_scores_in_bands_at_sample :
    let r : RedisQueueManager := ⟨⟨true, 300000000000, 2, 10, 60000000000⟩, 2⟩
    let adID : AdID := ⟨"123e4567-e89b-12d3-a456-426614174000"⟩
    let adID' : AdID := ⟨"123e4567-e89b-12d3-a456-426614174001"⟩
    let cs := [Call.enqueue adID 3 1700000000000000000, .enqueue adID' 2 1700000000000000000,
      .updatePriority adID 5, .applyAntiStarvation 1700000600000000000,
      .dequeue 1700000600000000000]
    (∀ c ∈ cs, c.Admissible r) ∧ r.getSize (Call.applyAll r cs Shards.empty).2 = 1 ∧
      let db := (Call.applyAll r cs Shards.empty).2
      (∀ i, ∀ z ∈ (db i).entries, z.score < 2 ^ 53 ∧ ∃ p tau, z.score = p * 10000000000 + tau ∧
        1 ≤ p ∧ p ≤ 5 ∧ 0 ≤ tau ∧ tau ≤ 9999999999) ∧
      ((r.getSizeByPriority db).map Prod.snd).sum = r.getSize db ∧
      r.getSizeByPriority db = [1, 2, 3, 4, 5].map fun p =>
        (p, (entriesOf db (List.range r.shardCount)).countP fun z => decodePriority z.score = p) :=
  ⟨by decide, by set_option maxRecDepth 20000 in rfl, applyAll_scores_in_bands _ _ (by decide)⟩

/-- Every identifier names a shard below the shard count, and every run of the methods
from empty shards, with any arguments, keeps each member in that shard: an identifier has
at most one entry, and the loops over the shards `0 .. n - 1` see every entry. -/
theorem applyAll_places_by_shard_key (r : RedisQueueManager) (hn : 0 < r.shardCount)
    (cs : List Call) :
    let db := (Call.applyAll r cs Shards.empty).2
    (∀ adID, r.getShardKey adID < r.shardCount) ∧
    (∀ i, ∀ z ∈ (db i).entries, r.getShardKey ⟨z.member⟩ = i) ∧
    (∀ i j, ∀ z ∈ (db i).entries, ∀ z' ∈ (db j).entries, z.member = z'.member →
      i = j ∧ z = z') ∧
    ∀ i, ∀ z ∈ (db i).entries, z ∈ entriesOf db (List.range r.shardCount) := by
  intro db
  have hp : Placed r db := placed_applyAll cs AllEntries.empty
  exact ⟨fun adID => getShardKey_lt r adID hn, hp, fun _ _ _ hz _ hz' hm => hp.unique hz hz' hm,
    fun _ _ hz => hp.mem_entriesOf_range hn hz⟩

theorem applyAll_places_by_shard_key_at_sample :
    let r : RedisQueueManager := ⟨⟨true, 300000000000, 2, 10, 60000000000⟩, 2⟩
    let adID : AdID := ⟨"123e4567-e89b-12d3-a456-426614174000"⟩
    let adID' : AdID := ⟨"123e4567-e89b-12d3-a456-426614174001"⟩
    let cs := [Call.enqueue adID 3 1700000000000000000, .enqueue adID' 2 1700000000000000000,
      .updatePriority adID 5, .remove adID]
    0 < r.shardCount ∧ r.getSize (Call.applyAll r cs Shards.empty).2 = 1 ∧
      let db := (Call.applyAll r cs Shards.empty).2
      (∀ adID, r.getShardKey adID < r.shardCount) ∧
      (∀ i, ∀ z ∈ (db i).entries, r.getShardKey ⟨z.member⟩ = i) ∧
      (∀ i j, ∀ z ∈ (db i).entries, ∀ z' ∈ (db j).entries, z.member = z'.member →
        i = j ∧ z = z') ∧
      ∀ i, ∀ z ∈ (db i).entries, z ∈ entriesOf db (List.range r.shardCount) :=
  ⟨by decide, by set_option maxRecDepth 20000 in rfl, applyAll_places_by_shard_key _ (by decide) _⟩

/-! ## Interleaved calls -/

/-- What a call in progress will still write keeps `P`: the entry of an `Enqueue` or of the
`ZADD` of an `UpdatePriority`, the score an `UpdatePriority` makes from the one it reads,
and the boosts of an `ApplyAntiStarvation` pass, with the entries it read from shard `i`. -/
def Client.Keeps (P : Nat → Z → Prop) : Client → Prop
  | .enqueue i m score => P i ⟨score, m⟩
  | .readScore i adID q =>
    ∀ v, P i ⟨v, adID.value⟩ → P i ⟨q * 10000000000 + timestampPart v, adID.value⟩
  | .writeScore i adID score => P i ⟨score, adID.value⟩
  | .scan cfg now _ _ => BoostKeeps P cfg now
  | .boost cfg now _ i pending => BoostKeeps P cfg now ∧ ∀ z ∈ pending, P i z
  | .peek .. | .take .. | .gather .. | .removeBatch .. | .remove .. | .done _ => True

/-- One step of a client whose writes keep `P`, on shards that keep it. -/
theorem Client.keeps_step {P : Nat → Z → Prop} {db : Shards} (h : AllEntries P db) :
    ∀ {c : Client}, c.Keeps P → AllEntries P (c.step db).2 ∧ (c.step db).1.Keeps P
  | .enqueue _ _ _, hc => ⟨h.zadd hc, trivial⟩
  | .peek _ n i best, _ => by
    by_cases hi : i < n
    · simp only [Client.step, if_pos hi]; exact ⟨h, trivial⟩
    · rcases best with _ | ⟨z, j⟩ <;> simp only [Client.step, if_neg hi] <;> exact ⟨h, trivial⟩
  | .take _ _ _, _ => ⟨h.zrem _ _, trivial⟩
  | .gather _ _ n i _ _, _ => by
    by_cases hi : i < n <;> simp only [Client.step, hi, if_true, if_false] <;> exact ⟨h, trivial⟩
  | .removeBatch _ [], _ => ⟨h, trivial⟩
  | .removeBatch _ (_ :: _), _ => ⟨h.zrem _ _, trivial⟩
  | .readScore i adID q, hc => by
    cases hs : (db i).zscore adID.value with
    | none => simp only [Client.step, hs]; exact ⟨h, trivial⟩
    | some v =>
      simp only [Client.step, hs]
      exact ⟨h, hc v (h i _ (SortedSet.zscore_eq_some.mp hs))⟩
  | .writeScore _ _ _, hc => ⟨h.zadd hc, trivial⟩
  | .remove _ _, _ => ⟨h.zrem _ _, trivial⟩
  | .scan _ _ n i, hc => by
    by_cases hi : i < n
    · simp only [Client.step, if_pos hi]
      exact ⟨h, hc, fun z hz => h i z ((db i).revSorted_perm.mem_iff.mp (List.mem_reverse.mp hz))⟩
    · simp only [Client.step, if_neg hi]; exact ⟨h, trivial⟩
  | .boost _ _ _ _ [], hc => ⟨h, hc.1⟩
  | .boost _ _ _ _ (_ :: _), ⟨hP, hz⟩ =>
    ⟨h.boostEntry hP (hz _ (List.mem_cons_self _ _)),
      hP, fun z hz' => hz z (List.mem_cons_of_mem _ hz')⟩
  | .done _, _ => ⟨h, trivial⟩

/-- The shards keep `P`, and so does every call in progress. -/
def SystemKeeps (P : Nat → Z → Prop) (s : System) : Prop :=
  AllEntries P s.db ∧ ∀ c ∈ s.clients, c.Keeps P

theorem SystemKeeps.step {P : Nat → Z → Prop} {s : System} (h : SystemKeeps P s) (j : Nat) :
    SystemKeeps P (s.step j) := by
  unfold System.step
  split
  · exact h
  · rename_i c hc
    obtain ⟨hdb, hcl⟩ := Client.keeps_step h.1 (h.2 c (List.getElem?_mem hc))
    exact ⟨hdb, fun c' hc' => (List.mem_or_eq_of_mem_set hc').elim (h.2 c') (· ▸ hcl)⟩

/-- Every schedule keeps `P`. -/
theorem SystemKeeps.run {P : Nat → Z → Prop} {s : System} (h : SystemKeeps P s)
    (sched : List Nat) : SystemKeeps P (s.run sched) :=
  List.foldlRecOn (motive := SystemKeeps P) sched System.step s h fun _ h' j _ => h'.step j

/-- A call starts to write members into the shard of their identifier, whatever its
arguments. -/
theorem Call.start_keeps_placed (r : RedisQueueManager) :
    ∀ c : Call, (c.start r).Keeps fun i z => r.getShardKey ⟨z.member⟩ = i
  | .enqueue _ _ _ => rfl
  | .dequeue _ | .dequeueBatch _ _ | .remove _ => trivial
  | .updatePriority _ _ => fun _ hv => hv
  | .applyAntiStarvation _ => by
    simp only [Call.start]
    split
    · trivial
    · exact fun _ _ hz _ _ => hz

/-- A call with the service's arguments starts to write scores of the bands. -/
theorem Call.start_keeps_banded (r : RedisQueueManager) :
    ∀ {c : Call}, c.Admissible r → (c.start r).Keeps fun _ z => InBands z.score
  | .enqueue _ _ _, ⟨hp1, hp5, ht⟩ => calculateScore_inBands ⟨hp1, hp5⟩ ht
  | .dequeue _, _ | .dequeueBatch _ _, _ | .remove _, _ => trivial
  | .updatePriority _ _, hq => fun _ => rescore_inBands hq
  | .applyAntiStarvation _, hw => by
    simp only [Call.start]
    split
    · trivial
    · exact boostKeeps_inBands hw

/-- Calls started on empty shards, their commands interleaved by any schedule, keep every
member in the shard of its identifier; with the service's arguments they keep every score
in the bands. -/
theorem run_keeps_placed_banded (r : RedisQueueManager) (cs : List Call) (sched : List Nat) :
    let s := (System.mk Shards.empty (cs.map (Call.start r))).run sched
    Placed r s.db ∧ ((∀ c ∈ cs, c.Admissible r) → Banded s.db) := by
  have hstart : ∀ {P : Nat → Z → Prop}, (∀ c ∈ cs, (c.start r).Keeps P) →
      SystemKeeps P ((System.mk Shards.empty (cs.map (Call.start r))).run sched) :=
    fun hcs => SystemKeeps.run ⟨AllEntries.empty, fun c hc => by
      obtain ⟨c', hc', rfl⟩ := List.mem_map.mp hc
      exact hcs c' hc'⟩ sched
  exact ⟨(hstart fun c _ => Call.start_keeps_placed r c).1,
    fun hcs => (hstart fun c hc => Call.start_keeps_banded r (hcs c hc)).1⟩

end RedisQueueManager

end AdQueue
