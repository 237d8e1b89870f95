import AdQueue.Queue.Invariants

/-!
# The position of an ad

`GetPosition` reads the score `s` of the identifier in its own shard and counts, shard by
shard, the entries `ZCOUNT (s +inf` admits: those scoring strictly above `s`.  `GetNext`
lists the queue in the order the exchange sort leaves it.  The two agree on a queue whose
members lie in their own shards (`Placed`) and are identifiers (`Parsed`): the ad's position
is one more than the number of entries above it, and that is the first place of `GetNext`
with its score, whatever the ties between equal scores in other shards.

The count is `countP_entriesOf` on the `ZCOUNT` of each shard (`getPosition_of_zscore`).  The
listing is a top `N` of every entry when `N` covers the queue, hence a permutation of the
queue sorted by score (`getNext_sorted_all`), and in a list sorted by score the first entry
with score `s` stands after exactly the entries above `s` (`findIdx_score_eq_countP`).
-/

namespace AdQueue

namespace RedisQueueManager

/-! ## The count -/

@[simp] theorem zcount_excl_posInf (s : SortedSet) (v : Int) :
    s.zcount (.excl v) .posInf = s.entries.countP fun z => v < z.score := by
  simp [SortedSet.zcount, ScoreBound.admitsAbove, ScoreBound.admitsBelow]

/-- `GetPosition` of an identifier with score `s` in its shard: one more than the entries
of the shards `0 .. n - 1` scoring above `s`. -/
theorem getPosition_of_zscore (r : RedisQueueManager) {db : Shards} {adID : AdID} {s : Int}
    (h : (db (r.getShardKey adID)).zscore adID.value = some s) :
    r.getPosition db adID =
      .ok (((entriesOf db (List.range r.shardCount)).countP fun z => s < z.score) + 1) := by
  simp only [getPosition, h, zcount_excl_posInf, countP_entriesOf, Nat.cast_add, Nat.cast_one]

/-- In a placed queue an entry is what `ZSCORE` reads in the shard of its member. -/
theorem Placed.zscore_of_mem {r : RedisQueueManager} {db : Shards} (h : Placed r db) {i : Nat}
    {z : Z} (hz : z ∈ (db i).entries) :
    (db (r.getShardKey ⟨z.member⟩)).zscore z.member = some z.score :=
  h i z hz ▸ SortedSet.zscore_eq_some.mpr hz

/-! ## The listing -/

/-- In a list sorted by score, the first entry of score `s` follows exactly the entries
above `s`. -/
theorem findIdx_score_eq_countP {v : Int} :
    ∀ {S : List Z}, S.Sorted ScoreGE → (∃ z ∈ S, z.score = v) →
      S.findIdx (fun x => x.score = v) = S.countP fun x => v < x.score
  | [], _, ⟨_, hz, _⟩ => absurd hz (List.not_mem_nil _)
  | a :: S, hs, ⟨z, hz, hzv⟩ => by
    rw [List.sorted_cons] at hs
    rw [List.findIdx_cons]
    by_cases ha : a.score = v
    · have h0 : S.countP (fun x => v < x.score) = 0 :=
        List.countP_eq_zero.mpr fun x hx => by simpa [← ha] using hs.1 x hx
      simp [ha, h0]
    · have hz' : z ∈ S := by
        rcases List.mem_cons.mp hz with rfl | hz'
        · exact absurd hzv ha
        · exact hz'
      have hav : v < a.score := lt_of_le_of_ne (hzv ▸ hs.1 z hz') (Ne.symm ha)
      simp [ha, hav, findIdx_score_eq_countP hs.2 ⟨z, hz', hzv⟩]

/-- `findIdx` through a map, for predicates that agree on the list. -/
theorem findIdx_map_of_agree {α β : Type} {f : α → β} {p : β → Bool} {q : α → Bool} :
    ∀ {l : List α}, (∀ x ∈ l, p (f x) = q x) → (l.map f).findIdx p = l.findIdx q
  | [], _ => rfl
  | x :: l, h => by
    simp only [List.map_cons, List.findIdx_cons, h x (List.mem_cons_self _ _),
      findIdx_map_of_agree fun y hy => h y (List.mem_cons_of_mem _ hy)]

/-- `GetNext N` with `N` covering the queue lists every entry, sorted by score. -/
theorem getNext_sorted_all (r : RedisQueueManager) {db : Shards} (hplaced : Placed r db)
    (hparsed : Parsed db) (now : Int) {N : Nat}
    (hN : (entriesOf db (List.range r.shardCount)).length ≤ N) :
    ∃ S : List Z, S.Perm (entriesOf db (List.range r.shardCount)) ∧ S.Sorted ScoreGE ∧
      r.getNext db N now = S.map (itemOf now) := by
  by_cases hk : 1 ≤ N
  · have hwf : WellFormedQueue r.shardCount db := ⟨fun i _ z hz => hparsed i z hz,
      fun _ _ _ _ _ hz _ hz' hm => (hplaced.unique hz hz' hm).1⟩
    obtain ⟨S, ⟨hlen, hsorted, rest, hperm, -⟩, hnext, -⟩ := batch_top r db now hwf hk
    have hrest : rest = [] := List.eq_nil_of_length_eq_zero (by
      have := hperm.length_eq
      simp only [List.length_append, hlen] at this
      omega)
    subst hrest
    exact ⟨S, by simpa using hperm.symm, hsorted, hnext⟩
  · have hnil : entriesOf db (List.range r.shardCount) = [] :=
      List.eq_nil_of_length_eq_zero (by omega)
    obtain rfl : N = 0 := by omega
    exact ⟨[], by rw [hnil], List.sorted_nil, by simp [getNext]⟩

/-! ## Position and listing agree -/

/-- On a queue with at least one shard, whose members lie in their own shards and are
identifiers: a queued ad of score `s` is at position one more than the number of entries
scoring above `s`, and that is the first place of `GetNext N` holding an ad of score `s`
for every `N` that covers the queue; an identifier without an entry in its shard is an
error. -/
theorem getPosition_is_first_place (r : RedisQueueManager) (hn : 0 < r.shardCount)
    {db : Shards} (hplaced : Placed r db) (hparsed : Parsed db) (adID : AdID) (now : Int) :
    (∀ i, ∀ z ∈ (db i).entries, z.member = adID.value →
      r.getPosition db adID =
          .ok (((entriesOf db (List.range r.shardCount)).countP fun e => z.score < e.score) + 1) ∧
        ∀ N : Nat, (entriesOf db (List.range r.shardCount)).length ≤ N →
          let place := (r.getNext db N now).findIdx fun it =>
            (db (r.getShardKey it.adID)).zscore it.adID.value = some z.score
          place < (r.getNext db N now).length ∧ r.getPosition db adID = .ok (place + 1)) ∧
    ((db (r.getShardKey adID)).zscore adID.value = none →
      r.getPosition db adID = .error ("ad not found in queue: " ++ adID.value)) := by
  refine ⟨fun i z hz hid => ?_, fun h => by simp only [getPosition, h]⟩
  have hpos := getPosition_of_zscore r (hid ▸ hplaced.zscore_of_mem hz)
  refine ⟨hpos, fun N hN => ?_⟩
  obtain ⟨S, hperm, hsorted, hnext⟩ := getNext_sorted_all r hplaced hparsed now hN
  have hzS : z ∈ S := hperm.mem_iff.mpr (hplaced.mem_entriesOf_range hn hz)
  have hplace : (S.map (itemOf now)).findIdx (fun it =>
      (db (r.getShardKey it.adID)).zscore it.adID.value = some z.score) =
      S.findIdx fun x => x.score = z.score := findIdx_map_of_agree fun x hx => by
    obtain ⟨j, -, hxj⟩ := mem_entriesOf.mp (hperm.mem_iff.mp hx)
    simp [itemOf, QueueItem.new, hplaced.zscore_of_mem hxj]
  simp only [hnext, hplace, List.length_map]
  refine ⟨List.findIdx_lt_length_of_exists ⟨z, hzS, by simp⟩, ?_⟩
  rw [hpos, findIdx_score_eq_countP hsorted ⟨z, hzS, rfl⟩, hperm.countP_eq]

/-- Two ads in the bands `3` and `5`, in the two shards: the one in band `3` is at position
`2`, the second place of `GetNext 2`. -/
theorem getPosition_is_first_place_at_sample :
    let r : RedisQueueManager := ⟨⟨true, 300000000000, 2, 10, 60000000000⟩, 2⟩
    let a : AdID := ⟨"123e4567-e89b-12d3-a456-426614174001"⟩
    let db := (Shards.empty.zadd 1 a.value 38299999999).zadd 0
      "123e4567-e89b-12d3-a456-426614174002" 58299999999
    r.getPosition db a = .ok 2 ∧ (r.getNext db 2 0).findIdx (fun it =>
      (db (r.getShardKey it.adID)).zscore it.adID.value = some 38299999999) = 1 := by
  set_option maxRecDepth 20000 in
  intro r a db
  have hplaced : Placed r db := (AllEntries.empty.zadd (by decide)).zadd (by decide)
  have hparsed : Parsed db := (AllEntries.empty.zadd (by decide)).zadd (by decide)
  have h := (getPosition_is_first_place r (by decide) hplaced hparsed a 0).1 1
    ⟨38299999999, a.value⟩ (by decide) rfl
  obtain ⟨-, hplace⟩ := h.2 2 (by decide)
  rw [h.1] at hplace
  have hcount : ((entriesOf db (List.range r.shardCount)).countP fun e =>
      38299999999 < e.score) = 1 := by decide
  rw [hcount] at h hplace
  exact ⟨h.1, (Nat.cast_inj.mp (add_right_cancel (Except.ok.inj hplace))).symm⟩

/-- A placed queue with a member that is not an identifier, scoring above an ad:
`GetPosition` counts it, and `GetNext` skips it, so the ad is at position `2` and first in
`GetNext 2`. -/
theorem getPosition_counts_unparsed_member :
    let r : RedisQueueManager := ⟨⟨true, 300000000000, 1, 10, 60000000000⟩, 1⟩
    let a : AdID := ⟨"123e4567-e89b-12d3-a456-426614174001"⟩
    let db := (Shards.empty.zadd 0 a.value 38299999999).zadd 0 "not-an-ad" 58299999999
    Placed r db ∧ (entriesOf db (List.range r.shardCount)).length = 2 ∧
      r.getPosition db a = .ok 2 ∧ (r.getNext db 2 0).findIdx (fun it =>
        (db (r.getShardKey it.adID)).zscore it.adID.value = some 38299999999) = 0 := by
  set_option maxRecDepth 20000 in
  intro r a db
  have hz : (db (r.getShardKey a)).zscore a.value = some 38299999999 := by decide
  have hcount : ((entriesOf db (List.range r.shardCount)).countP fun e =>
      38299999999 < e.score) = 1 := by decide
  have hpos := getPosition_of_zscore r hz
  rw [hcount] at hpos
  exact ⟨(AllEntries.empty.zadd (by decide)).zadd (by decide), by decide, hpos, by decide⟩

end RedisQueueManager

end AdQueue
