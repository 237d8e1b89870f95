import AdQueue.Cache.HighPerformance
import AdQueue.Domain.GoMap

/-!
# The bulk methods of the two-level cache

The methods of `cache.HighPerformanceCache` besides `GetAd` and `SetAd`:
`SetAdBatch`, `GetAdBatch`, `DeleteAd`, `InvalidatePattern`, `PrefetchAds`, `WarmupCache` and
`CleanupExpired`.

*What a read answers.*  `find` is what `GetAd` answers of a key: the ad of a live L1 item,
else, with L2 on, the decoded L2 text (`getAd_fst`).  The L1 step of `GetAd` only deletes an
item that has expired, so it never changes what a later read at the same clock answers
(`SameAnswers.readL1`): this is why the L1 loop of `GetAdBatch`, which runs that step once
per identifier, answers for each identifier what `GetAd` answers on the cache as it was
(`getAdBatch_agrees_with_getAd`).

*Writes.*  `SetAdBatch` sets every ad in L2 before it puts any in L1, where `SetAd` does both
per ad; the two levels are apart, so the batch leaves the cache the per-ad calls leave
(`setAdBatch_eq_foldl_setAd`).  `InvalidatePattern` deletes in batches of `BatchSize` keys;
batching leaves what one deletion of all the keys leaves (`invalidatePattern_eq`).

*Deletion and expiry.*  `DeleteAd` makes its key unreadable and no other
(`deleteAd_find`); `CleanupExpired` deletes only items no later read could serve
(`find_cleanupExpired`).  It deletes an item whose deadline is strictly before the clock,
while a read already treats an item as expired at its deadline.

`KEYS pattern` is not modelled: `InvalidatePattern` takes the keys the server answers.  The
L2 `MGET` of `GetAdBatch` and the pipeline of `SetAdBatch` do not fail, as no Redis call of
the model does.  `time.Now()` is one clock per call.
-/

namespace AdQueue

/-- The fields of `CacheConfig` that only the bulk methods read: `BatchSize`, the keys per
`DEL` of `InvalidatePattern`, and `PrefetchCount`, what `WarmupCache` asks its loader for. -/
structure BulkConfig where
  batchSize : Int
  prefetchCount : Int
deriving DecidableEq, Repr

namespace HighPerformanceCache

/-- The configuration `NewHighPerformanceCache` takes when it is given none: L1 for one
minute, L2 for ten, ten thousand L1 items, both levels on. -/
def defaultConfig : CacheConfig := ⟨60000000000, 600000000000, 10000, true, true⟩

/-- The bulk fields of that configuration: `BatchSize` 100, `PrefetchCount` 50. -/
def defaultBulkConfig : BulkConfig := ⟨100, 50⟩

/-- `NewHighPerformanceCache` in front of the Redis database `l2`: an empty L1, and the
default configuration when none is given. -/
def new (l2 : StringKeys) (config : Option CacheConfig) : HighPerformanceCache :=
  ⟨config.getD defaultConfig, [], l2⟩

/-! ## What a read answers -/

/-- The L2 step of `GetAd` at clock `now`: with L2 on, the decoded L2 text. -/
def readL2 (c : HighPerformanceCache) (key : String) (now : Int) : Option Ad :=
  if c.config.enableL2 then (c.l2.get key now).bind unmarshalAd else none

/-- What `GetAd` answers of a key at clock `now`: the ad of a live L1 item, else what the
L2 step reads. -/
def find (c : HighPerformanceCache) (key : String) (now : Int) : Option Ad :=
  (c.readL1 key now).1.or (c.readL2 key now)

/-! ## `SetAdBatch` -/

/-- `SetAdBatch` at clock `now`: nothing for no ad; otherwise a pipeline of one `SET` per
ad to L2, then `setL1` of each ad in turn. -/
def setAdBatch (c : HighPerformanceCache) (ads : List Ad) (now : Int) :
    Except String Unit × HighPerformanceCache :=
  if ads.isEmpty then (.ok (), c)
  else
    let c₁ := if c.config.enableL2 then
      { c with l2 := ads.foldl (fun kv a =>
        kv.set ("ad:" ++ a.id.value) (marshalAd a) c.config.l2TTL now) c.l2 }
      else c
    (.ok (), if c.config.enableL1 then
      { c₁ with l1 := ads.foldl (fun l1 a =>
        setL1 l1 c.config.l1MaxItems ("ad:" ++ a.id.value) a c.config.l1TTL now) c₁.l1 }
      else c₁)

/-! ## `GetAdBatch` -/

/-- One turn of the L1 loop of `GetAdBatch`: the L1 step of `GetAd`; the ad of a live item
is appended to the ads found, the identifier of a miss to the L1 misses. -/
def l1Turn (now : Int) (acc : List Ad × List AdID × HighPerformanceCache) (adID : AdID) :
    List Ad × List AdID × HighPerformanceCache :=
  match acc.2.2.readL1 ("ad:" ++ adID.value) now with
  | (some a, c) => (acc.1 ++ [a], acc.2.1, c)
  | (none, c) => (acc.1, acc.2.1 ++ [adID], c)

/-- One turn of the L2 loop of `GetAdBatch`, on an L1 miss and its `MGET` reply: a text that
decodes is appended to the ads found and put in L1; otherwise the identifier is missing. -/
def l2Turn (now : Int) (acc : List Ad × List AdID × HighPerformanceCache)
    (r : AdID × Option String) : List Ad × List AdID × HighPerformanceCache :=
  let c := acc.2.2
  match r.2.bind unmarshalAd with
  | some a =>
    (acc.1 ++ [a], acc.2.1, if c.config.enableL1 then
      { c with l1 := setL1 c.l1 c.config.l1MaxItems ("ad:" ++ r.1.value) a c.config.l1TTL now }
      else c)
  | none => (acc.1, acc.2.1 ++ [r.1], c)

/-- The L1 loop of `GetAdBatch`: the ads found, the L1 misses, and the cache after. -/
def l1Pass (c : HighPerformanceCache) (adIDs : List AdID) (now : Int) :
    List Ad × List AdID × HighPerformanceCache :=
  if c.config.enableL1 then adIDs.foldl (l1Turn now) ([], [], c) else ([], adIDs, c)

/-- `GetAdBatch` at clock `now`: the ads found and the identifiers missing.  The L2 loop
runs over one `MGET` of the L1 misses. -/
def getAdBatch (c : HighPerformanceCache) (adIDs : List AdID) (now : Int) :
    (List Ad × List AdID) × HighPerformanceCache :=
  let p := c.l1Pass adIDs now
  if c.config.enableL2 ∧ p.2.1 ≠ [] then
    let replies := p.2.1.map fun adID => p.2.2.l2.get ("ad:" ++ adID.value) now
    let q := (p.2.1.zip replies).foldl (l2Turn now) (p.1, [], p.2.2)
    ((q.1, q.2.1), q.2.2)
  else ((p.1, p.2.1), p.2.2)

/-! ## `DeleteAd` and `InvalidatePattern` -/

/-- `DeleteAd`: the key out of L1, then out of L2. -/
def deleteAd (c : HighPerformanceCache) (adID : AdID) : Except String Unit × HighPerformanceCache :=
  let key := "ad:" ++ adID.value
  let c₁ := if c.config.enableL1 then { c with l1 := deleteL1 c.l1 key } else c
  (.ok (), if c.config.enableL2 then { c₁ with l2 := c₁.l2.del [key] } else c₁)

/-- The batches the loop of `InvalidatePattern` deletes: `n + 1` keys each, the last one
shorter. -/
def chunks (n : Nat) : List String → List (List String)
  | [] => []
  | k :: ks => (k :: ks.take n) :: chunks n (ks.drop n)
termination_by ks => ks.length
decreasing_by simp only [List.length_drop, List.length_cons]; omega

/-- One turn of the loop of `InvalidatePattern`: `DEL` of the batch, then each of its keys
out of L1. -/
def deleteBatch (c : HighPerformanceCache) (batch : List String) : HighPerformanceCache :=
  let c₁ := { c with l2 := c.l2.del batch }
  if c.config.enableL1 then { c₁ with l1 := batch.foldl deleteL1 c₁.l1 } else c₁

/-- `InvalidatePattern`, on the keys `KEYS pattern` answers and the configured `BatchSize`.
With a batch size of `0` the first `DEL` has no key, which Redis refuses; a negative one
slices out of range, which panics; either way nothing is deleted. -/
def invalidatePattern (c : HighPerformanceCache) (batchSize : Int) (keys : List String) :
    Except String Unit × HighPerformanceCache :=
  if !c.config.enableL2 then (.ok (), c)
  else if keys.isEmpty then (.ok (), c)
  else if batchSize ≤ 0 then (.error "failed to delete batch", c)
  else (.ok (), (chunks (batchSize.toNat - 1) keys).foldl deleteBatch c)

/-! ## `PrefetchAds`, `WarmupCache` and `CleanupExpired` -/

/-- `PrefetchAds` with its loader: the identifiers `GetAdBatch` misses go to the loader,
and what it loads to `SetAdBatch`. -/
def prefetchAds (c : HighPerformanceCache) (adIDs : List AdID)
    (loader : List AdID → Except String (List Ad)) (now : Int) :
    Except String Unit × HighPerformanceCache :=
  if adIDs.isEmpty then (.ok (), c)
  else
    let r := c.getAdBatch adIDs now
    if r.1.2.isEmpty then (.ok (), r.2)
    else
      match loader r.1.2 with
      | .error e => (.error ("failed to load ads: " ++ e), r.2)
      | .ok ads => r.2.setAdBatch ads now

/-- `WarmupCache` with its loader, asked for `PrefetchCount` ads. -/
def warmupCache (c : HighPerformanceCache) (prefetchCount : Int)
    (loader : Int → Except String (List Ad)) (now : Int) :
    Except String Unit × HighPerformanceCache :=
  match loader prefetchCount with
  | .error e => (.error ("failed to load ads for warmup: " ++ e), c)
  | .ok ads => c.setAdBatch ads now

/-- `CleanupExpired` at clock `now`: the keys of the items whose deadline is before `now`,
gathered in one `Range`, then deleted one by one. -/
def cleanupExpired (c : HighPerformanceCache) (now : Int) : HighPerformanceCache :=
  if !c.config.enableL1 then c
  else
    let toDelete := (c.l1.filter fun e => e.2.expiresAt < now).map Prod.fst
    { c with l1 := toDelete.foldl deleteL1 c.l1 }

/-! ## L1 lookups -/

theorem loadL1_deleteL1_self (l1 : List (String × CacheItem)) (key : String) :
    loadL1 (deleteL1 l1 key) key = none :=
  lookup_filter_eq_none fun _ _ he => by simp [he]

theorem loadL1_deleteL1_ne (l1 : List (String × CacheItem)) {key key' : String}
    (h : key' ≠ key) : loadL1 (deleteL1 l1 key) key' = loadL1 l1 key' :=
  lookup_filter fun _ _ he => by simp [he, h]

/-- Deleting keys one by one keeps the entries of the other keys. -/
theorem foldl_deleteL1 (keys : List String) :
    ∀ l1 : List (String × CacheItem), keys.foldl deleteL1 l1 = l1.filter fun e => e.1 ∉ keys := by
  induction keys with
  | nil => intro l1; simp
  | cons k keys ih =>
    intro l1
    rw [List.foldl_cons, ih, deleteL1, List.filter_filter]
    congr 1
    funext e
    simp [Bool.and_comm]

/-! ## The L1 step of a read -/

/-- What the L1 step of `GetAd` answers: the ad of an item live at `now`. -/
theorem readL1_fst (c : HighPerformanceCache) (key : String) (now : Int) :
    (c.readL1 key now).1 = if c.config.enableL1 then
      (loadL1 c.l1 key).bind fun item => if now < item.expiresAt then some item.data else none
    else none := by
  unfold readL1
  split_ifs
  · cases loadL1 c.l1 key with
    | none => rfl
    | some item =>
      simp only [Option.some_bind]
      split_ifs <;> rfl
  · rfl

/-- The L1 step of `GetAd` leaves the cache, or deletes the key after answering nothing. -/
theorem readL1_cases (c : HighPerformanceCache) (key : String) (now : Int) :
    (c.readL1 key now).2 = c ∨
      (c.readL1 key now).2 = { c with l1 := deleteL1 c.l1 key } ∧ (c.readL1 key now).1 = none := by
  unfold readL1
  split_ifs
  · split
    · split_ifs
      · exact .inl rfl
      · exact .inr ⟨rfl, rfl⟩
    · exact .inl rfl
  · exact .inl rfl

/-- `GetAd` answers what `find` finds, and the error text when it finds nothing. -/
theorem getAd_fst (c : HighPerformanceCache) (adID : AdID) (now : Int) :
    (c.getAd adID now).1 = match c.find ("ad:" ++ adID.value) now with
      | some a => .ok a
      | none => .error "ad not found in cache" := by
  obtain ⟨l1, hc⟩ := c.readL1_snd ("ad:" ++ adID.value) now
  rcases h : c.readL1 ("ad:" ++ adID.value) now with ⟨_ | a, c₁⟩
  · rw [h] at hc
    subst hc
    simp only [getAd, find, readL2, h, Option.none_or]
    by_cases hL2 : c.config.enableL2
    · simp only [hL2, if_true]
      cases (c.l2.get ("ad:" ++ adID.value) now).bind unmarshalAd <;> rfl
    · simp [hL2]
  · simp only [getAd, find, h, Option.or_some]

theorem getAd_toOption (c : HighPerformanceCache) (adID : AdID) (now : Int) :
    (c.getAd adID now).1.toOption = c.find ("ad:" ++ adID.value) now := by
  rw [getAd_fst]
  split <;> simp_all [Except.toOption]

theorem getAd_isOk (c : HighPerformanceCache) (adID : AdID) (now : Int) :
    (c.getAd adID now).1.isOk = (c.find ("ad:" ++ adID.value) now).isSome := by
  rw [getAd_fst]
  split <;> simp_all [Except.isOk, Except.toBool]

/-! ## Reads at one clock -/

/-- `d` answers every read at `now` as `c` does. -/
def SameAnswers (c d : HighPerformanceCache) (now : Int) : Prop :=
  d.config = c.config ∧ d.l2 = c.l2 ∧ ∀ key, (d.readL1 key now).1 = (c.readL1 key now).1

theorem SameAnswers.refl (c : HighPerformanceCache) (now : Int) : SameAnswers c c now :=
  ⟨rfl, rfl, fun _ => rfl⟩

theorem SameAnswers.find {c d : HighPerformanceCache} {now : Int} (h : SameAnswers c d now)
    (key : String) : d.find key now = c.find key now := by
  unfold HighPerformanceCache.find readL2
  rw [h.2.2 key, h.1, h.2.1]

/-- The L1 step of a read at `now` changes no answer at `now`: it deletes only an item that
has expired. -/
theorem SameAnswers.readL1 {c d : HighPerformanceCache} {now : Int} (h : SameAnswers c d now)
    (key : String) : SameAnswers c (d.readL1 key now).2 now := by
  rcases readL1_cases d key now with hd | ⟨hd, hnone⟩
  · rw [hd]
    exact h
  · rw [hd]
    refine ⟨h.1, h.2.1, fun key' => ?_⟩
    rw [← h.2.2 key']
    by_cases hk : key' = key
    · subst hk
      rw [hnone, readL1_fst]
      simp [loadL1_deleteL1_self]
    · rw [readL1_fst, readL1_fst, loadL1_deleteL1_ne _ hk]

/-! ## `GetAdBatch` against `GetAd` -/

section Batch

variable (now : Int)

/-- The L1 loop: the answers of the L1 steps of the cache as it was, and the misses. -/
theorem foldl_l1Turn (c : HighPerformanceCache) :
    ∀ (adIDs : List AdID) (found : List Ad) (miss : List AdID) (d : HighPerformanceCache),
      SameAnswers c d now →
      let r := adIDs.foldl (l1Turn now) (found, miss, d)
      r.1 = found ++ adIDs.filterMap (fun adID => (c.readL1 ("ad:" ++ adID.value) now).1) ∧
        r.2.1 = miss ++ adIDs.filter (fun adID => (c.readL1 ("ad:" ++ adID.value) now).1.isNone) ∧
        SameAnswers c r.2.2 now
  | [], found, miss, d, h => by simpa using h
  | adID :: adIDs, found, miss, d, h => by
    have hd := h.readL1 ("ad:" ++ adID.value)
    have ha := h.2.2 ("ad:" ++ adID.value)
    simp only [List.foldl_cons, l1Turn]
    rcases hr : d.readL1 ("ad:" ++ adID.value) now with ⟨_ | a, d₁⟩ <;> rw [hr] at hd ha <;>
      obtain ⟨h₁, h₂, h₃⟩ := foldl_l1Turn c adIDs _ _ d₁ hd
    · refine ⟨?_, ?_, h₃⟩
      · rw [h₁, List.filterMap_cons, ← ha]
      · rw [h₂, List.filter_cons, ← ha]
        simp
    · refine ⟨?_, ?_, h₃⟩
      · rw [h₁, List.filterMap_cons, ← ha]
        simp
      · rw [h₂, List.filter_cons, ← ha]
        simp

theorem l1Pass_spec (c : HighPerformanceCache) (adIDs : List AdID) :
    (c.l1Pass adIDs now).1 = adIDs.filterMap (fun adID => (c.readL1 ("ad:" ++ adID.value) now).1) ∧
      (c.l1Pass adIDs now).2.1 =
        adIDs.filter (fun adID => (c.readL1 ("ad:" ++ adID.value) now).1.isNone) ∧
      SameAnswers c (c.l1Pass adIDs now).2.2 now := by
  unfold l1Pass
  split_ifs with hL1
  · simpa using foldl_l1Turn now c adIDs [] [] c (.refl c now)
  · have hnone : ∀ adID : AdID, (c.readL1 ("ad:" ++ adID.value) now).1 = none := fun _ => by
      simp [readL1_fst, hL1]
    simp [hnone, SameAnswers.refl]

/-- The L2 loop over the replies of one `MGET`. -/
theorem foldl_l2Turn (kv : StringKeys) :
    ∀ (ms : List AdID) (found : List Ad) (miss : List AdID) (d : HighPerformanceCache),
      let r := (ms.zip (ms.map fun adID => kv.get ("ad:" ++ adID.value) now)).foldl (l2Turn now)
        (found, miss, d)
      r.1 = found ++ ms.filterMap (fun adID => (kv.get ("ad:" ++ adID.value) now).bind unmarshalAd) ∧
        r.2.1 = miss ++
          ms.filter (fun adID => ((kv.get ("ad:" ++ adID.value) now).bind unmarshalAd).isNone)
  | [], found, miss, d => by simp
  | m :: ms, found, miss, d => by
    simp only [List.map_cons, List.zip_cons_cons, List.foldl_cons, l2Turn]
    split <;> next hdec =>
      refine ⟨(foldl_l2Turn kv ms _ _ _).1.trans ?_, (foldl_l2Turn kv ms _ _ _).2.trans ?_⟩ <;>
        simp [List.filterMap_cons, List.filter_cons, hdec]

end Batch

/-- Reading each element by `f`, and what `f` misses by `g`, finds what the two read in
turn, the hits of `f` first. -/
theorem filterMap_or_perm {α β : Type} (f g : α → Option β) :
    ∀ l : List α, (l.filterMap fun x => (f x).or (g x)).Perm
      (l.filterMap f ++ (l.filter fun x => (f x).isNone).filterMap g)
  | [] => .nil
  | x :: l => by
    have ih := filterMap_or_perm f g l
    cases hf : f x with
    | some b => simpa [List.filterMap_cons, List.filter_cons, hf] using ih
    | none =>
      cases hg : g x with
      | none => simpa [List.filterMap_cons, List.filter_cons, hf, hg] using ih
      | some b =>
        simp only [List.filterMap_cons, List.filter_cons, hf, hg, Option.isNone_none,
          if_true]
        exact (ih.cons b).trans List.perm_middle.symm

/-- What the two read in turn misses, each misses. -/
theorem filter_or_isNone {α β : Type} (f g : α → Option β) (l : List α) :
    l.filter (fun x => ((f x).or (g x)).isNone) =
      (l.filter fun x => (f x).isNone).filter fun x => (g x).isNone := by
  rw [List.filter_filter]
  congr 1
  funext x
  cases f x <;> simp

/-- `GetAdBatch` finds, in some order, what `find` finds of each identifier on the cache as
it was, and reports missing, in order, the identifiers `find` misses. -/
theorem getAdBatch_find (c : HighPerformanceCache) (adIDs : List AdID) (now : Int) :
    (c.getAdBatch adIDs now).1.1.Perm (adIDs.filterMap fun adID => c.find ("ad:" ++ adID.value) now) ∧
      (c.getAdBatch adIDs now).1.2 =
        adIDs.filter fun adID => (c.find ("ad:" ++ adID.value) now).isNone := by
  obtain ⟨h₁, h₂, h₃⟩ := l1Pass_spec now c adIDs
  have hperm := filterMap_or_perm (fun adID : AdID => (c.readL1 ("ad:" ++ adID.value) now).1)
    (fun adID => c.readL2 ("ad:" ++ adID.value) now) adIDs
  have hfilter := filter_or_isNone (fun adID : AdID => (c.readL1 ("ad:" ++ adID.value) now).1)
    (fun adID => c.readL2 ("ad:" ++ adID.value) now) adIDs
  dsimp only [getAdBatch]
  split_ifs with hc
  · obtain ⟨h₄, h₅⟩ := foldl_l2Turn now (c.l1Pass adIDs now).2.2.l2 (c.l1Pass adIDs now).2.1
      (c.l1Pass adIDs now).1 [] (c.l1Pass adIDs now).2.2
    have hL2 : ∀ key, c.readL2 key now = (c.l2.get key now).bind unmarshalAd := fun _ => by
      simp [readL2, hc.1]
    rw [h₄, h₅, h₃.2.1, h₁, h₂, List.nil_append]
    simp only [← hL2]
    exact ⟨hperm.symm, hfilter.symm⟩
  · have hnone : (adIDs.filter fun adID => (c.readL1 ("ad:" ++ adID.value) now).1.isNone).filter
        (fun adID => (c.readL2 ("ad:" ++ adID.value) now).isNone) =
        adIDs.filter fun adID => (c.readL1 ("ad:" ++ adID.value) now).1.isNone := by
      by_cases hL2 : c.config.enableL2
      · rw [← h₂, show (c.l1Pass adIDs now).2.1 = [] by simpa [hL2] using hc, List.filter_nil]
      · exact List.filter_eq_self.mpr fun _ _ => by simp [readL2, hL2]
    have hmap : (adIDs.filter fun adID => (c.readL1 ("ad:" ++ adID.value) now).1.isNone).filterMap
        (fun adID => c.readL2 ("ad:" ++ adID.value) now) = [] := by
      rw [List.filterMap_eq_nil_iff]
      intro adID hm
      have := List.mem_filter.mp (hnone ▸ hm)
      simpa using this.2
    rw [hmap, List.append_nil] at hperm
    rw [h₁, h₂]
    exact ⟨hperm.symm, (hfilter.trans hnone).symm⟩

/-- `GetAdBatch` answers, for each identifier, what a `GetAd` of it would answer on the
cache as the batch found it: the ads found are, in some order, the ads those calls return,
and the identifiers missing are, in order and with repeats, those on which they fail. -/
theorem getAdBatch_agrees_with_getAd (c : HighPerformanceCache) (adIDs : List AdID) (now : Int) :
    (c.getAdBatch adIDs now).1.1.Perm (adIDs.filterMap fun adID => (c.getAd adID now).1.toOption) ∧
      (c.getAdBatch adIDs now).1.2 = adIDs.filter fun adID => !(c.getAd adID now).1.isOk := by
  have hnot : ∀ o : Option Ad, (!o.isSome) = o.isNone := fun o => by cases o <;> rfl
  simp only [getAd_toOption, getAd_isOk, hnot]
  exact getAdBatch_find c adIDs now

/-! ## `SetAdBatch` against `SetAd` -/

theorem setAd_snd (d : HighPerformanceCache) (a : Ad) (now : Int) :
    (d.setAd a now).2 =
      { config := d.config
        l1 := if d.config.enableL1 then
          setL1 d.l1 d.config.l1MaxItems ("ad:" ++ a.id.value) a d.config.l1TTL now else d.l1
        l2 := if d.config.enableL2 then
          d.l2.set ("ad:" ++ a.id.value) (marshalAd a) d.config.l2TTL now else d.l2 } := by
  unfold setAd
  split_ifs <;> rfl

/-- `SetAd` of each ad in turn: each level gets the ads in order. -/
theorem foldl_setAd (now : Int) : ∀ (ads : List Ad) (d : HighPerformanceCache),
    ads.foldl (fun d a => (d.setAd a now).2) d =
      { config := d.config
        l1 := if d.config.enableL1 then ads.foldl (fun l1 a =>
          setL1 l1 d.config.l1MaxItems ("ad:" ++ a.id.value) a d.config.l1TTL now) d.l1 else d.l1
        l2 := if d.config.enableL2 then ads.foldl (fun kv a =>
          kv.set ("ad:" ++ a.id.value) (marshalAd a) d.config.l2TTL now) d.l2 else d.l2 }
  | [], d => by split_ifs <;> rfl
  | a :: ads, d => by
    rw [List.foldl_cons, foldl_setAd now ads, setAd_snd]
    split_ifs <;> rfl

/-- `SetAdBatch` succeeds and leaves the cache that `SetAd` of each ad in turn leaves: the
pipeline writes L2 before any ad reaches L1, and the two levels are apart. -/
theorem setAdBatch_eq_foldl_setAd (c : HighPerformanceCache) (ads : List Ad) (now : Int) :
    c.setAdBatch ads now = (.ok (), ads.foldl (fun d a => (d.setAd a now).2) c) := by
  rw [foldl_setAd]
  unfold setAdBatch
  cases ads with
  | nil => split_ifs <;> rfl
  | cons a ads => split_ifs <;> simp_all

/-! ## `InvalidatePattern`, `DeleteAd` and `CleanupExpired` -/

theorem deleteBatch_nil (c : HighPerformanceCache) : c.deleteBatch [] = c := by
  unfold deleteBatch
  split_ifs <;> rfl

theorem deleteBatch_append (c : HighPerformanceCache) (b b' : List String) :
    (c.deleteBatch b).deleteBatch b' = c.deleteBatch (b ++ b') := by
  unfold deleteBatch
  split_ifs <;> simp_all [StringKeys.del_append, List.foldl_append]

theorem chunks_flatten (n : Nat) (keys : List String) : (chunks n keys).flatten = keys := by
  induction keys using chunks.induct n with
  | case1 => simp [chunks]
  | case2 k ks ih => rw [chunks, List.flatten_cons, ih, List.cons_append, List.take_append_drop]

/-- The batches, deleted in turn, delete all the keys. -/
theorem foldl_deleteBatch : ∀ (bs : List (List String)) (c : HighPerformanceCache),
    bs.foldl deleteBatch c = c.deleteBatch bs.flatten
  | [], c => (deleteBatch_nil c).symm
  | b :: bs, c => by rw [List.foldl_cons, foldl_deleteBatch bs, deleteBatch_append, List.flatten_cons]

/-- With a positive batch size, `InvalidatePattern` deletes all the keys at once. -/
theorem invalidatePattern_eq (c : HighPerformanceCache) {batchSize : Int} (hb : 0 < batchSize)
    (keys : List String) :
    c.invalidatePattern batchSize keys = (.ok (), if c.config.enableL2 then c.deleteBatch keys else c) := by
  unfold invalidatePattern
  rw [if_neg (show ¬batchSize ≤ 0 by omega)]
  cases keys with
  | nil => split_ifs <;> simp_all [deleteBatch_nil]
  | cons k ks =>
    rw [foldl_deleteBatch, chunks_flatten]
    split_ifs <;> simp_all

/-- After deleting keys, a read of one of them finds nothing, and of any other key finds
what it found before. -/
theorem loadL1_foldl_deleteL1 (keys : List String) (l1 : List (String × CacheItem))
    (key : String) : loadL1 (keys.foldl deleteL1 l1) key = if key ∈ keys then none else loadL1 l1 key := by
  rw [foldl_deleteL1, loadL1, loadL1]
  split_ifs with hk
  · exact lookup_filter_eq_none fun _ _ he => by simp [he, hk]
  · exact lookup_filter fun _ _ he => by simp [he, hk]

theorem find_deleteBatch (c : HighPerformanceCache) (keys : List String) (key : String) (now : Int) :
    (c.deleteBatch keys).find key now = if key ∈ keys then none else c.find key now := by
  unfold deleteBatch find readL2
  rw [readL1_fst, readL1_fst]
  by_cases hk : key ∈ keys <;> cases hL1 : c.config.enableL1 <;> cases hL2 : c.config.enableL2 <;>
    simp [hk, hL1, hL2, loadL1_foldl_deleteL1]

/-- With a positive batch size, `InvalidatePattern` with L2 on makes every key the server
listed unreadable, whatever level held it, and changes no other read; with L2 off it
changes nothing, L1 included. -/
theorem invalidatePattern_find (c : HighPerformanceCache) {batchSize : Int} (hb : 0 < batchSize)
    (keys : List String) :
    (c.invalidatePattern batchSize keys).1 = .ok () ∧
      ∀ (adID : AdID) (now : Int), ((c.invalidatePattern batchSize keys).2.getAd adID now).1 =
        if c.config.enableL2 ∧ "ad:" ++ adID.value ∈ keys then .error "ad not found in cache"
        else (c.getAd adID now).1 := by
  rw [invalidatePattern_eq c hb]
  refine ⟨rfl, fun adID now => ?_⟩
  rw [getAd_fst, getAd_fst]
  by_cases hL2 : c.config.enableL2
  · simp only [hL2, if_true, find_deleteBatch, true_and]
    split_ifs <;> rfl
  · simp [hL2]

/-- An ad cached by `SetAd`, then every key the server listed for its pattern
invalidated: the ad is gone. -/
theorem invalidatePattern_find_at_sample :
    ((((new StringKeys.empty none).setAd zeroAd 0).2.invalidatePattern 100 ["ad:"]).2.getAd
      zeroAd.id 1).1 = .error "ad not found in cache" := by
  rw [(invalidatePattern_find _ (by decide) ["ad:"]).2 zeroAd.id 1]
  rfl

/-- `DeleteAd` takes its key out of every level that is on, and no other key. -/
theorem deleteAd_find (c : HighPerformanceCache) (adID : AdID) (key : String) (now : Int) :
    (c.deleteAd adID).2.find key now = if key = "ad:" ++ adID.value then none else c.find key now := by
  unfold deleteAd find readL2
  rw [readL1_fst, readL1_fst]
  by_cases hk : key = "ad:" ++ adID.value
  · subst hk
    cases hL1 : c.config.enableL1 <;> cases hL2 : c.config.enableL2 <;>
      simp [hL1, hL2, loadL1_deleteL1_self]
  · cases hL1 : c.config.enableL1 <;> cases hL2 : c.config.enableL2 <;>
      simp [hL1, hL2, loadL1_deleteL1_ne _ hk, hk]

theorem key_ne_of_ne {adID adID' : AdID} (h : adID' ≠ adID) :
    "ad:" ++ adID'.value ≠ "ad:" ++ adID.value := by
  intro hk
  have hd := congrArg String.data hk
  simp only [String.data_append, List.append_cancel_left_eq] at hd
  exact h (by cases adID; cases adID'; simp_all [String.ext_iff])

/-- After `DeleteAd`, a `GetAd` of the identifier fails at every clock, whichever levels are
on; a `GetAd` of any other identifier answers what it answered before. -/
theorem deleteAd_getAd (c : HighPerformanceCache) (adID : AdID) :
    (c.deleteAd adID).1 = .ok () ∧
      (∀ now, ((c.deleteAd adID).2.getAd adID now).1 = .error "ad not found in cache") ∧
      ∀ adID' now, adID' ≠ adID → ((c.deleteAd adID).2.getAd adID' now).1 = (c.getAd adID' now).1 := by
  refine ⟨rfl, fun now => ?_, fun adID' now h => ?_⟩
  · rw [getAd_fst, deleteAd_find, if_pos rfl]
  · rw [getAd_fst, getAd_fst, deleteAd_find, if_neg (key_ne_of_ne h)]

/-- `CleanupExpired` at `t`, on keys that are distinct (as `sync.Map` keys are), changes no
answer of a read at any clock from `t` on: it deletes only items whose deadline is before
`t`, which a read already treats as expired. -/
theorem find_cleanupExpired (c : HighPerformanceCache) (hnd : (c.l1.map Prod.fst).Nodup)
    {t t' : Int} (htt : t ≤ t') (key : String) : (c.cleanupExpired t).find key t' = c.find key t' := by
  unfold cleanupExpired
  split_ifs with hL1
  · rfl
  · simp only [Bool.not_eq_true', Bool.not_eq_false] at hL1
    unfold find readL2
    rw [readL1_fst, readL1_fst]
    dsimp only
    rw [foldl_deleteL1]
    simp only [hL1, if_true, loadL1]
    by_cases hk : key ∈ (c.l1.filter fun e => e.2.expiresAt < t).map Prod.fst
    · obtain ⟨e, he, rfl⟩ := List.mem_map.mp hk
      obtain ⟨he, hexp⟩ := List.mem_filter.mp he
      rw [lookup_filter_eq_none fun e' _ he' => by simp [he', hk], lookup_of_mem hnd he]
      have : ¬t' < e.2.expiresAt := by simp at hexp; omega
      simp [this]
    · rw [lookup_filter fun e' _ he' => by simp [he', hk]]

/-- On distinct keys, `CleanupExpired` at `t` with L1 on keeps exactly the items whose
deadline is not before `t`: deleting by key removes no item but the expired one of that
key. -/
theorem cleanupExpired_l1 (c : HighPerformanceCache) (hnd : (c.l1.map Prod.fst).Nodup) {t : Int}
    (hL1 : c.config.enableL1 = true) :
    (c.cleanupExpired t).l1 = c.l1.filter fun e => t ≤ e.2.expiresAt := by
  simp only [cleanupExpired, hL1, Bool.not_true, Bool.false_eq_true, if_false, foldl_deleteL1]
  refine List.filter_congr fun e he => ?_
  have hkey : e.1 ∈ (c.l1.filter fun e => e.2.expiresAt < t).map Prod.fst ↔ e.2.expiresAt < t := by
    refine ⟨fun hk => ?_, fun hlt => List.mem_map.mpr ⟨e, List.mem_filter.mpr ⟨he, by simpa using hlt⟩, rfl⟩⟩
    obtain ⟨e', he', hk'⟩ := List.mem_map.mp hk
    obtain ⟨he'l, hlt⟩ := List.mem_filter.mp he'
    rw [List.inj_on_of_nodup_map hnd he'l he hk'] at hlt
    simpa using hlt
  exact decide_eq_decide.mpr (hkey.not.trans not_lt)

/-- `CleanupExpired` at `t`, with L1 on and distinct keys, keeps exactly the items whose
deadline is not before `t`, so one whose deadline is `t` itself stays, though a read at `t`
already treats it as expired; and it changes no answer of a `GetAd` at any clock from `t`
on. -/
theorem cleanupExpired_getAd (c : HighPerformanceCache) (hnd : (c.l1.map Prod.fst).Nodup)
    {t t' : Int} (htt : t ≤ t') :
    (c.config.enableL1 = true → (c.cleanupExpired t).l1 = c.l1.filter fun e => t ≤ e.2.expiresAt) ∧
      (∀ e ∈ c.l1, e.2.expiresAt = t → (c.readL1 e.1 t).1 = none) ∧
      ∀ adID : AdID, ((c.cleanupExpired t).getAd adID t').1 = (c.getAd adID t').1 := by
  refine ⟨cleanupExpired_l1 c hnd, fun e he hexp => ?_,
    fun adID => by rw [getAd_fst, getAd_fst, find_cleanupExpired c hnd htt]⟩
  unfold readL1
  split_ifs
  · rw [loadL1, lookup_of_mem hnd he]
    simp [hexp]
  · rfl

/-- An item expired at `5` and one whose deadline is `10`, cleaned up at `10`: the first
goes, the second stays though a read at `10` misses it, and a read at `10` answers as it
did. -/
theorem cleanupExpired_getAd_at_sample :
    let c : HighPerformanceCache :=
      ⟨defaultConfig, [("ad:", ⟨zeroAd, 5⟩), ("ad:b", ⟨zeroAd, 10⟩)], StringKeys.empty⟩
    ((c.cleanupExpired 10).getAd zeroAd.id 10).1 = (c.getAd zeroAd.id 10).1 ∧
      (c.cleanupExpired 10).l1 = [("ad:b", ⟨zeroAd, 10⟩)] ∧ (c.readL1 "ad:b" 10).1 = none := by
  intro c
  have h := cleanupExpired_getAd c (by decide) (le_refl 10)
  refine ⟨h.2.2 zeroAd.id, (h.1 rfl).trans (by decide), h.2.1 ("ad:b", ⟨zeroAd, 10⟩) (by simp [c]) rfl⟩

/-! ## The round trip of `SetAd` through L1 -/

theorem lookup_map_replace_ne {key key' : String} {item : CacheItem} (h : key' ≠ key) :
    ∀ l1 : List (String × CacheItem),
      (l1.map fun e => if e.1 = key then (key, item) else e).lookup key' = l1.lookup key'
  | [] => rfl
  | (k, v) :: l1 => by
    have ih := @lookup_map_replace_ne key key' item h l1
    simp only [List.map_cons]
    by_cases hk : k = key
    · subst hk
      rw [if_pos rfl, List.lookup_cons, List.lookup_cons, beq_false_of_ne h, ih]
    · rw [if_neg hk, List.lookup_cons, List.lookup_cons, ih]

theorem lookup_map_replace_self {key : String} {item : CacheItem} :
    ∀ l1 : List (String × CacheItem), key ∈ l1.map Prod.fst →
      (l1.map fun e => if e.1 = key then (key, item) else e).lookup key = some item
  | [], h => absurd h (List.not_mem_nil _)
  | (k, v) :: l1, h => by
    simp only [List.map_cons]
    by_cases hk : k = key
    · subst hk
      rw [if_pos rfl, List.lookup_cons_self]
    · have h' : key ∈ l1.map Prod.fst := (List.mem_cons.mp h).resolve_left fun e => hk e.symm
      rw [if_neg hk, List.lookup_cons, beq_false_of_ne (Ne.symm hk)]
      exact lookup_map_replace_self l1 h'

/-- `sync.Map.Store` then `Load`: the item stored at its key, every other key as before. -/
theorem loadL1_storeL1 (l1 : List (String × CacheItem)) (key : String) (item : CacheItem)
    (key' : String) :
    loadL1 (storeL1 l1 key item) key' = if key' = key then some item else loadL1 l1 key' := by
  unfold storeL1 loadL1
  split_ifs with hmem hk hk
  · subst hk
    exact lookup_map_replace_self l1 hmem
  · exact lookup_map_replace_ne hk l1
  · subst hk
    have hnone : l1.lookup key' = none := by
      rw [List.lookup_eq_none_iff]
      intro p hp
      simp only [bne_iff_ne, ne_eq]
      rintro rfl
      exact hmem (List.mem_map_of_mem Prod.fst hp)
    simp [List.lookup_append, hnone]
  · simp [List.lookup_append, List.lookup, beq_false_of_ne hk]

theorem loadL1_setL1_self (l1 : List (String × CacheItem)) (max : Int) (key : String) (data : Ad)
    (ttl now : Int) : loadL1 (setL1 l1 max key data ttl now) key = some ⟨data, now + ttl⟩ := by
  rw [setL1, loadL1_storeL1, if_pos rfl]

/-- With L1 on, `SetAd` followed by `GetAd` of the same identifier answers the very ad that
was set, at every clock before its L1 deadline `now + L1TTL`: the item is stored after the
eviction, so `setL1` never evicts it. -/
theorem setAd_getAd_roundtrip (c : HighPerformanceCache) (a : Ad) {now t : Int}
    (hL1 : c.config.enableL1 = true) (ht : t < now + c.config.l1TTL) :
    (c.setAd a now).1 = .ok () ∧ ((c.setAd a now).2.getAd a.id t).1 = .ok a := by
  refine ⟨rfl, ?_⟩
  rw [getAd_fst, find, readL1_fst, setAd_snd]
  simp [hL1, loadL1_setL1_self, ht]

/-- An ad set at `0` in a new cache with the default configuration, read back at `1`. -/
theorem setAd_getAd_roundtrip_at_sample :
    (((new StringKeys.empty none).setAd zeroAd 0).2.getAd zeroAd.id 1).1 = .ok zeroAd :=
  (setAd_getAd_roundtrip (new StringKeys.empty none) zeroAd rfl (by decide)).2

end HighPerformanceCache

end AdQueue
