import AdQueue.Redis.Strings

/-!
# The two-level ad cache

`cache.HighPerformanceCache`: an in-process `sync.Map` (L1) in front of Redis (L2), both
keyed `ad:<id>`.  `SetAd` writes the JSON text of the ad to L2 with the TTL `L2TTL`, then
the ad itself to L1 with `L1TTL`.  `GetAd` answers from a live L1 item; otherwise it decodes
the L2 text into an `ad.Ad`, puts that in L1, and answers it.

`ad.Ad` has only unexported fields and no `MarshalJSON`, so `encoding/json` writes `{}` for
every ad (`marshalAd`), and decoding `{}` into an `ad.Ad` succeeds and leaves it at its zero
value (`zeroAd`).  So a `GetAd` that L1 does not serve hands out the zero ad, as a hit, for
every ad that was set (`getAd_from_l2_returns_zero_ad`).

L1 is the list of its entries in the order `sync.Map.Range` visits them, which Go leaves
unspecified; the statements hold for every order.  `setL1` counts entries up to
`L1MaxItems` and, at the limit, deletes entries in that order while at least 90% of the
limit would remain.  `json.Unmarshal` is modelled on the two texts that decode to an
`ad.Ad` and that the cache can meet, `{}` and `null`; any other text counts as a failed
decode.  The hit and miss counters are left out.
-/

namespace AdQueue

/-- `CacheConfig`, the fields `GetAd` and `SetAd` read; the TTLs are nanoseconds. -/
structure CacheConfig where
  l1TTL : Int
  l2TTL : Int
  l1MaxItems : Int
  enableL1 : Bool
  enableL2 : Bool
deriving DecidableEq, Repr

/-- `CacheItem`: the cached ad and the instant it expires. -/
structure CacheItem where
  data : Ad
  expiresAt : Int
deriving DecidableEq, Repr

/-- `HighPerformanceCache`: its configuration, the entries of L1, and the Redis database of
L2. -/
structure HighPerformanceCache where
  config : CacheConfig
  l1 : List (String × CacheItem)
  l2 : StringKeys

/-- The zero `time.Time`, January 1 of year 1, in nanoseconds from the Unix epoch. -/
def zeroTime : Int := -62135596800 * 1000000000

/-- The zero value of `ad.Ad`. -/
def zeroAd : Ad := ⟨⟨""⟩, "", "", [], 0, 0, ⟨""⟩, zeroTime, none, none, none, 0⟩

/-- `json.Marshal` of an `*ad.Ad`: no field is exported, so the object is empty. -/
def marshalAd (_a : Ad) : String := "{}"

/-- `json.Unmarshal` into a zero `ad.Ad`: an object sets no field, and `null` changes
nothing. -/
def unmarshalAd (data : String) : Option Ad :=
  if data = "{}" ∨ data = "null" then some zeroAd else none

namespace HighPerformanceCache

/-! ## L1 -/

/-- `sync.Map.Load`. -/
def loadL1 (l1 : List (String × CacheItem)) (key : String) : Option CacheItem := l1.lookup key

/-- `sync.Map.Delete`. -/
def deleteL1 (l1 : List (String × CacheItem)) (key : String) : List (String × CacheItem) :=
  l1.filter fun e => e.1 ≠ key

/-- `sync.Map.Store`. -/
def storeL1 (l1 : List (String × CacheItem)) (key : String) (item : CacheItem) :
    List (String × CacheItem) :=
  if key ∈ l1.map Prod.fst then l1.map fun e => if e.1 = key then (key, item) else e
  else l1 ++ [(key, item)]

/-- The counting `Range` of `setL1`: one more per entry, while the count stays below `max`. -/
def rangeCount (max : Int) : List (String × CacheItem) → Int → Int
  | [], size => size
  | _ :: rest, size => if size + 1 < max then rangeCount max rest (size + 1) else size + 1

/-- The evicting `Range` of `setL1`: each entry visited is deleted, and the walk goes on
while the count stays at least `max*9/10`. -/
def evictL1 (max : Int) : List (String × CacheItem) → Int → List (String × CacheItem)
  | [], _ => []
  | _ :: rest, size => if (max * 9).tdiv 10 ≤ size - 1 then evictL1 max rest (size - 1) else rest

/-- `setL1`: evict at the size limit, then store the item with its expiry. -/
def setL1 (l1 : List (String × CacheItem)) (max : Int) (key : String) (data : Ad)
    (ttl now : Int) : List (String × CacheItem) :=
  let size := rangeCount max l1 0
  storeL1 (if max ≤ size then evictL1 max l1 size else l1) key ⟨data, now + ttl⟩

/-! ## The two methods -/

/-- The L1 step of `GetAd` at clock `now`: the ad of a live item, or nothing, an expired
item being deleted. -/
def readL1 (c : HighPerformanceCache) (key : String) (now : Int) :
    Option Ad × HighPerformanceCache :=
  if c.config.enableL1 then
    match loadL1 c.l1 key with
    | some item =>
      if now < item.expiresAt then (some item.data, c) else (none, { c with l1 := deleteL1 c.l1 key })
    | none => (none, c)
  else (none, c)

/-- `GetAd` at clock `now`. -/
def getAd (c : HighPerformanceCache) (adID : AdID) (now : Int) :
    Except String Ad × HighPerformanceCache :=
  let key := "ad:" ++ adID.value
  match c.readL1 key now with
  | (some a, c₁) => (.ok a, c₁)
  | (none, c₁) =>
    if c.config.enableL2 then
      match (c₁.l2.get key now).bind unmarshalAd with
      | some a =>
        (.ok a, if c.config.enableL1 then
          { c₁ with l1 := setL1 c₁.l1 c.config.l1MaxItems key a c.config.l1TTL now } else c₁)
      | none => (.error "ad not found in cache", c₁)
    else (.error "ad not found in cache", c₁)

/-- `SetAd` at clock `now`: L2 first, then L1. -/
def setAd (c : HighPerformanceCache) (a : Ad) (now : Int) : Except String Unit × HighPerformanceCache :=
  let key := "ad:" ++ a.id.value
  let c₁ := if c.config.enableL2 then { c with l2 := c.l2.set key (marshalAd a) c.config.l2TTL now }
    else c
  (.ok (), if c.config.enableL1 then
    { c₁ with l1 := setL1 c₁.l1 c.config.l1MaxItems key a c.config.l1TTL now } else c₁)

/-! ## What L2 hands back -/

/-- The L1 step changes L1 only. -/
theorem readL1_snd (c : HighPerformanceCache) (key : String) (now : Int) :
    ∃ l1, (c.readL1 key now).2 = { c with l1 := l1 } := by
  unfold readL1
  split_ifs
  · split
    · split_ifs
      · exact ⟨c.l1, rfl⟩
      · exact ⟨_, rfl⟩
    · exact ⟨c.l1, rfl⟩
  · exact ⟨c.l1, rfl⟩

/-- Every ad is written to L2 as the text `{}`, which decodes to the zero ad. -/
theorem unmarshalAd_marshalAd (a : Ad) : unmarshalAd (marshalAd a) = some zeroAd := by
  simp [unmarshalAd, marshalAd]

/-- `SetAd` with L2 on succeeds and leaves the text of the ad at its key until the key
expires. -/
theorem setAd_l2 (c : HighPerformanceCache) (a : Ad) (now : Int) (hL2 : c.config.enableL2 = true)
    {now' : Int} (httl : c.config.l2TTL ≠ -1) (hlive : 0 < c.config.l2TTL → now' < now + c.config.l2TTL) :
    (c.setAd a now).1 = .ok () ∧
      (c.setAd a now).2.l2.get ("ad:" ++ a.id.value) now' = some (marshalAd a) := by
  refine ⟨rfl, ?_⟩
  have h := StringKeys.get_set_self c.l2 ("ad:" ++ a.id.value) (marshalAd a) httl hlive
  unfold setAd
  split_ifs <;> simpa [hL2] using h

/-- A `GetAd` that L1 does not serve, with L2 on, answers what L2 decodes to. -/
theorem getAd_of_l2 {d : HighPerformanceCache} {key : String} {adID : AdID} {now : Int}
    (hkey : key = "ad:" ++ adID.value) (hL2 : d.config.enableL2 = true)
    (hmiss : (d.readL1 key now).1 = none) {a : Ad}
    (hdec : (d.l2.get key now).bind unmarshalAd = some a) : (d.getAd adID now).1 = .ok a := by
  subst hkey
  obtain ⟨l1, hd⟩ := readL1_snd d ("ad:" ++ adID.value) now
  have hread : d.readL1 ("ad:" ++ adID.value) now = (none, { d with l1 := l1 }) := Prod.ext hmiss hd
  simp only [getAd, hread, hL2, if_true]
  rw [show ({ d with l1 := l1 } : HighPerformanceCache).l2 = d.l2 from rfl, hdec]

/-- After `SetAd a` with L2 on, the call succeeds and L2 holds the text of `a` at its key
until the key expires; and a `GetAd` of `a`'s identifier that L1 does not serve (L1 off, the
item expired or evicted), while L2 still holds that text, answers the zero ad as a hit. -/
theorem getAd_from_l2_returns_zero_ad (c : HighPerformanceCache) (a : Ad) (now : Int)
    (hL2 : c.config.enableL2 = true) :
    (c.setAd a now).1 = .ok () ∧
    (∀ now', c.config.l2TTL ≠ -1 → (0 < c.config.l2TTL → now' < now + c.config.l2TTL) →
      (c.setAd a now).2.l2.get ("ad:" ++ a.id.value) now' = some (marshalAd a)) ∧
    ∀ (d : HighPerformanceCache) (now' : Int), d.config.enableL2 = true →
      d.l2.get ("ad:" ++ a.id.value) now' = some (marshalAd a) →
      (d.readL1 ("ad:" ++ a.id.value) now').1 = none →
      (d.getAd a.id now').1 = .ok zeroAd :=
  ⟨rfl, fun _ httl hlive => (setAd_l2 c a now hL2 httl hlive).2,
    fun _ _ hL2' hget hmiss => getAd_of_l2 rfl hL2' hmiss (by rw [hget]; exact unmarshalAd_marshalAd a)⟩

/-- An ad set at time `0` in the default configuration, read at `61 s`, when its L1 item
has expired: the read answers the zero ad. -/
theorem getAd_from_l2_returns_zero_ad_at_sample :
    let c : HighPerformanceCache :=
      ⟨⟨60000000000, 600000000000, 10000, true, true⟩, [], StringKeys.empty⟩
    let a : Ad := ⟨⟨"123e4567-e89b-12d3-a456-426614174000"⟩, "Summer sale", "RPG", ["all"], 3,
      300000000000, .queued, 0, none, none, none, 1⟩
    ((c.setAd a 0).2.getAd a.id 61000000000).1 = .ok zeroAd ∧ zeroAd ≠ a := by
  intro c a
  have h := getAd_from_l2_returns_zero_ad c a 0 rfl
  exact ⟨h.2.2 _ _ rfl (h.2.1 _ (by decide) fun _ => by decide) (by decide), by decide⟩

end HighPerformanceCache

end AdQueue
