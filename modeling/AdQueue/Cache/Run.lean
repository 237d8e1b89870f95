import AdQueue.Cache.Bulk

/-!
# Runs of the cache

The cache as a state machine: a call (`CacheOp`) at a clock takes a cache to the next
(`step`), and a run is a list of calls (`run`).  Every clock is arbitrary; nothing needs the
clock to advance.

*What a call can do.*  `Moves` says once what any call does to the cache.  The
configuration stays.  L1 is reached from the old L1 by deletions and by `setL1` of keys
(`Reach`) that are either the key of an ad the call was handed (`CacheOp.Stores`) or a key
L2 held when the call began.  An L2 key the call was not handed keeps its value or is
deleted.  `step_moves` proves this call by call, and it composes (`Moves.trans`).

*Two invariants over whole runs.*
* L1 never holds two items under one key, and never more than
  `max(L1MaxItems, 1)` items (`run_keeps_l1_bounded`): `setL1` evicts at the limit before
  it stores (`L1Ok.setL1`).  At the limit it deletes exactly the first
  `L1MaxItems - ⌊9·L1MaxItems/10⌋ + 1` items in `Range` order, live or expired
  (`setL1_evicts_at_limit`).
* A deleted ad stays deleted: after `DeleteAd`, every `GetAd` of its identifier fails, along
  any run of calls none of which is handed an ad with that identifier
  (`deleted_ad_stays_unreadable`).  No call writes a key to L1 that L2 does not hold or that
  it was not handed (`step_moves`).
-/

namespace AdQueue

/-- A call on the cache, with its arguments.  `invalidatePattern` carries the keys
`KEYS pattern` answers; the loaders are the functions `PrefetchAds` and `WarmupCache`
are given. -/
inductive CacheOp where
  | getAd (adID : AdID)
  | setAd (a : Ad)
  | setAdBatch (ads : List Ad)
  | getAdBatch (adIDs : List AdID)
  | deleteAd (adID : AdID)
  | invalidatePattern (keys : List String)
  | prefetchAds (adIDs : List AdID) (loader : List AdID → Except String (List Ad))
  | warmupCache (loader : Int → Except String (List Ad))
  | cleanupExpired

namespace CacheOp

/-- The keys of the ads a call is handed, directly or by its loader. -/
def Stores (bulk : BulkConfig) : CacheOp → String → Prop
  | .setAd a, key => key = "ad:" ++ a.id.value
  | .setAdBatch ads, key => ∃ a ∈ ads, key = "ad:" ++ a.id.value
  | .prefetchAds _ loader, key =>
    ∃ adIDs ads, loader adIDs = .ok ads ∧ ∃ a ∈ ads, key = "ad:" ++ a.id.value
  | .warmupCache loader, key =>
    ∃ ads, loader bulk.prefetchCount = .ok ads ∧ ∃ a ∈ ads, key = "ad:" ++ a.id.value
  | _, _ => False

end CacheOp

namespace HighPerformanceCache

/-- One call at a clock, and the cache it leaves. -/
def step (bulk : BulkConfig) (c : HighPerformanceCache) : Int × CacheOp → HighPerformanceCache
  | (now, .getAd adID) => (c.getAd adID now).2
  | (now, .setAd a) => (c.setAd a now).2
  | (now, .setAdBatch ads) => (c.setAdBatch ads now).2
  | (now, .getAdBatch adIDs) => (c.getAdBatch adIDs now).2
  | (_, .deleteAd adID) => (c.deleteAd adID).2
  | (_, .invalidatePattern keys) => (c.invalidatePattern bulk.batchSize keys).2
  | (now, .prefetchAds adIDs loader) => (c.prefetchAds adIDs loader now).2
  | (now, .warmupCache loader) => (c.warmupCache bulk.prefetchCount loader now).2
  | (now, .cleanupExpired) => c.cleanupExpired now

/-- Calls one after another. -/
def run (bulk : BulkConfig) (c : HighPerformanceCache) : List (Int × CacheOp) → HighPerformanceCache
  | [] => c
  | o :: os => (c.step bulk o).run bulk os

/-! ## `setL1` at the limit -/

/-- The count stops below `max` only when every entry was counted. -/
theorem rangeCount_lt {max : Int} :
    ∀ (l1 : List (String × CacheItem)) (size : Int), rangeCount max l1 size < max →
      size + l1.length < max
  | [], size, h => by simpa using h
  | _ :: l1, size, h => by
    unfold rangeCount at h
    split_ifs at h with hs
    · have := rangeCount_lt l1 (size + 1) h
      simp only [List.length_cons, Nat.cast_add, Nat.cast_one]
      omega
    · omega

/-- Below `max`, the count counts every entry. -/
theorem rangeCount_eq_length {max : Int} :
    ∀ (l1 : List (String × CacheItem)) (size : Int), size + l1.length < max →
      rangeCount max l1 size = size + l1.length
  | [], size, _ => by simp [rangeCount]
  | _ :: l1, size, h => by
    simp only [List.length_cons, Nat.cast_add, Nat.cast_one] at h ⊢
    rw [rangeCount, if_pos (by omega), rangeCount_eq_length l1 (size + 1) (by omega)]
    ring

/-- The count reaches `max` when there are enough entries. -/
theorem rangeCount_eq_max {max : Int} :
    ∀ (l1 : List (String × CacheItem)) (size : Int), size < max → max ≤ size + l1.length →
      rangeCount max l1 size = max
  | [], size, h, h' => by simp at h'; omega
  | _ :: l1, size, h, h' => by
    unfold rangeCount
    split_ifs with hs
    · exact rangeCount_eq_max l1 (size + 1) hs (by simp at h'; omega)
    · omega

/-- The evicting walk deletes the first entries, at least one, and goes on while the count
stays at least `max*9/10`. -/
theorem evictL1_eq_drop {max : Int} :
    ∀ (l1 : List (String × CacheItem)) (size : Int),
      evictL1 max l1 size = l1.drop (Max.max 1 (size - (max * 9).tdiv 10 + 1)).toNat
  | [], _ => by simp [evictL1]
  | _ :: l1, size => by
    unfold evictL1
    split_ifs with h
    · rw [evictL1_eq_drop l1, show (Max.max 1 (size - (max * 9).tdiv 10 + 1)).toNat =
        (Max.max 1 (size - 1 - (max * 9).tdiv 10 + 1)).toNat + 1 by omega]
      rfl
    · rw [show (Max.max 1 (size - (max * 9).tdiv 10 + 1)).toNat = 0 + 1 by omega]
      rfl

theorem evictL1_sublist {max : Int} (l1 : List (String × CacheItem)) (size : Int) :
    List.Sublist (evictL1 max l1 size) l1.tail := by
  rw [evictL1_eq_drop, ← List.drop_one]
  exact List.drop_sublist_drop_left _ (by omega)

/-- The keys after `Store`: the same, or one more at the end. -/
theorem keys_storeL1 (l1 : List (String × CacheItem)) (key : String) (item : CacheItem) :
    (storeL1 l1 key item).map Prod.fst =
      if key ∈ l1.map Prod.fst then l1.map Prod.fst else l1.map Prod.fst ++ [key] := by
  unfold storeL1
  split_ifs
  · rw [List.map_map]
    congr 1
    funext e
    by_cases h : e.1 = key <;> simp [h]
  · simp

/-- `setL1` at the limit: on `L1MaxItems ≥ 1` distinct entries, it deletes the first
`L1MaxItems - ⌊9·L1MaxItems/10⌋ + 1` in `Range` order, whatever their deadlines, before it
stores; below the limit it deletes nothing.  So a new key leaves `⌊9·L1MaxItems/10⌋` items
when `L1MaxItems ≥ 2`. -/
theorem setL1_evicts_at_limit (l1 : List (String × CacheItem)) {max : Int} (hmax : 1 ≤ max)
    (hlen : (l1.length : Int) ≤ max) (key : String) (data : Ad) (ttl now : Int) :
    setL1 l1 max key data ttl now = storeL1 (if (l1.length : Int) < max then l1
      else l1.drop (max - (max * 9).tdiv 10 + 1).toNat) key ⟨data, now + ttl⟩ ∧
    (2 ≤ max → (l1.length : Int) = max → key ∉ l1.map Prod.fst →
      ((setL1 l1 max key data ttl now).length : Int) = (max * 9).tdiv 10) := by
  have h9 : (max * 9).tdiv 10 = max * 9 / 10 := Int.tdiv_eq_ediv (by omega) (by norm_num)
  have hevict : (l1.length : Int) = max → setL1 l1 max key data ttl now =
      storeL1 (l1.drop (max - (max * 9).tdiv 10 + 1).toNat) key ⟨data, now + ttl⟩ := by
    intro heq
    rw [setL1, rangeCount_eq_max l1 0 (by omega) (by omega), if_pos le_rfl, evictL1_eq_drop]
    congr 3
    omega
  refine ⟨?_, fun h2 heq hkey => ?_⟩
  · split_ifs with hlt
    · have hcount : ¬ max ≤ rangeCount max l1 0 := by
        rw [rangeCount_eq_length l1 0 (by omega)]
        omega
      rw [setL1, if_neg hcount]
    · exact hevict (by omega)
  · rw [hevict heq]
    have hnot : key ∉ (l1.drop (max - (max * 9).tdiv 10 + 1).toNat).map Prod.fst := fun h =>
      hkey ((List.drop_sublist _ _).map Prod.fst |>.subset h)
    have hlen' := congrArg List.length (keys_storeL1 (l1.drop (max - (max * 9).tdiv 10 + 1).toNat)
      key ⟨data, now + ttl⟩)
    rw [if_neg hnot, List.length_map, List.length_append, List.length_map, List.length_drop] at hlen'
    rw [hlen']
    simp only [List.length_singleton, Nat.cast_add, Nat.cast_one]
    omega

/-- Two items at a limit of two: `setL1` of a third key evicts both and leaves one item,
`⌊9·2/10⌋`. -/
theorem setL1_evicts_at_limit_two :
    ((setL1 [("ad:a", ⟨zeroAd, 5⟩), ("ad:b", ⟨zeroAd, 7⟩)] 2 "ad:c" zeroAd 10 0).length : Int) = 1 :=
  (setL1_evicts_at_limit [("ad:a", ⟨zeroAd, 5⟩), ("ad:b", ⟨zeroAd, 7⟩)] (by decide) (by decide)
    "ad:c" zeroAd 10 0).2 (by decide) (by decide) (by decide)

/-! ## The L1 bound -/

/-- L1 holds distinct keys and at most `max(L1MaxItems, 1)` items. -/
def L1Ok (max : Int) (l1 : List (String × CacheItem)) : Prop :=
  (l1.map Prod.fst).Nodup ∧ (l1.length : Int) ≤ Max.max max 1

theorem L1Ok.sublist {max : Int} {l1 l1' : List (String × CacheItem)} (h : L1Ok max l1)
    (hs : List.Sublist l1' l1) : L1Ok max l1' :=
  ⟨(hs.map Prod.fst).nodup h.1, le_trans (by exact_mod_cast hs.length_le) h.2⟩

theorem L1Ok.deleteL1 {max : Int} {l1 : List (String × CacheItem)} (h : L1Ok max l1)
    (key : String) : L1Ok max (HighPerformanceCache.deleteL1 l1 key) :=
  h.sublist (List.filter_sublist _)

theorem L1Ok.storeL1 {max : Int} {l1 : List (String × CacheItem)} (hnd : (l1.map Prod.fst).Nodup)
    (hlen : (l1.length : Int) + 1 ≤ Max.max max 1) (key : String) (item : CacheItem) :
    L1Ok max (HighPerformanceCache.storeL1 l1 key item) := by
  have hlen' : (HighPerformanceCache.storeL1 l1 key item).length ≤ l1.length + 1 := by
    unfold HighPerformanceCache.storeL1
    split_ifs <;> simp
  constructor
  · rw [keys_storeL1]
    split_ifs with hk
    · exact hnd
    · exact List.nodup_append.mpr ⟨hnd, List.nodup_singleton _, List.disjoint_singleton.mpr hk⟩
  · omega

/-- `setL1` keeps L1 bounded: at the limit the walk evicts at least one entry before the
store adds at most one. -/
theorem L1Ok.setL1 {max : Int} {l1 : List (String × CacheItem)} (h : L1Ok max l1) (key : String)
    (data : Ad) (ttl now : Int) : L1Ok max (HighPerformanceCache.setL1 l1 max key data ttl now) := by
  dsimp only [HighPerformanceCache.setL1]
  split_ifs with hfull
  · have hs := @evictL1_sublist max l1 (rangeCount max l1 0)
    have hlen := hs.length_le
    rw [List.length_tail] at hlen
    refine L1Ok.storeL1 ((hs.trans (List.tail_sublist l1)).map Prod.fst |>.nodup h.1) ?_ key _
    have := h.2
    omega
  · have := rangeCount_lt l1 0 (not_le.mp hfull)
    exact L1Ok.storeL1 h.1 (by omega) key _

/-- The keys after `setL1`: old keys and the one stored. -/
theorem mem_keys_setL1 {l1 : List (String × CacheItem)} {max : Int} {key key' : String}
    {data : Ad} {ttl now : Int} (h : key' ∈ (setL1 l1 max key data ttl now).map Prod.fst) :
    key' ∈ l1.map Prod.fst ∨ key' = key := by
  unfold setL1 at h
  rw [keys_storeL1] at h
  have hsub : ∀ l : List (String × CacheItem), List.Sublist l l1 → key' ∈ l.map Prod.fst →
      key' ∈ l1.map Prod.fst := fun l hl hk => (hl.map Prod.fst).subset hk
  have hev := (@evictL1_sublist max l1 (rangeCount max l1 0)).trans (List.tail_sublist l1)
  split_ifs at h with hfull hk hk
  · exact .inl (hsub _ hev h)
  · rw [List.mem_append, List.mem_singleton] at h
    exact h.imp (hsub _ hev) id
  · exact .inl h
  · rwa [List.mem_append, List.mem_singleton] at h

/-! ## What a call can do -/

/-- L1 reached from `l1` by deletions and by `setL1` at `max` of keys satisfying `P`. -/
inductive Reach (max : Int) (P : String → Prop) (l1 : List (String × CacheItem)) :
    List (String × CacheItem) → Prop
  | refl : Reach max P l1 l1
  | delete {l1'} (key : String) : Reach max P l1 l1' → Reach max P l1 (deleteL1 l1' key)
  | set {l1'} (key : String) (data : Ad) (ttl now : Int) :
    P key → Reach max P l1 l1' → Reach max P l1 (setL1 l1' max key data ttl now)

namespace Reach

variable {max : Int} {P Q : String → Prop} {l1 l1' l1'' : List (String × CacheItem)}

theorem trans (h : Reach max P l1 l1') (h' : Reach max P l1' l1'') : Reach max P l1 l1'' := by
  induction h' with
  | refl => exact h
  | delete key _ ih => exact .delete key ih
  | set key data ttl now hk _ ih => exact .set key data ttl now hk ih

theorem mono (h : Reach max P l1 l1') (hPQ : ∀ key, P key → Q key) : Reach max Q l1 l1' := by
  induction h with
  | refl => exact .refl
  | delete key _ ih => exact .delete key ih
  | set key data ttl now hk _ ih => exact .set key data ttl now (hPQ key hk) ih

theorem l1Ok (h : Reach max P l1 l1') (hok : L1Ok max l1) : L1Ok max l1' := by
  induction h with
  | refl => exact hok
  | delete key _ ih => exact ih.deleteL1 key
  | set key data ttl now _ _ ih => exact ih.setL1 key data ttl now

/-- A key that `P` rules out and `l1` lacks stays out. -/
theorem not_mem (h : Reach max P l1 l1') {key : String} (hP : ¬ P key)
    (hk : key ∉ l1.map Prod.fst) : key ∉ l1'.map Prod.fst := by
  induction h with
  | refl => exact hk
  | delete key' _ ih =>
    exact fun hm => ih ((List.filter_sublist _).map Prod.fst |>.subset hm)
  | set key' data ttl now hk' _ ih =>
    intro hm
    rcases mem_keys_setL1 hm with hm | rfl
    · exact ih hm
    · exact hP hk'

theorem foldl_deleteL1 (keys : List String) :
    ∀ {l1'}, Reach max P l1 l1' → Reach max P l1 (keys.foldl deleteL1 l1') := by
  induction keys with
  | nil => exact id
  | cons key keys ih => exact fun h => ih (.delete key h)

end Reach

/-- What a call does to the cache: the configuration stays; L1 moves by deletions and by
`setL1` of keys it was handed (`P`) or that L2 held; an L2 key outside `P` keeps its value
or is deleted. -/
def Moves (P : String → Prop) (c d : HighPerformanceCache) : Prop :=
  d.config = c.config ∧
    Reach c.config.l1MaxItems (fun key => P key ∨ (c.config.enableL2 = true ∧ c.l2 key ≠ none))
      c.l1 d.l1 ∧
    ∀ key, ¬ P key → d.l2 key = c.l2 key ∨ d.l2 key = none

namespace Moves

variable {P Q : String → Prop} {c d e : HighPerformanceCache}

theorem refl (c : HighPerformanceCache) : Moves P c c :=
  ⟨rfl, .refl, fun _ _ => .inl rfl⟩

theorem trans (h : Moves P c d) (h' : Moves P d e) : Moves P c e := by
  obtain ⟨hc, hr, hl2⟩ := h
  obtain ⟨hc', hr', hl2'⟩ := h'
  rw [hc] at hr'
  have hheld : ∀ key, (P key ∨ (c.config.enableL2 = true ∧ d.l2 key ≠ none)) →
      P key ∨ (c.config.enableL2 = true ∧ c.l2 key ≠ none) := by
    intro key hk
    by_cases hPk : P key
    · exact .inl hPk
    · obtain ⟨hL2, hkey⟩ := hk.resolve_left hPk
      rcases hl2 key hPk with h | h
      · exact .inr ⟨hL2, h ▸ hkey⟩
      · exact absurd h hkey
  refine ⟨hc'.trans hc, hr.trans (hr'.mono hheld), fun key hP => ?_⟩
  rcases hl2' key hP with h' | h'
  · rcases hl2 key hP with h | h
    · exact .inl (h'.trans h)
    · exact .inr (h'.trans h)
  · exact .inr h'

theorem mono (h : Moves P c d) (hPQ : ∀ key, P key → Q key) : Moves Q c d := by
  obtain ⟨hc, hr, hl2⟩ := h
  exact ⟨hc, hr.mono fun key hk => hk.imp (hPQ key) id, fun key hQ => hl2 key (hQ ∘ hPQ key)⟩

theorem deleteL1 (h : Moves P c d) (key : String) :
    Moves P c { d with l1 := HighPerformanceCache.deleteL1 d.l1 key } :=
  ⟨h.1, .delete key h.2.1, h.2.2⟩

theorem foldl_deleteL1 (h : Moves P c d) (keys : List String) :
    Moves P c { d with l1 := keys.foldl HighPerformanceCache.deleteL1 d.l1 } :=
  ⟨h.1, h.2.1.foldl_deleteL1 keys, h.2.2⟩

/-- `setL1` of a key the call was handed. -/
theorem setL1 (h : Moves P c d) {key : String} (hk : P key) (data : Ad) (ttl now : Int) :
    Moves P c { d with l1 := HighPerformanceCache.setL1 d.l1 c.config.l1MaxItems key data ttl now } :=
  ⟨h.1, .set key data ttl now (.inl hk) h.2.1, h.2.2⟩

/-- `setL1` of a key L2 holds, on a call that reads L2. -/
theorem setL1_held (h : Moves P c d) (hL2 : c.config.enableL2 = true) {key : String}
    (hk : d.l2 key ≠ none) (data : Ad) (ttl now : Int) :
    Moves P c { d with l1 := HighPerformanceCache.setL1 d.l1 c.config.l1MaxItems key data ttl now } := by
  refine ⟨h.1, .set key data ttl now ?_ h.2.1, h.2.2⟩
  by_cases hP : P key
  · exact .inl hP
  · rcases h.2.2 key hP with h' | h'
    · exact .inr ⟨hL2, h' ▸ hk⟩
    · exact absurd h' hk

theorem set_l2 (h : Moves P c d) {key : String} (hk : P key) (value : String) (ttl now : Int) :
    Moves P c { d with l2 := d.l2.set key value ttl now } := by
  refine ⟨h.1, h.2.1, fun key' hP => ?_⟩
  show d.l2.set key value ttl now key' = _ ∨ d.l2.set key value ttl now key' = _
  rw [StringKeys.set_other d.l2 value ttl now (by rintro rfl; exact hP hk)]
  exact h.2.2 key' hP

theorem del_l2 (h : Moves P c d) (keys : List String) : Moves P c { d with l2 := d.l2.del keys } := by
  refine ⟨h.1, h.2.1, fun key hP => ?_⟩
  by_cases hk : key ∈ keys
  · exact .inr (if_pos hk)
  · show d.l2.del keys key = _ ∨ d.l2.del keys key = _
    rw [show d.l2.del keys key = d.l2 key from if_neg hk]
    exact h.2.2 key hP

end Moves

theorem ne_none_of_decode {kv : StringKeys} {key : String} {now : Int} {a : Ad}
    (h : (kv.get key now).bind unmarshalAd = some a) : kv key ≠ none := by
  intro hnone
  simp [StringKeys.get, hnone] at h

/-! ## Each call -/

section Calls

variable {P : String → Prop} (now : Int)

theorem moves_readL1 (c : HighPerformanceCache) (key : String) : Moves P c (c.readL1 key now).2 := by
  rcases readL1_cases c key now with h | ⟨h, -⟩ <;> rw [h]
  · exact .refl c
  · exact (Moves.refl c).deleteL1 key

theorem moves_getAd (c : HighPerformanceCache) (adID : AdID) : Moves P c (c.getAd adID now).2 := by
  have hr := moves_readL1 (P := P) now c ("ad:" ++ adID.value)
  dsimp only [getAd]
  split
  · next h => rw [h] at hr; exact hr
  · next c₁ h =>
    rw [h] at hr
    split_ifs with hL2 hL1
    · split
      · next a hdec => exact hr.setL1_held hL2 (ne_none_of_decode hdec) a _ now
      · exact hr
    · split <;> exact hr
    · exact hr

theorem moves_setAd (c : HighPerformanceCache) (a : Ad) (hk : P ("ad:" ++ a.id.value)) :
    Moves P c (c.setAd a now).2 := by
  rw [setAd_snd]
  cases c.config.enableL1 <;> cases c.config.enableL2
  · exact .refl c
  · exact (Moves.refl c).set_l2 hk _ _ now
  · exact (Moves.refl c).setL1 hk a _ now
  · exact ((Moves.refl c).set_l2 hk _ _ now).setL1 hk a _ now

theorem moves_setAdBatch (c : HighPerformanceCache) (ads : List Ad)
    (hk : ∀ a ∈ ads, P ("ad:" ++ a.id.value)) : Moves P c (c.setAdBatch ads now).2 := by
  have hl2 : ∀ {d : HighPerformanceCache} (ads' : List Ad), (∀ a ∈ ads', P ("ad:" ++ a.id.value)) →
      Moves P c d → Moves P c { d with l2 := ads'.foldl (fun kv a =>
        kv.set ("ad:" ++ a.id.value) (marshalAd a) c.config.l2TTL now) d.l2 } := by
    intro d ads' hk' h
    induction ads' generalizing d with
    | nil => exact h
    | cons a ads' ih =>
      obtain ⟨ha, hads⟩ := List.forall_mem_cons.mp hk'
      exact ih hads (h.set_l2 ha _ _ now)
  have hl1 : ∀ {d : HighPerformanceCache} (ads' : List Ad), (∀ a ∈ ads', P ("ad:" ++ a.id.value)) →
      Moves P c d → Moves P c { d with l1 := ads'.foldl (fun l1 a =>
        setL1 l1 c.config.l1MaxItems ("ad:" ++ a.id.value) a c.config.l1TTL now) d.l1 } := by
    intro d ads' hk' h
    induction ads' generalizing d with
    | nil => exact h
    | cons a ads' ih =>
      obtain ⟨ha, hads⟩ := List.forall_mem_cons.mp hk'
      exact ih hads (h.setL1 ha a _ now)
  dsimp only [setAdBatch]
  split_ifs
  · exact .refl c
  · exact hl1 ads hk (hl2 ads hk (.refl c))
  · exact hl1 ads hk (.refl c)
  · exact hl2 ads hk (.refl c)
  · exact .refl c

theorem moves_foldl_l1Turn {c : HighPerformanceCache} :
    ∀ (adIDs : List AdID) (acc : List Ad × List AdID × HighPerformanceCache), Moves P c acc.2.2 →
      Moves P c (adIDs.foldl (l1Turn now) acc).2.2
  | [], _, h => h
  | adID :: adIDs, acc, h => by
    have hr := h.trans (moves_readL1 now acc.2.2 ("ad:" ++ adID.value))
    apply moves_foldl_l1Turn adIDs
    unfold l1Turn
    split <;> next heq => rw [heq] at hr; exact hr

theorem l2Turn_l2 (acc : List Ad × List AdID × HighPerformanceCache) (r : AdID × Option String) :
    (l2Turn now acc r).2.2.l2 = acc.2.2.l2 := by
  dsimp only [l2Turn]
  split <;> (try split_ifs) <;> rfl

theorem moves_foldl_l2Turn {c : HighPerformanceCache} (hL2 : c.config.enableL2 = true) :
    ∀ (rs : List (AdID × Option String)) (acc : List Ad × List AdID × HighPerformanceCache),
      Moves P c acc.2.2 → (∀ r ∈ rs, r.2 = acc.2.2.l2.get ("ad:" ++ r.1.value) now) →
      Moves P c (rs.foldl (l2Turn now) acc).2.2
  | [], _, h, _ => h
  | r :: rs, acc, h, hrs => by
    obtain ⟨hr, hrs⟩ := List.forall_mem_cons.mp hrs
    apply moves_foldl_l2Turn hL2 rs _ ?_ fun r' hr' => (l2Turn_l2 now acc r).symm ▸ hrs r' hr'
    dsimp only [l2Turn]
    split
    · next a hdec =>
      rw [hr] at hdec
      split_ifs
      · rw [show acc.2.2.config.l1MaxItems = c.config.l1MaxItems by rw [h.1]]
        exact h.setL1_held hL2 (ne_none_of_decode hdec) a _ now
      · exact h
    · exact h

/-- The replies of one `MGET`, paired with their keys. -/
theorem snd_of_mem_zip_map {α β : Type} {f : α → β} :
    ∀ {l : List α} {r : α × β}, r ∈ l.zip (l.map f) → r.2 = f r.1
  | [], _, h => absurd h (List.not_mem_nil _)
  | x :: l, r, h => by
    rw [List.map_cons, List.zip_cons_cons, List.mem_cons] at h
    rcases h with rfl | h
    · rfl
    · exact snd_of_mem_zip_map h

theorem moves_getAdBatch (c : HighPerformanceCache) (adIDs : List AdID) :
    Moves P c (c.getAdBatch adIDs now).2 := by
  have hp : Moves P c (c.l1Pass adIDs now).2.2 := by
    unfold l1Pass
    split_ifs
    · exact moves_foldl_l1Turn now adIDs _ (.refl c)
    · exact .refl c
  dsimp only [getAdBatch]
  split_ifs with hc
  · exact moves_foldl_l2Turn now hc.1 _ _ hp fun r hr => snd_of_mem_zip_map hr
  · exact hp

theorem moves_deleteAd (c : HighPerformanceCache) (adID : AdID) : Moves P c (c.deleteAd adID).2 := by
  dsimp only [deleteAd]
  cases c.config.enableL1 <;> cases c.config.enableL2
  · exact .refl c
  · exact (Moves.refl c).del_l2 _
  · exact (Moves.refl c).deleteL1 _
  · exact ((Moves.refl c).deleteL1 _).del_l2 _

theorem moves_deleteBatch (c : HighPerformanceCache) (keys : List String) :
    Moves P c (c.deleteBatch keys) := by
  unfold deleteBatch
  split_ifs
  · exact ((Moves.refl c).del_l2 keys).foldl_deleteL1 keys
  · exact (Moves.refl c).del_l2 keys

theorem moves_invalidatePattern (c : HighPerformanceCache) (batchSize : Int) (keys : List String) :
    Moves P c (c.invalidatePattern batchSize keys).2 := by
  unfold invalidatePattern
  split_ifs
  · exact .refl c
  · exact .refl c
  · exact .refl c
  · rw [foldl_deleteBatch, chunks_flatten]
    exact moves_deleteBatch c keys

theorem moves_cleanupExpired (c : HighPerformanceCache) : Moves P c (c.cleanupExpired now) := by
  unfold cleanupExpired
  split_ifs
  · exact .refl c
  · exact (Moves.refl c).foldl_deleteL1 _

end Calls

/-- `PrefetchAds` reads a batch, then stores what its loader returns for the misses. -/
theorem moves_prefetchAds (now : Int) (c : HighPerformanceCache) (adIDs : List AdID)
    (loader : List AdID → Except String (List Ad)) :
    Moves (fun key => ∃ miss ads, loader miss = .ok ads ∧ ∃ a ∈ ads, key = "ad:" ++ a.id.value)
      c (c.prefetchAds adIDs loader now).2 := by
  dsimp only [prefetchAds]
  split_ifs
  · exact .refl c
  · exact moves_getAdBatch now c adIDs
  · split
    · exact moves_getAdBatch now c adIDs
    · next ads hload =>
      exact (moves_getAdBatch now c adIDs).trans
        (moves_setAdBatch now _ ads fun a ha => ⟨_, ads, hload, a, ha, rfl⟩)

/-- `WarmupCache` stores what its loader returns. -/
theorem moves_warmupCache (now : Int) (c : HighPerformanceCache) (prefetchCount : Int)
    (loader : Int → Except String (List Ad)) :
    Moves (fun key => ∃ ads, loader prefetchCount = .ok ads ∧ ∃ a ∈ ads, key = "ad:" ++ a.id.value)
      c (c.warmupCache prefetchCount loader now).2 := by
  unfold warmupCache
  split
  · exact .refl c
  · next ads hload => exact moves_setAdBatch now c ads fun a ha => ⟨ads, hload, a, ha, rfl⟩

/-- What one call does, said once: it moves the cache within what it was handed. -/
theorem step_moves (bulk : BulkConfig) (c : HighPerformanceCache) (o : Int × CacheOp) :
    Moves (o.2.Stores bulk) c (c.step bulk o) := by
  obtain ⟨now, o⟩ := o
  cases o with
  | getAd adID => exact moves_getAd now c adID
  | setAd a => exact moves_setAd now c a rfl
  | setAdBatch ads => exact moves_setAdBatch now c ads fun a ha => ⟨a, ha, rfl⟩
  | getAdBatch adIDs => exact moves_getAdBatch now c adIDs
  | deleteAd adID => exact moves_deleteAd c adID
  | invalidatePattern keys => exact moves_invalidatePattern c _ keys
  | prefetchAds adIDs loader => exact moves_prefetchAds now c adIDs loader
  | warmupCache loader => exact moves_warmupCache now c bulk.prefetchCount loader
  | cleanupExpired => exact moves_cleanupExpired now c

/-- A run moves the cache within what its calls were handed. -/
theorem run_moves (bulk : BulkConfig) {P : String → Prop} :
    ∀ (ops : List (Int × CacheOp)) (c : HighPerformanceCache),
      (∀ o ∈ ops, ∀ key, o.2.Stores bulk key → P key) → Moves P c (c.run bulk ops)
  | [], c, _ => .refl c
  | o :: ops, c, h => by
    obtain ⟨ho, hops⟩ := List.forall_mem_cons.mp h
    exact ((step_moves bulk c o).mono ho).trans (run_moves bulk ops _ hops)

/-! ## Over whole runs -/

/-- Every run keeps the configuration, and keeps L1 at distinct keys and at most
`max(L1MaxItems, 1)` items, from any cache where it was so. -/
theorem run_keeps_l1_bounded (bulk : BulkConfig) (c : HighPerformanceCache)
    (h : L1Ok c.config.l1MaxItems c.l1) (ops : List (Int × CacheOp)) :
    (c.run bulk ops).config = c.config ∧ L1Ok c.config.l1MaxItems (c.run bulk ops).l1 :=
  have hm := run_moves bulk (P := fun _ => True) ops c fun _ _ _ _ => trivial
  ⟨hm.1, hm.2.1.l1Ok h⟩

/-- A new cache with the default configuration, after a `SetAd` and a `GetAdBatch`. -/
theorem run_keeps_l1_bounded_from_new :
    L1Ok 10000 ((new StringKeys.empty none).run defaultBulkConfig
      [(0, .setAd zeroAd), (1, .getAdBatch [zeroAd.id])]).l1 :=
  (run_keeps_l1_bounded defaultBulkConfig (new StringKeys.empty none) ⟨List.nodup_nil, by decide⟩
    [(0, .setAd zeroAd), (1, .getAdBatch [zeroAd.id])]).2

/-- A key that neither level holds, where it is on, is found by no read. -/
theorem find_eq_none_of_absent {e : HighPerformanceCache} {key : String} (now : Int)
    (h1 : e.config.enableL1 = true → key ∉ e.l1.map Prod.fst)
    (h2 : e.config.enableL2 = true → e.l2 key = none) : e.find key now = none := by
  have hload : e.config.enableL1 = true → loadL1 e.l1 key = none := fun hL1 => by
    rw [loadL1, List.lookup_eq_none_iff]
    intro p hp
    simp only [bne_iff_ne, ne_eq]
    rintro rfl
    exact h1 hL1 (List.mem_map_of_mem Prod.fst hp)
  unfold find readL2
  rw [readL1_fst]
  cases hL1 : e.config.enableL1 <;> cases hL2 : e.config.enableL2 <;>
    simp [hload, StringKeys.get, h2, hL1, hL2]

/-- `DeleteAd` keeps the configuration and leaves its key in neither level it has on. -/
theorem deleteAd_absent (c : HighPerformanceCache) (adID : AdID) :
    (c.deleteAd adID).2.config = c.config ∧
      (c.config.enableL1 = true → "ad:" ++ adID.value ∉ (c.deleteAd adID).2.l1.map Prod.fst) ∧
      (c.config.enableL2 = true → (c.deleteAd adID).2.l2 ("ad:" ++ adID.value) = none) := by
  have hdel : "ad:" ++ adID.value ∉ (deleteL1 c.l1 ("ad:" ++ adID.value)).map Prod.fst := fun h => by
    obtain ⟨e, he, hk⟩ := List.mem_map.mp h
    exact of_decide_eq_true (List.mem_filter.mp he).2 hk
  dsimp only [deleteAd]
  cases c.config.enableL1 <;> cases c.config.enableL2 <;>
    simp only [hdel, StringKeys.del, List.mem_singleton, ite_true, ite_false, Bool.false_eq_true,
      false_implies, true_implies, not_false_eq_true, and_self]

/-- After `DeleteAd` of an identifier, a `GetAd` of it fails, at every clock, after every
run of calls none of which is handed an ad with that identifier: no call puts a key in L1
that L2 lacks and that it was not handed, and L2 gets only keys a call was handed. -/
theorem deleted_ad_stays_unreadable (bulk : BulkConfig) (c : HighPerformanceCache) (adID : AdID)
    (ops : List (Int × CacheOp)) (hops : ∀ o ∈ ops, ¬ o.2.Stores bulk ("ad:" ++ adID.value))
    (now : Int) :
    (((c.deleteAd adID).2.run bulk ops).getAd adID now).1 = .error "ad not found in cache" := by
  obtain ⟨hdc, hd1, hd2⟩ := deleteAd_absent c adID
  obtain ⟨hc, hr, hl2⟩ := run_moves bulk (P := fun key => key ≠ "ad:" ++ adID.value) ops
    (c.deleteAd adID).2 fun o ho key hk hkey => hops o ho (hkey ▸ hk)
  rw [hdc] at hr hc
  rw [getAd_fst, find_eq_none_of_absent now (fun hL1 => hr.not_mem ?_ (hd1 (hc ▸ hL1)))
    fun hL2 => (hl2 _ (by simp)).elim (·.trans (hd2 (hc ▸ hL2))) id]
  rintro (h | ⟨hL2, hkey⟩)
  · exact h rfl
  · exact hkey (hd2 hL2)

/-- An ad set, deleted, then read back and set under another identifier: every read of it
fails. -/
theorem deleted_ad_stays_unreadable_at_sample :
    let c := ((new StringKeys.empty none).setAd zeroAd 0).2
    let other : Ad := { zeroAd with id := ⟨"other"⟩ }
    (((c.deleteAd zeroAd.id).2.run defaultBulkConfig
      [(1, .getAd zeroAd.id), (2, .setAd other), (3, .cleanupExpired)]).getAd zeroAd.id 4).1 =
        .error "ad not found in cache" := by
  intro c other
  refine deleted_ad_stays_unreadable defaultBulkConfig c zeroAd.id _ ?_ 4
  simp only [List.mem_cons, List.mem_singleton, forall_eq_or_imp, forall_eq, List.not_mem_nil,
    false_imp_iff, imp_true_iff, and_true, CacheOp.Stores, not_false_eq_true, true_and]
  decide

end HighPerformanceCache

end AdQueue
