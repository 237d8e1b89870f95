import AdQueue.Queue.Manager

/-!
# Reading the top of the queue

What `Dequeue`, `DequeueBatch` and `GetNext` return, on a queue that no other client
touches meanwhile.

`IsTopK k all sel` is what a read of the top `k` is for: `sel` holds `min k N` of the `N`
entries, in non-increasing score order, and no entry left out scores above an entry
returned.  `isTopK_gather` proves it of the code's way of reading, which looks at only the
top `k` of each shard: an entry left behind in its shard has `k` entries of its own shard
above it, all gathered, so after the sort it cannot beat any of the first `k`
(`ge_of_mem_take`).  The sort is the source's nested compare-and-swap loop; `swapPass`
brings a maximum to the front of what is left, and `exchangeSort_perm`,
`exchangeSort_sorted` say the loop permutes and sorts by score.

`Dequeue` keeps the first strictly greatest shard top (`BestOf` is the invariant of its
loop).  `DequeueBatch` removes the chosen members from the shards they were read from,
which is exactly "the chosen members are gone" when every member is held by one shard
only (`WellFormedQueue`).

Over successive ticks of the ad processor, each a `DequeueBatch k` with no other call
between (`dequeueBatchRun`), the batches together are a top `m·k` of the queue in
non-increasing score order, and the queue keeps exactly the rest
(`dequeueBatchRun_serves_in_order`): one batch's top is the next batch's queue minus its
entries (`entriesOf_removeBelow`).
-/

namespace AdQueue

namespace RedisQueueManager

/-! ## The exchange sort -/

/-- `a` scores at least as much as `b`. -/
def ScoreGE (a b : Z) : Prop := b.score ≤ a.score

theorem swapPass_perm (c : Z) :
    ∀ ys, (c :: ys).Perm ((swapPass c ys).1 :: (swapPass c ys).2)
  | [] => .refl _
  | y :: ys => by
    unfold swapPass
    split_ifs
    · exact ((swapPass_perm y ys).cons c).trans (.swap _ _ _)
    · exact (List.Perm.swap y c ys).trans (((swapPass_perm c ys).cons y).trans (.swap _ _ _))

/-- A pass ends with a greatest score at its position. -/
theorem swapPass_ge (c : Z) : ∀ ys, ∀ x ∈ c :: ys, x.score ≤ (swapPass c ys).1.score
  | [], x, hx => by
    rw [List.mem_singleton.mp hx]
    exact le_rfl
  | y :: ys, x, hx => by
    unfold swapPass
    split_ifs with h
    · rcases List.mem_cons.mp hx with rfl | hx
      · exact h.le.trans (swapPass_ge y ys y (List.mem_cons_self _ _))
      · exact swapPass_ge y ys x hx
    · rcases List.mem_cons.mp hx with rfl | hx
      · exact swapPass_ge x ys x (List.mem_cons_self _ _)
      · rcases List.mem_cons.mp hx with rfl | hx
        · exact (not_lt.mp h).trans (swapPass_ge c ys c (List.mem_cons_self _ _))
        · exact swapPass_ge c ys x (List.mem_cons_of_mem _ hx)

theorem swapPass_rest_le (c : Z) (ys : List Z) :
    ∀ x ∈ (swapPass c ys).2, x.score ≤ (swapPass c ys).1.score := fun x hx =>
  swapPass_ge c ys x ((swapPass_perm c ys).mem_iff.mpr (List.mem_cons_of_mem _ hx))

theorem exchangeSortFuel_spec : ∀ n (l : List Z), l.length ≤ n →
    (exchangeSortFuel n l).Perm l ∧ (exchangeSortFuel n l).Sorted ScoreGE
  | 0, [], _ => ⟨.refl _, List.sorted_nil⟩
  | 0, _ :: _, h => absurd h (by simp)
  | n + 1, [], _ => ⟨.refl _, List.sorted_nil⟩
  | n + 1, c :: cs, h => by
    have hlen : (swapPass c cs).2.length ≤ n := by
      have := (swapPass_perm c cs).length_eq
      simp only [List.length_cons] at this h
      omega
    obtain ⟨hp, hs⟩ := exchangeSortFuel_spec n _ hlen
    exact ⟨(hp.cons _).trans (swapPass_perm c cs).symm,
      List.sorted_cons.mpr ⟨fun b hb => swapPass_rest_le c cs b (hp.mem_iff.mp hb), hs⟩⟩

theorem exchangeSort_perm (l : List Z) : (exchangeSort l).Perm l :=
  (exchangeSortFuel_spec _ l le_rfl).1

theorem exchangeSort_sorted (l : List Z) : (exchangeSort l).Sorted ScoreGE :=
  (exchangeSortFuel_spec _ l le_rfl).2

/-! ## The top `k` -/

/-- `sel` is a top `k` of `all` by score: `min k N` entries of `all`, in non-increasing
score order, and no entry left out scores above a chosen one. -/
def IsTopK (k : Nat) (all sel : List Z) : Prop :=
  sel.length = min k all.length ∧ sel.Sorted ScoreGE ∧
    ∃ rest, all.Perm (sel ++ rest) ∧ ∀ x ∈ sel, ∀ y ∈ rest, y.score ≤ x.score

/-- In a list sorted by score, if `k` entries reach `v`, so do the first `k`. -/
theorem ge_of_mem_take {v : Int} : ∀ {S : List Z} {k : Nat}, S.Sorted ScoreGE →
    k ≤ S.countP (fun x => v ≤ x.score) → ∀ x ∈ S.take k, v ≤ x.score
  | [], _, _, _, x, hx => absurd hx (by simp)
  | _ :: _, 0, _, _, x, hx => absurd hx (by simp)
  | a :: S, k + 1, hs, hk, x, hx => by
    rw [List.sorted_cons] at hs
    by_cases ha : v ≤ a.score
    · rw [List.countP_cons_of_pos _ _ (by simpa using ha)] at hk
      rcases List.mem_cons.mp hx with rfl | hx
      · exact ha
      · exact ge_of_mem_take hs.2 (by omega) x hx
    · have h0 : S.countP (fun x => v ≤ x.score) = 0 :=
        List.countP_eq_zero.mpr fun b hb => by
          have : b.score ≤ a.score := hs.1 b hb
          simp only [decide_eq_true_eq]
          omega
      rw [List.countP_cons_of_neg _ _ (by simpa using ha), h0] at hk
      omega

/-! ## Gathering the top of each shard -/

/-- Every entry of the shards `shards`, shard after shard. -/
def entriesOf (db : Shards) (shards : List Nat) : List Z :=
  shards.flatMap fun i => (db i).entries

/-- What `collectTop` leaves behind in each shard. -/
def leftOf (db : Shards) (stop : Int) (shards : List Nat) : List Z :=
  shards.flatMap fun i => (db i).revSorted.drop (SortedSet.rangeLen (db i).entries.length stop)

@[simp] theorem entriesOf_nil (db : Shards) : entriesOf db [] = [] := rfl

@[simp] theorem entriesOf_cons (db : Shards) (i : Nat) (is : List Nat) :
    entriesOf db (i :: is) = (db i).entries ++ entriesOf db is := rfl

@[simp] theorem collectTop_cons (db : Shards) (stop : Int) (i : Nat) (is : List Nat) :
    collectTop db stop (i :: is) = (db i).zrevrange stop ++ collectTop db stop is := rfl

@[simp] theorem leftOf_cons (db : Shards) (stop : Int) (i : Nat) (is : List Nat) :
    leftOf db stop (i :: is) =
      (db i).revSorted.drop (SortedSet.rangeLen (db i).entries.length stop) ++ leftOf db stop is :=
  rfl

theorem mem_entriesOf {db : Shards} {shards : List Nat} {z : Z} :
    z ∈ entriesOf db shards ↔ ∃ i ∈ shards, z ∈ (db i).entries := List.mem_flatMap

theorem entriesOf_perm (db : Shards) (stop : Int) : ∀ shards,
    (entriesOf db shards).Perm (collectTop db stop shards ++ leftOf db stop shards)
  | [] => .refl _
  | i :: is => by
    simp only [entriesOf_cons, collectTop_cons, leftOf_cons, List.append_assoc]
    exact (((db i).zrevrange_split stop).1.append (entriesOf_perm db stop is)).trans
      (by simpa only [List.append_assoc] using
        (List.perm_append_comm_assoc _ _ _).append_left _)

theorem rangeLen_pred (len k : Nat) (hk : 1 ≤ k) :
    SortedSet.rangeLen len ((k : Int) - 1) = min len k := by
  rw [SortedSet.rangeLen_of_nonneg _ (by omega)]
  congr 1
  omega

theorem min_length_collectTop (db : Shards) {k : Nat} (hk : 1 ≤ k) : ∀ shards,
    min k (collectTop db ((k : Int) - 1) shards).length = min k (entriesOf db shards).length
  | [] => rfl
  | i :: is => by
    have ih := min_length_collectTop db hk is
    simp only [collectTop_cons, entriesOf_cons, List.length_append, SortedSet.length_zrevrange,
      rangeLen_pred _ _ hk]
    omega

/-- An entry left behind in its shard is outscored by at least `k` gathered entries. -/
theorem countP_collectTop (db : Shards) {k : Nat} (hk : 1 ≤ k) {shards : List Nat} {y : Z}
    (hy : y ∈ leftOf db ((k : Int) - 1) shards) :
    k ≤ (collectTop db ((k : Int) - 1) shards).countP (fun x => y.score ≤ x.score) := by
  obtain ⟨i, hi, hyi⟩ := List.mem_flatMap.mp hy
  rw [rangeLen_pred _ _ hk] at hyi
  have hlen : k < (db i).entries.length := by
    have := List.length_pos_of_mem hyi
    rw [List.length_drop, (db i).revSorted_perm.length_eq] at this
    omega
  have hsplit := ((db i).zrevrange_split ((k : Int) - 1)).2
  rw [rangeLen_pred _ _ hk] at hsplit
  have htop : ((db i).zrevrange ((k : Int) - 1)).countP (fun x => y.score ≤ x.score) = k := by
    rw [List.countP_eq_length.mpr fun x hx => by
      simpa using Z.score_le_of_revLE (hsplit x hx y hyi), SortedSet.length_zrevrange,
      rangeLen_pred _ _ hk]
    omega
  have hsub : ((db i).zrevrange ((k : Int) - 1)).Sublist (collectTop db ((k : Int) - 1) shards) :=
    List.sublist_flatten_of_mem (List.mem_map_of_mem (fun i => (db i).zrevrange ((k : Int) - 1)) hi)
  exact htop.symm.le.trans (hsub.countP_le _)

/-- Peeking the top `k` of every shard, sorting, and taking `k` reads the global top `k`. -/
theorem isTopK_gather (db : Shards) (shards : List Nat) {k : Nat} (hk : 1 ≤ k) :
    IsTopK k (entriesOf db shards)
      ((exchangeSort (collectTop db ((k : Int) - 1) shards)).take k) := by
  set C := collectTop db ((k : Int) - 1) shards
  set S := exchangeSort C
  have hS : S.Perm C := exchangeSort_perm C
  have hsorted : S.Sorted ScoreGE := exchangeSort_sorted C
  have hsplit := hsorted
  rw [← List.take_append_drop k S] at hsplit
  refine ⟨?_, hsorted.sublist (List.take_sublist _ _), S.drop k ++ leftOf db ((k : Int) - 1) shards,
    ?_, fun x hx y hy => ?_⟩
  · rw [List.length_take, hS.length_eq, ← min_length_collectTop db hk shards]
  · refine (entriesOf_perm db ((k : Int) - 1) shards).trans ?_
    rw [← List.append_assoc, List.take_append_drop]
    exact hS.symm.append_right _
  · rcases List.mem_append.mp hy with hy | hy
    · exact (List.pairwise_append.mp hsplit).2.2 x hx y hy
    · exact ge_of_mem_take hsorted ((countP_collectTop db hk hy).trans_eq (hS.countP_eq _).symm) x hx

/-! ## Dequeue -/

theorem zrevrange_zero_nil {s : SortedSet} (h : s.zrevrange 0 = []) : s.entries = [] := by
  have hlen := s.length_zrevrange 0
  rw [h, SortedSet.rangeLen_of_nonneg _ le_rfl] at hlen
  exact List.eq_nil_of_length_eq_zero (by simp at hlen; omega)

theorem zrevrange_zero_cons {s : SortedSet} {z : Z} {t : List Z} (h : s.zrevrange 0 = z :: t) :
    z ∈ s.entries ∧ ∀ e ∈ s.entries, e.score ≤ z.score := by
  obtain ⟨hp, hle⟩ := s.zrevrange_split 0
  have ht : t = [] := by
    have hlen := s.length_zrevrange 0
    rw [h, SortedSet.rangeLen_of_nonneg _ le_rfl] at hlen
    exact List.eq_nil_of_length_eq_zero (by simp at hlen; omega)
  rw [h, ht] at hp hle
  refine ⟨hp.mem_iff.mpr (List.mem_cons_self _ _), fun e he => ?_⟩
  rcases List.mem_cons.mp (hp.mem_iff.mp he) with rfl | he
  · exact le_rfl
  · exact Z.score_le_of_revLE (hle z (List.mem_cons_self _ _) e he)

/-- The invariant of the loop of `Dequeue` over the shards `seen`: no best yet means no
entry yet, and the best is an entry of its shard that scores at least every entry seen. -/
def BestOf (db : Shards) (seen : List Nat) (best : Option (Z × Nat)) : Prop :=
  (best = none → entriesOf db seen = []) ∧
    ∀ z i, best = some (z, i) →
      i ∈ seen ∧ z ∈ (db i).entries ∧ ∀ e ∈ entriesOf db seen, e.score ≤ z.score

theorem entriesOf_append (db : Shards) (s t : List Nat) :
    entriesOf db (s ++ t) = entriesOf db s ++ entriesOf db t :=
  List.flatMap_append _ _ _

theorem bestOf_keepBest {db : Shards} {seen : List Nat} {best : Option (Z × Nat)}
    (h : BestOf db seen best) (i : Nat) : BestOf db (seen ++ [i]) (keepBest db best i) := by
  obtain ⟨hnone, hsome⟩ := h
  have hseen : ∀ j, j ∈ seen → j ∈ seen ++ [i] := fun j hj => List.mem_append_left _ hj
  have hE : entriesOf db (seen ++ [i]) = entriesOf db seen ++ (db i).entries := by
    simp [entriesOf_append]
  unfold BestOf keepBest
  rw [hE]
  cases htop : (db i).zrevrange 0 with
  | nil =>
    rw [zrevrange_zero_nil htop, List.append_nil]
    exact ⟨hnone, fun z j hb => (hsome z j hb).imp (hseen j) id⟩
  | cons z t =>
    obtain ⟨hz, hmax⟩ := zrevrange_zero_cons htop
    dsimp only
    split_ifs with hbetter
    · refine ⟨by simp, ?_⟩
      rintro z' j ⟨⟩
      refine ⟨List.mem_append_right _ (List.mem_singleton_self _), hz, fun e he => ?_⟩
      rcases List.mem_append.mp he with he | he
      · rcases best with _ | ⟨b, k⟩
        · rw [hnone rfl] at he
          exact absurd he (List.not_mem_nil _)
        · exact ((hsome b k rfl).2.2 e he).trans (le_of_lt (by simpa using hbetter))
      · exact hmax e he
    · rcases best with _ | ⟨b, k⟩
      · exact absurd rfl hbetter
      · refine ⟨by simp, ?_⟩
        rintro z' j ⟨⟩
        obtain ⟨hk, hb, hle⟩ := hsome b k rfl
        refine ⟨hseen k hk, hb, fun e he => ?_⟩
        rcases List.mem_append.mp he with he | he
        · exact hle e he
        · exact (hmax e he).trans (not_lt.mp (by simpa using hbetter))

theorem bestOf_foldl {db : Shards} : ∀ (is seen : List Nat) (best : Option (Z × Nat)),
    BestOf db seen best → BestOf db (seen ++ is) (is.foldl (keepBest db) best)
  | [], seen, best, h => by simpa using h
  | i :: is, seen, best, h => by
    simpa using bestOf_foldl is (seen ++ [i]) _ (bestOf_keepBest h i)

theorem bestOf_bestEntry (r : RedisQueueManager) (db : Shards) :
    BestOf db (List.range r.shardCount) (r.bestEntry db) := by
  simpa using bestOf_foldl (List.range r.shardCount) [] none
    ⟨fun _ => rfl, fun _ _ h => absurd h (Option.noConfusion)⟩

/-! ## The states read, and what a read hands out -/

/-- The queue states the reads are specified on: every member of the shards below `n` is
an identifier, and no member is held by two of those shards. -/
def WellFormedQueue (n : Nat) (db : Shards) : Prop :=
  (∀ i < n, ∀ z ∈ (db i).entries, uuidParses z.member = true) ∧
    ∀ i < n, ∀ j < n, ∀ z ∈ (db i).entries, ∀ z' ∈ (db j).entries, z.member = z'.member → i = j

instance (n : Nat) (db : Shards) : Decidable (WellFormedQueue n db) :=
  inferInstanceAs (Decidable (_ ∧ _))

/-- The item a read hands out for an entry whose member is an identifier. -/
def itemOf (now : Int) (z : Z) : QueueItem := QueueItem.new ⟨z.member⟩ (decodePriority z.score) now

theorem toQueueItem_of_parses {now : Int} {z : Z} (h : uuidParses z.member = true) :
    toQueueItem now z = some (itemOf now z) := by
  simp [toQueueItem, parseAdID_eq_some h, itemOf]

theorem filterMap_toQueueItem (now : Int) :
    ∀ {l : List Z}, (∀ z ∈ l, uuidParses z.member = true) →
      l.filterMap (toQueueItem now) = l.map (itemOf now)
  | [], _ => rfl
  | z :: l, h => by
    rw [List.filterMap_cons, toQueueItem_of_parses (h z (List.mem_cons_self _ _)),
      filterMap_toQueueItem now fun w hw => h w (List.mem_cons_of_mem _ hw), List.map_cons]

/-! ## What `DequeueBatch` removes -/

theorem shardMapping_eq {db : Shards} {n : Nat} {stop : Int} (hwf : WellFormedQueue n db)
    {i : Nat} (hi : i < n) {z : Z} (hz : z ∈ (db i).zrevrange stop) :
    shardMapping db stop (List.range n) z.member = some i := by
  have hsome : ((List.range n).reverse.find? fun j =>
      z.member ∈ ((db j).zrevrange stop).map Z.member).isSome :=
    List.find?_isSome.mpr ⟨i, by simpa using hi, by simpa using ⟨z, hz, rfl⟩⟩
  obtain ⟨j, hj⟩ := Option.isSome_iff_exists.mp hsome
  have hjn : j < n := by simpa using List.mem_of_find?_eq_some hj
  obtain ⟨z', hz', hm⟩ := List.mem_map.mp (by simpa using List.find?_some hj)
  rw [shardMapping, hj, hwf.2 j hjn i hi z' (SortedSet.mem_of_mem_zrevrange hz') z
    (SortedSet.mem_of_mem_zrevrange hz) hm]

theorem shardMapping_lt {db : Shards} {n : Nat} {stop : Int} {m : String} {j : Nat}
    (h : shardMapping db stop (List.range n) m = some j) : j < n := by
  simpa using List.mem_of_find?_eq_some h

/-- With one shard per member, the removal loop removes the chosen members and nothing
else. -/
theorem removeChosen_eq {db : Shards} {n : Nat} {stop : Int} (hwf : WellFormedQueue n db)
    {sel : List Z} (hsel : ∀ z ∈ sel, ∃ i < n, z ∈ (db i).zrevrange stop) (i : Nat) :
    removeChosen db (toRemove (shardMapping db stop (List.range n)) sel) i =
      if i < n then (db i).zrem (sel.map Z.member) else db i := by
  unfold removeChosen
  set rm := toRemove (shardMapping db stop (List.range n)) sel i
  have hsub : ∀ m ∈ rm, m ∈ sel.map Z.member := fun m hm =>
    ((List.filter_sublist _).map _).subset hm
  have hback : i < n → ∀ z ∈ (db i).entries, z.member ∈ sel.map Z.member → z.member ∈ rm := by
    intro hi z hz hm
    obtain ⟨w, hw, hwm⟩ := List.mem_map.mp hm
    obtain ⟨j, hj, hwj⟩ := hsel w hw
    have hij := hwf.2 i hi j hj z hz w (SortedSet.mem_of_mem_zrevrange hwj) hwm.symm
    subst hij
    exact List.mem_map.mpr ⟨w, List.mem_filter.mpr ⟨hw, by simp [shardMapping_eq hwf hj hwj]⟩, hwm⟩
  have hout : ¬ i < n → rm = [] := fun hi => List.eq_nil_iff_forall_not_mem.mpr fun m hm => by
    obtain ⟨w, hw, -⟩ := List.mem_map.mp hm
    have := shardMapping_lt (of_decide_eq_true (List.mem_filter.mp hw).2)
    exact hi this
  split_ifs with hrm hi hi
  · exact (SortedSet.zrem_of_disjoint fun z hz hm => by
      simpa [hrm] using hback hi z hz hm).symm
  · rfl
  · exact SortedSet.zrem_congr fun z hz => ⟨hsub _, hback hi z hz⟩
  · exact absurd (hout hi) hrm

/-! ## The reads -/

/-- What `Dequeue`, `GetNext` and `DequeueBatch` do on a queue no other client touches:
`Dequeue` hands out an entry of greatest score and removes exactly it, or reports an empty
queue and changes nothing; for every `k ≥ 1`, `GetNext k` hands out a top `k` of all the
entries, and `DequeueBatch k` hands out the same and removes exactly those members. -/
def ReadsGlobalTop (r : RedisQueueManager) (db : Shards) (now : Int) : Prop :=
  ((entriesOf db (List.range r.shardCount) = [] ∧ r.dequeue db now = (.ok none, db)) ∨
    ∃ z i, i < r.shardCount ∧ z ∈ (db i).entries ∧
      (∀ e ∈ entriesOf db (List.range r.shardCount), e.score ≤ z.score) ∧
      r.dequeue db now = (.ok (some (itemOf now z)), db.zrem i [z.member])) ∧
  ∀ k : Nat, 1 ≤ k → ∃ sel, IsTopK k (entriesOf db (List.range r.shardCount)) sel ∧
    r.getNext db k now = sel.map (itemOf now) ∧
    r.dequeueBatch db k now =
      (sel.map (itemOf now), fun i => if i < r.shardCount then (db i).zrem (sel.map Z.member) else db i)

theorem dequeue_top (r : RedisQueueManager) (db : Shards) (now : Int)
    (hwf : WellFormedQueue r.shardCount db) :
    (entriesOf db (List.range r.shardCount) = [] ∧ r.dequeue db now = (.ok none, db)) ∨
      ∃ z i, i < r.shardCount ∧ z ∈ (db i).entries ∧
        (∀ e ∈ entriesOf db (List.range r.shardCount), e.score ≤ z.score) ∧
        r.dequeue db now = (.ok (some (itemOf now z)), db.zrem i [z.member]) := by
  obtain ⟨hnone, hsome⟩ := bestOf_bestEntry r db
  cases hb : r.bestEntry db with
  | none => exact .inl ⟨hnone hb, by simp [dequeue, hb]⟩
  | some p =>
    obtain ⟨z, i⟩ := p
    obtain ⟨hi, hz, hmax⟩ := hsome z i hb
    have hi' := List.mem_range.mp hi
    refine .inr ⟨z, i, hi', hz, hmax, ?_⟩
    simp [dequeue, hb, toQueueItem_of_parses (hwf.1 i hi' z hz)]

theorem batch_top (r : RedisQueueManager) (db : Shards) (now : Int)
    (hwf : WellFormedQueue r.shardCount db) {k : Nat} (hk : 1 ≤ k) :
    ∃ sel, IsTopK k (entriesOf db (List.range r.shardCount)) sel ∧
      r.getNext db k now = sel.map (itemOf now) ∧
      r.dequeueBatch db k now = (sel.map (itemOf now),
        fun i => if i < r.shardCount then (db i).zrem (sel.map Z.member) else db i) := by
  set sel := (exchangeSort (collectTop db ((k : Int) - 1) (List.range r.shardCount))).take k
  have hsel : ∀ z ∈ sel, ∃ i < r.shardCount, z ∈ (db i).zrevrange ((k : Int) - 1) := by
    intro z hz
    obtain ⟨i, hi, hzi⟩ := List.mem_flatMap.mp
      ((exchangeSort_perm _).mem_iff.mp (List.mem_of_mem_take hz))
    exact ⟨i, List.mem_range.mp hi, hzi⟩
  have hvalid : ∀ z ∈ sel, uuidParses z.member = true := fun z hz => by
    obtain ⟨i, hi, hzi⟩ := hsel z hz
    exact hwf.1 i hi z (SortedSet.mem_of_mem_zrevrange hzi)
  have hchoose : r.chooseBatch db k = sel :=
    List.filter_eq_self.mpr fun z hz => by simp [parseAdID, hvalid z hz]
  refine ⟨sel, isTopK_gather db _ hk, ?_, ?_⟩
  · simpa [getNext] using filterMap_toQueueItem now hvalid
  · simp only [dequeueBatch, hchoose, filterMap_toQueueItem now hvalid, Prod.mk.injEq, true_and]
    exact funext (removeChosen_eq hwf hsel)

/-- On a queue no other client touches, whose members are identifiers each held by one
shard, the reads return the global top: peeking only the top `k` of each shard and merging
loses nothing. -/
theorem queue_reads_global_top (r : RedisQueueManager) (db : Shards) (now : Int)
    (hwf : WellFormedQueue r.shardCount db) : ReadsGlobalTop r db now :=
  ⟨dequeue_top r db now hwf, fun _ hk => batch_top r db now hwf hk⟩

theorem queue_reads_global_top_at_sample :
    let db := (Shards.empty.zadd 0 "123e4567-e89b-12d3-a456-426614174001" 19999999999).zadd 1
      "123e4567-e89b-12d3-a456-426614174002" 59999999998
    WellFormedQueue 2 db ∧ ReadsGlobalTop ⟨⟨true, 300000000000, 2, 10, 60000000000⟩, 2⟩ db 0 := by
  intro db
  have h : WellFormedQueue 2 db := by decide
  exact ⟨h, queue_reads_global_top ⟨⟨true, 300000000000, 2, 10, 60000000000⟩, 2⟩ db 0 h⟩

/-! ## Successive batches -/

/-- `DequeueBatch k` once per clock reading, with no other call between, as the ticks of
the ad processor call it: the batches, in order, and the shards left. -/
def dequeueBatchRun (r : RedisQueueManager) (k : Int) : Shards → List Int →
    List (List QueueItem) × Shards
  | db, [] => ([], db)
  | db, now :: nows =>
    let p := r.dequeueBatch db k now
    let q := dequeueBatchRun r k p.2 nows
    (p.1 :: q.1, q.2)

/-- The shards after the members `ms` are removed from each shard below `n`. -/
def removeBelow (db : Shards) (n : Nat) (ms : List String) : Shards :=
  fun i => if i < n then (db i).zrem ms else db i

theorem WellFormedQueue.removeBelow {n : Nat} {db : Shards} (hwf : WellFormedQueue n db)
    (ms : List String) : WellFormedQueue n (removeBelow db n ms) := by
  have hsub : ∀ i < n, ∀ z ∈ (RedisQueueManager.removeBelow db n ms i).entries, z ∈ (db i).entries :=
    fun i hi z hz => by
      simp only [RedisQueueManager.removeBelow, hi, if_true] at hz
      exact (SortedSet.mem_zrem.mp hz).1
  exact ⟨fun i hi z hz => hwf.1 i hi z (hsub i hi z hz),
    fun i hi j hj z hz z' hz' => hwf.2 i hi j hj z (hsub i hi z hz) z' (hsub j hj z' hz')⟩

/-- On a well-formed queue no member is held twice. -/
theorem WellFormedQueue.nodup_members {n : Nat} {db : Shards} (hwf : WellFormedQueue n db) :
    ((entriesOf db (List.range n)).map Z.member).Nodup := by
  rw [entriesOf, List.map_flatMap, List.nodup_flatMap]
  refine ⟨fun i _ => (db i).nodup, (List.pairwise_lt_range n).imp_of_mem fun {i j} hi hj hij => ?_⟩
  simp only [Function.onFun, List.disjoint_left, List.mem_map]
  rintro m ⟨z, hz, rfl⟩ ⟨z', hz', hm⟩
  exact absurd (hwf.2 i (List.mem_range.mp hi) j (List.mem_range.mp hj) z hz z' hz' hm.symm) hij.ne

/-- Removing the members of `sel` from a queue whose entries are `sel` and `rest` leaves
`rest`. -/
theorem entriesOf_removeBelow {n : Nat} {db : Shards} (hwf : WellFormedQueue n db)
    {sel rest : List Z} (hperm : (entriesOf db (List.range n)).Perm (sel ++ rest)) :
    (entriesOf (removeBelow db n (sel.map Z.member)) (List.range n)).Perm rest := by
  have hnd := (hperm.map Z.member).nodup_iff.mp hwf.nodup_members
  rw [List.map_append, List.nodup_append] at hnd
  have hfilter : entriesOf (removeBelow db n (sel.map Z.member)) (List.range n) =
      (entriesOf db (List.range n)).filter fun z => z.member ∉ sel.map Z.member := by
    rw [entriesOf, entriesOf, List.filter_flatMap]
    exact List.flatMap_congr fun i hi => by
      simp [RedisQueueManager.removeBelow, List.mem_range.mp hi, SortedSet.zrem]
  rw [hfilter]
  refine (hperm.filter _).trans ?_
  rw [List.filter_append, List.filter_eq_nil_iff.mpr fun z hz => by simpa using ⟨z, hz, rfl⟩,
    List.nil_append, List.filter_eq_self.mpr fun z hz => by
      simpa using fun h => hnd.2.2 h (List.mem_map_of_mem _ hz)]

/-- Successive calls of `DequeueBatch k`, `k ≥ 1`, on a well-formed queue no other client
touches, serve it in global score order: the batches, in order, are the items of lists of
entries that together form a top `m·k` of the queue, in non-increasing score order within
and across batches, and the queue keeps exactly the other entries.  So after `⌈N/k⌉` ticks
every entry has been handed out, once. -/
theorem dequeueBatchRun_serves_in_order (r : RedisQueueManager) {k : Nat} (hk : 1 ≤ k) :
    ∀ (db : Shards) (nows : List Int), WellFormedQueue r.shardCount db →
      ∃ Ss : List (List Z),
        (r.dequeueBatchRun k db nows).1 = List.zipWith (fun now S => S.map (itemOf now)) nows Ss ∧
        IsTopK (nows.length * k) (entriesOf db (List.range r.shardCount)) Ss.flatten ∧
        (entriesOf db (List.range r.shardCount)).Perm
          (Ss.flatten ++ entriesOf (r.dequeueBatchRun k db nows).2 (List.range r.shardCount))
  | db, [], _ => ⟨[], rfl, ⟨by simp, List.sorted_nil, _, .refl _, by simp⟩, .refl _⟩
  | db, now :: nows, hwf => by
    obtain ⟨sel, ⟨hlen, hsorted, rest, hperm, hge⟩, -, hdq⟩ := batch_top r db now hwf hk
    set db₁ := removeBelow db r.shardCount (sel.map Z.member)
    have hrest : (entriesOf db₁ (List.range r.shardCount)).Perm rest := entriesOf_removeBelow hwf hperm
    obtain ⟨Ss, hbatches, ⟨hlen', hsorted', rest', hperm', hge'⟩, hleft⟩ :=
      dequeueBatchRun_serves_in_order r hk db₁ nows (hwf.removeBelow _)
    have hrun : r.dequeueBatchRun k db (now :: nows) =
        (sel.map (itemOf now) :: (r.dequeueBatchRun k db₁ nows).1, (r.dequeueBatchRun k db₁ nows).2) := by
      simp only [dequeueBatchRun, hdq]
      rfl
    set left := entriesOf (r.dequeueBatchRun k db₁ nows).2 (List.range r.shardCount)
    have hmem : ∀ y ∈ Ss.flatten ++ left, y ∈ rest := fun y hy => hrest.mem_iff.mp (hleft.mem_iff.mpr hy)
    have htotal : (entriesOf db (List.range r.shardCount)).Perm ((sel :: Ss).flatten ++ left) := by
      rw [List.flatten_cons, List.append_assoc]
      exact hperm.trans ((hrest.symm.trans hleft).append_left sel)
    rw [hrun]
    refine ⟨sel :: Ss, by rw [hbatches]; rfl, ⟨?_, ?_, left, htotal, ?_⟩, htotal⟩
    · have h₁ := hperm.length_eq
      have h₂ := hrest.length_eq
      rw [List.length_append] at h₁
      rw [List.flatten_cons, List.length_append, List.length_cons, Nat.succ_mul, hlen, hlen']
      omega
    · rw [List.flatten_cons, List.Sorted, List.pairwise_append]
      exact ⟨hsorted, hsorted', fun x hx y hy => hge x hx y (hmem y (List.mem_append_left _ hy))⟩
    · intro x hx y hy
      rcases List.mem_append.mp (List.flatten_cons ▸ hx) with hx | hx
      · exact hge x hx y (hmem y (List.mem_append_right _ hy))
      · exact hge' x hx y (((List.perm_append_left_iff _).mp (hleft.symm.trans hperm')).mem_iff.mp hy)

/-- Two entries in two shards, one per tick. -/
theorem dequeueBatchRun_serves_in_order_at_sample :
    let r : RedisQueueManager := ⟨⟨true, 300000000000, 2, 10, 60000000000⟩, 2⟩
    let db := (Shards.empty.zadd 0 "123e4567-e89b-12d3-a456-426614174001" 19999999999).zadd 1
      "123e4567-e89b-12d3-a456-426614174002" 59999999998
    1 ≤ 1 ∧ WellFormedQueue r.shardCount db ∧
      ∃ Ss : List (List Z),
        (r.dequeueBatchRun 1 db [0, 0]).1 = List.zipWith (fun now S => S.map (itemOf now)) [0, 0] Ss ∧
        IsTopK ([0, 0].length * 1) (entriesOf db (List.range r.shardCount)) Ss.flatten ∧
        (entriesOf db (List.range r.shardCount)).Perm
          (Ss.flatten ++ entriesOf (r.dequeueBatchRun 1 db [0, 0]).2 (List.range r.shardCount)) := by
  intro r db
  have h : WellFormedQueue r.shardCount db := by decide
  exact ⟨le_rfl, h, dequeueBatchRun_serves_in_order r le_rfl db [0, 0] h⟩

end RedisQueueManager

end AdQueue
