import AdQueue.Queue.TopK

/-!
# The k-way merge against the exchange sort

The specification proposes to replace the nested compare-and-swap loop of `DequeueBatch`
and `GetNext` by a k-way merge of the per-shard tops, which `ZREVRANGE` returns in
descending score order, and calls the change a behavioural equivalence.  `kWayMerge` is
that merge as the specification describes it, not as the source has it: `k` times, take a
greatest head of the per-shard lists out (`popMax`), as a heap over the shards would.

Both read a top `k` in the sense of `IsTopK`: the loop because it permutes and sorts
(`exchangeSort_perm`, `exchangeSort_sorted`), the merge because each head it takes scores
at least as much as everything left (`popMax_spec`).  Two tops `k` of one list have the
same scores in the same order (`IsTopK.map_score_eq`): extended by the sorted rest, each
is a sorted permutation of the list.  Members may differ between the two where scores
tie, and scores are all the specification compares.
-/

namespace AdQueue

namespace RedisQueueManager

/-! ## The merge -/

/-- Take a greatest head out of the per-shard lists, the leftmost on a tie: the head, and
the lists with it removed; `none` when every list is empty. -/
def popMax : List (List Z) → Option (Z × List (List Z))
  | [] => none
  | [] :: ls => (popMax ls).map fun p => (p.1, [] :: p.2)
  | (x :: xs) :: ls =>
    match popMax ls with
    | some (z, ls') => if x.score < z.score then some (z, (x :: xs) :: ls') else some (x, xs :: ls)
    | none => some (x, xs :: ls)

/-- The k-way merge of the specification: `k` times, the greatest head of the lists. -/
def kWayMerge : Nat → List (List Z) → List Z
  | 0, _ => []
  | k + 1, ls =>
    match popMax ls with
    | some (z, ls') => z :: kWayMerge k ls'
    | none => []

theorem popMax_eq_none : ∀ {ls : List (List Z)}, popMax ls = none → ls.flatten = []
  | [], _ => rfl
  | [] :: ls, h => by
    simp only [popMax, Option.map_eq_none'] at h
    simpa using popMax_eq_none h
  | (x :: xs) :: ls, h => by
    simp only [popMax] at h
    split at h
    · split_ifs at h
    · cases h

/-- What `popMax` takes out of lists sorted by score: a permutation of their entries into
the head and the rest, with the head scoring at least as much as the rest, and the lists
left still sorted. -/
theorem popMax_spec : ∀ {ls : List (List Z)} {z : Z} {ls' : List (List Z)},
    popMax ls = some (z, ls') → (∀ l ∈ ls, l.Sorted ScoreGE) →
    ls.flatten.Perm (z :: ls'.flatten) ∧ (∀ y ∈ ls'.flatten, y.score ≤ z.score) ∧
      ∀ l ∈ ls', l.Sorted ScoreGE
  | [], _, _, h, _ => by cases h
  | [] :: ls, z, ls', h, hs => by
    simp only [popMax, Option.map_eq_some'] at h
    obtain ⟨⟨z₀, ls₀⟩, hp, ⟨⟩⟩ := h
    obtain ⟨hperm, hle, hsorted⟩ := popMax_spec hp (List.forall_mem_cons.mp hs).2
    exact ⟨by simpa using hperm, by simpa using hle,
      List.forall_mem_cons.mpr ⟨List.sorted_nil, hsorted⟩⟩
  | (x :: xs) :: ls, z, ls', h, hs => by
    obtain ⟨hxs, hls⟩ := List.forall_mem_cons.mp hs
    have hx := List.sorted_cons.mp hxs
    simp only [popMax] at h
    split at h
    · next z₀ ls₀ hp =>
      obtain ⟨hperm, hle, hsorted⟩ := popMax_spec hp hls
      split_ifs at h with hlt <;> cases h
      · refine ⟨by simpa using (hperm.append_left (x :: xs)).trans List.perm_middle,
          fun y hy => ?_, List.forall_mem_cons.mpr ⟨hxs, hsorted⟩⟩
        simp only [List.flatten_cons, List.mem_append, List.mem_cons] at hy
        rcases hy with (rfl | hy) | hy
        · exact hlt.le
        · exact (hx.1 y hy).trans hlt.le
        · exact hle y hy
      · refine ⟨by simp, fun y hy => ?_, List.forall_mem_cons.mpr ⟨hx.2, hls⟩⟩
        simp only [List.flatten_cons, List.mem_append] at hy
        rcases hy with hy | hy
        · exact hx.1 y hy
        · rcases List.mem_cons.mp (hperm.mem_iff.mp hy) with rfl | hy
          · exact not_lt.mp hlt
          · exact (hle y hy).trans (not_lt.mp hlt)
    · next hp =>
      cases h
      refine ⟨by simp, fun y hy => ?_, List.forall_mem_cons.mpr ⟨hx.2, hls⟩⟩
      simp only [List.flatten_cons, popMax_eq_none hp, List.append_nil] at hy
      exact hx.1 y hy

/-- The merge reads a top `k` of the entries of lists sorted by score. -/
theorem kWayMerge_isTopK : ∀ (k : Nat) {ls : List (List Z)}, (∀ l ∈ ls, l.Sorted ScoreGE) →
    IsTopK k ls.flatten (kWayMerge k ls)
  | 0, ls, _ => by
    rw [kWayMerge]
    exact ⟨by simp, List.sorted_nil, ls.flatten, .refl _,
      fun _ hx => absurd hx (List.not_mem_nil _)⟩
  | k + 1, ls, hs => by
    cases hp : popMax ls with
    | none =>
      rw [kWayMerge, hp, popMax_eq_none hp]
      exact ⟨rfl, List.sorted_nil, [], .refl _, fun _ hx => absurd hx (by simp)⟩
    | some p =>
      obtain ⟨z, ls'⟩ := p
      obtain ⟨hperm, hle, hsorted⟩ := popMax_spec hp hs
      obtain ⟨hlen, hsel, rest, hrest, hge⟩ := kWayMerge_isTopK k hsorted
      have hz : ∀ y ∈ kWayMerge k ls' ++ rest, y.score ≤ z.score := fun y hy =>
        hle y (hrest.mem_iff.mpr hy)
      rw [kWayMerge, hp]
      refine ⟨?_, List.sorted_cons.mpr ⟨fun y hy => hz y (List.mem_append_left _ hy), hsel⟩, rest,
        hperm.trans (hrest.cons z), ?_⟩
      · simp only [List.length_cons, hperm.length_eq, hlen]
        omega
      · rintro x (_ | ⟨_, hx⟩) y hy
        · exact hz y (List.mem_append_right _ hy)
        · exact hge x hx y hy

/-! ## Two tops agree on their scores -/

/-- A permutation sorted by score reads a top `k` of the list by its first `k`. -/
theorem isTopK_take {all S : List Z} (hS : S.Perm all) (hs : S.Sorted ScoreGE) (k : Nat) :
    IsTopK k all (S.take k) := by
  have hsplit := hs
  rw [← List.take_append_drop k S] at hsplit
  refine ⟨by rw [List.length_take, hS.length_eq], hs.sublist (List.take_sublist _ _), S.drop k,
    ?_, (List.pairwise_append.mp hsplit).2.2⟩
  rw [List.take_append_drop]
  exact hS.symm

/-- A top `k`, extended by the rest in sorted order, is a sorted permutation of the list. -/
theorem IsTopK.extend {k : Nat} {all s : List Z} (h : IsTopK k all s) :
    ∃ t, (s ++ t).Perm all ∧ (s ++ t).Sorted ScoreGE := by
  obtain ⟨-, hs, rest, hperm, hge⟩ := h
  refine ⟨exchangeSort rest, ((exchangeSort_perm rest).append_left s).trans hperm.symm, ?_⟩
  exact List.pairwise_append.mpr ⟨hs, exchangeSort_sorted rest,
    fun x hx y hy => hge x hx y ((exchangeSort_perm rest).mem_iff.mp hy)⟩

/-- Two tops `k` of one list have the same scores in the same order. -/
theorem IsTopK.map_score_eq {k : Nat} {all s₁ s₂ : List Z} (h₁ : IsTopK k all s₁)
    (h₂ : IsTopK k all s₂) : s₁.map Z.score = s₂.map Z.score := by
  obtain ⟨t₁, hp₁, hs₁⟩ := h₁.extend
  obtain ⟨t₂, hp₂, hs₂⟩ := h₂.extend
  have hsorted : ∀ {l : List Z}, l.Sorted ScoreGE → (l.map Z.score).Sorted (· ≥ ·) :=
    fun h => List.pairwise_map.mpr h
  have heq : (s₁ ++ t₁).map Z.score = (s₂ ++ t₂).map Z.score :=
    List.eq_of_perm_of_sorted ((hp₁.trans hp₂.symm).map _) (hsorted hs₁) (hsorted hs₂)
  have hlen : s₁.length = s₂.length := h₁.1.trans h₂.1.symm
  calc s₁.map Z.score = ((s₁ ++ t₁).map Z.score).take s₁.length := by simp
    _ = ((s₂ ++ t₂).map Z.score).take s₂.length := by rw [heq, hlen]
    _ = s₂.map Z.score := by simp

/-! ## The loop and the merge -/

theorem zrevrange_sorted (s : SortedSet) (stop : Int) : (s.zrevrange stop).Sorted ScoreGE :=
  (s.revSorted_sorted.imp Z.score_le_of_revLE).sublist (List.take_sublist _ _)

/-- The nested compare-and-swap loop of `DequeueBatch` and `GetNext` permutes every list of
entries into non-increasing score order, each pass leaving at its position a greatest score
of what is left; on per-shard lists in descending order, such as the `ZREVRANGE` reads the
two methods gather, its first `k` scores are those of the k-way merge. -/
theorem exchangeSort_agrees_with_kWayMerge :
    (∀ l : List Z, (exchangeSort l).Perm l ∧ (exchangeSort l).Sorted ScoreGE) ∧
      (∀ (c : Z) (ys : List Z), ∀ x ∈ c :: ys, x.score ≤ (swapPass c ys).1.score) ∧
      (∀ (ls : List (List Z)) (k : Nat), (∀ l ∈ ls, l.Sorted ScoreGE) →
        ((exchangeSort ls.flatten).take k).map Z.score = (kWayMerge k ls).map Z.score) ∧
      ∀ (db : Shards) (stop : Int) (shards : List Nat) (k : Nat),
        ((exchangeSort (collectTop db stop shards)).take k).map Z.score =
          (kWayMerge k (shards.map fun i => (db i).zrevrange stop)).map Z.score := by
  have hmerge : ∀ (ls : List (List Z)) (k : Nat), (∀ l ∈ ls, l.Sorted ScoreGE) →
      ((exchangeSort ls.flatten).take k).map Z.score = (kWayMerge k ls).map Z.score :=
    fun ls k hs => (isTopK_take (exchangeSort_perm _) (exchangeSort_sorted _) k).map_score_eq
      (kWayMerge_isTopK k hs)
  refine ⟨fun l => ⟨exchangeSort_perm l, exchangeSort_sorted l⟩, swapPass_ge, hmerge,
    fun db stop shards k => hmerge _ k ?_⟩
  simp only [List.mem_map]
  rintro _ ⟨i, -, rfl⟩
  exact zrevrange_sorted _ stop

example : ((exchangeSort [⟨5, "a"⟩, ⟨3, "b"⟩, ⟨4, "c"⟩]).take 2).map Z.score =
    (kWayMerge 2 [[⟨5, "a"⟩, ⟨3, "b"⟩], [⟨4, "c"⟩]]).map Z.score := by
  decide

end RedisQueueManager

end AdQueue
