import Mathlib

/-!
# Redis sorted sets

The queue keeps its entries in Redis sorted sets and uses six commands on them: `ZADD`,
`ZREM`, `ZSCORE`, `ZREVRANGE ... WITHSCORES` from index `0`, `ZRANGE 0 -1 WITHSCORES`,
`ZCOUNT` and `ZCARD`.  This module is the part of Redis the code relies on, as Redis
documents it.

A sorted set holds each member once, with a score; `SortedSet` carries that as a field, so
no set with a repeated member can be built.  The order of `entries` is not the order Redis
reads them in: the range commands sort, by score and then by member, bytewise, which is the
order of Lean's strings on valid UTF-8.  `ZADD` of a present member rewrites its score in
place, so rewriting a score to itself leaves the set equal.

Scores are integers.  Every score the queue manager writes is an integer-valued `float64`,
and the comparisons and counts the commands make on such values are those of the
integers.

`Shards` is the keyspace of the queue: the sorted set named `queue:shard:i` is `db i`.
-/

namespace AdQueue

/-! ## Entries and their order -/

/-- `redis.Z`: a member with its score. -/
structure Z where
  score : Int
  member : String
deriving DecidableEq, Repr

namespace Z

/-- `a` comes no later than `b` in `ZREVRANGE`: a higher score first, and between equal
scores the greater member first. -/
def RevLE (a b : Z) : Prop := b.score < a.score ∨ (b.score = a.score ∧ b.member ≤ a.member)

instance : DecidableRel RevLE := fun _ _ => inferInstanceAs (Decidable (_ ∨ _))

instance : IsTotal Z RevLE where
  total a b := by
    rcases lt_trichotomy a.score b.score with h | h | h
    · exact .inr (.inl h)
    · rcases le_total a.member b.member with hm | hm
      · exact .inr (.inr ⟨h, hm⟩)
      · exact .inl (.inr ⟨h.symm, hm⟩)
    · exact .inl (.inl h)

instance : IsTrans Z RevLE where
  trans a b c := by
    rintro (h1 | ⟨h1, h1'⟩) (h2 | ⟨h2, h2'⟩)
    · exact .inl (h2.trans h1)
    · exact .inl (h2 ▸ h1)
    · exact .inl (h1 ▸ h2)
    · exact .inr ⟨h2.trans h1, h2'.trans h1'⟩

theorem score_le_of_revLE {a b : Z} (h : RevLE a b) : b.score ≤ a.score := by
  rcases h with h | ⟨h, -⟩
  · exact h.le
  · exact h.le

end Z

/-! ## Sorted sets -/

/-- A Redis sorted set: entries with pairwise distinct members. -/
structure SortedSet where
  /-- The entries, in no particular order. -/
  entries : List Z
  /-- A member is held once. -/
  nodup : (entries.map Z.member).Nodup

namespace SortedSet

@[ext] theorem ext {s t : SortedSet} (h : s.entries = t.entries) : s = t := by
  cases s
  cases t
  cases h
  rfl

/-- The set a missing key reads as. -/
def empty : SortedSet := ⟨[], List.nodup_nil⟩

/-- The members, in the order of `entries`. -/
def members (s : SortedSet) : List String := s.entries.map Z.member

/-- `ZSCORE`: the score of a member, `nil` when absent. -/
def zscore (s : SortedSet) (m : String) : Option Int :=
  (s.entries.find? fun z => z.member = m).map Z.score

theorem map_member_rescore (l : List Z) (m : String) (score : Int) :
    (l.map fun z => if z.member = m then (⟨score, m⟩ : Z) else z).map Z.member = l.map Z.member := by
  induction l with
  | nil => rfl
  | cons z l ih => by_cases h : z.member = m <;> simp [h, ih]

/-- `ZADD`: a present member gets the new score where it stands, an absent one is added. -/
def zadd (s : SortedSet) (m : String) (score : Int) : SortedSet :=
  if h : m ∈ s.members then
    ⟨s.entries.map fun z => if z.member = m then ⟨score, m⟩ else z,
      (map_member_rescore s.entries m score).symm ▸ s.nodup⟩
  else
    ⟨s.entries ++ [⟨score, m⟩], by
      rw [List.map_append, List.nodup_append]
      exact ⟨s.nodup, List.nodup_singleton _, by simpa [members] using h⟩⟩

/-- `ZREM` of some members: the set without them. -/
def zrem (s : SortedSet) (ms : List String) : SortedSet :=
  ⟨s.entries.filter fun z => z.member ∉ ms, s.nodup.sublist ((List.filter_sublist _).map _)⟩

/-- The reply of `ZREM`: how many of the members were there. -/
def zremCount (s : SortedSet) (ms : List String) : Nat :=
  s.entries.countP fun z => z.member ∈ ms

/-- All entries in `ZREVRANGE` order. -/
def revSorted (s : SortedSet) : List Z := s.entries.insertionSort Z.RevLE

/-- How many entries `ZREVRANGE key 0 stop` returns from `len`: a negative `stop` counts
from the end, and a `stop` past the end stops at the last entry. -/
def rangeLen (len : Nat) (stop : Int) : Nat :=
  if stop < 0 then (len + stop + 1).toNat else min len (stop + 1).toNat

/-- `ZREVRANGE key 0 stop WITHSCORES`. -/
def zrevrange (s : SortedSet) (stop : Int) : List Z :=
  s.revSorted.take (rangeLen s.entries.length stop)

/-- `ZRANGE key 0 -1 WITHSCORES`: every entry, lowest score first. -/
def zrangeAll (s : SortedSet) : List Z := s.revSorted.reverse

/-- `ZCARD`. -/
def zcard (s : SortedSet) : Nat := s.entries.length

/-! ### What each command does -/

theorem eq_of_member_eq (s : SortedSet) {z z' : Z} (hz : z ∈ s.entries) (hz' : z' ∈ s.entries)
    (h : z.member = z'.member) : z = z' :=
  List.inj_on_of_nodup_map s.nodup hz hz' h

theorem mem_members {s : SortedSet} {m : String} : m ∈ s.members ↔ ∃ z ∈ s.entries, z.member = m :=
  List.mem_map

theorem zscore_eq_some {s : SortedSet} {m : String} {v : Int} :
    s.zscore m = some v ↔ (⟨v, m⟩ : Z) ∈ s.entries := by
  constructor
  · intro h
    obtain ⟨z, hf, rfl⟩ := Option.map_eq_some'.mp h
    have hm : z.member = m := by simpa using List.find?_some hf
    cases z
    cases hm
    exact List.mem_of_find?_eq_some hf
  · intro h
    have hsome : (s.entries.find? fun z => z.member = m).isSome :=
      List.find?_isSome.mpr ⟨⟨v, m⟩, h, by simp⟩
    obtain ⟨z, hf⟩ := Option.isSome_iff_exists.mp hsome
    have hm : z.member = m := by simpa using List.find?_some hf
    rw [zscore, hf, s.eq_of_member_eq (List.mem_of_find?_eq_some hf) h hm]
    rfl

theorem zscore_eq_none {s : SortedSet} {m : String} : s.zscore m = none ↔ m ∉ s.members := by
  simp [zscore, members, List.find?_eq_none]

theorem mem_zadd {s : SortedSet} {m : String} {v : Int} {z : Z} :
    z ∈ (s.zadd m v).entries ↔ z = ⟨v, m⟩ ∨ (z ∈ s.entries ∧ z.member ≠ m) := by
  unfold zadd
  split_ifs with h
  · obtain ⟨y, hy, rfl⟩ := mem_members.mp h
    simp only [List.mem_map]
    constructor
    · rintro ⟨x, hx, rfl⟩
      by_cases hxm : x.member = y.member <;> simp [hxm, hx]
    · rintro (rfl | ⟨hz, hzm⟩)
      · exact ⟨y, hy, by simp⟩
      · exact ⟨z, hz, by simp [hzm]⟩
  · simp only [List.mem_append, List.mem_singleton]
    constructor
    · rintro (hz | rfl)
      · exact .inr ⟨hz, fun hm => h (mem_members.mpr ⟨z, hz, hm⟩)⟩
      · exact .inl rfl
    · rintro (rfl | ⟨hz, -⟩)
      · exact .inr rfl
      · exact .inl hz

/-- After `ZADD m v`, `m` scores `v` and every other member scores as before. -/
theorem zscore_zadd (s : SortedSet) (m : String) (v : Int) (m' : String) :
    (s.zadd m v).zscore m' = if m' = m then some v else s.zscore m' := by
  split_ifs with h
  · subst h; exact zscore_eq_some.mpr (mem_zadd.mpr (.inl rfl))
  · cases hs : s.zscore m' with
    | some w => exact zscore_eq_some.mpr (mem_zadd.mpr (.inr ⟨zscore_eq_some.mp hs, h⟩))
    | none =>
      refine zscore_eq_none.mpr fun hm => ?_
      obtain ⟨z, hz, rfl⟩ := mem_members.mp hm
      rcases mem_zadd.mp hz with rfl | ⟨hz, -⟩
      · exact h rfl
      · exact zscore_eq_none.mp hs (mem_members.mpr ⟨z, hz, rfl⟩)

/-- `ZADD` of the score a member already has changes nothing. -/
theorem zadd_self {s : SortedSet} {m : String} {v : Int} (h : s.zscore m = some v) :
    s.zadd m v = s := by
  have hv := zscore_eq_some.mp h
  ext1
  simp only [zadd, dif_pos (mem_members.mpr ⟨_, hv, rfl⟩)]
  conv_rhs => rw [← List.map_id s.entries]
  refine List.map_congr_left fun z hz => ?_
  split_ifs with hzm
  · exact (s.eq_of_member_eq hz hv hzm).symm
  · rfl

theorem mem_zrem {s : SortedSet} {ms : List String} {z : Z} :
    z ∈ (s.zrem ms).entries ↔ z ∈ s.entries ∧ z.member ∉ ms := by
  simp [zrem]

theorem zrem_of_disjoint {s : SortedSet} {ms : List String}
    (h : ∀ z ∈ s.entries, z.member ∉ ms) : s.zrem ms = s :=
  ext (List.filter_eq_self.mpr fun z hz => by simpa using h z hz)

/-- `ZREM` of a member that `ZADD` has just added gives the set back. -/
theorem zrem_zadd_of_not_mem {s : SortedSet} {m : String} {v : Int} (h : m ∉ s.members) :
    (s.zadd m v).zrem [m] = s := by
  ext1
  simp only [zadd, dif_neg h, zrem, List.filter_append]
  rw [List.filter_eq_self.mpr fun z hz => by
    simpa using fun e => h (mem_members.mpr ⟨z, hz, e⟩)]
  simp

theorem zrem_congr {s : SortedSet} {ms ms' : List String}
    (h : ∀ z ∈ s.entries, (z.member ∈ ms ↔ z.member ∈ ms')) : s.zrem ms = s.zrem ms' :=
  ext (List.filter_congr fun z hz => by simp [h z hz])

theorem zremCount_eq_zero {s : SortedSet} {ms : List String} :
    s.zremCount ms = 0 ↔ ∀ z ∈ s.entries, z.member ∉ ms := by
  simp [zremCount, List.countP_eq_zero]

/-! ### Ranges -/

theorem revSorted_perm (s : SortedSet) : s.revSorted.Perm s.entries :=
  List.perm_insertionSort _ _

theorem revSorted_sorted (s : SortedSet) : s.revSorted.Sorted Z.RevLE :=
  List.sorted_insertionSort _ _

theorem rangeLen_le (len : Nat) (stop : Int) : rangeLen len stop ≤ len := by
  unfold rangeLen
  split_ifs <;> omega

theorem rangeLen_of_nonneg (len : Nat) {stop : Int} (h : 0 ≤ stop) :
    rangeLen len stop = min len (stop + 1).toNat := by
  simp [rangeLen, not_lt.mpr h]

theorem length_zrevrange (s : SortedSet) (stop : Int) :
    (s.zrevrange stop).length = rangeLen s.entries.length stop := by
  simp [zrevrange, s.revSorted_perm.length_eq, rangeLen_le]

theorem mem_of_mem_zrevrange {s : SortedSet} {stop : Int} {z : Z} (h : z ∈ s.zrevrange stop) :
    z ∈ s.entries :=
  s.revSorted_perm.mem_iff.mp (List.mem_of_mem_take h)

/-- `ZREVRANGE` returns a head of the set in its order: every entry it leaves out comes no
earlier than every entry it returns. -/
theorem zrevrange_split (s : SortedSet) (stop : Int) :
    s.entries.Perm (s.zrevrange stop ++ s.revSorted.drop (rangeLen s.entries.length stop)) ∧
      ∀ x ∈ s.zrevrange stop, ∀ y ∈ s.revSorted.drop (rangeLen s.entries.length stop),
        Z.RevLE x y := by
  have hs := s.revSorted_sorted
  rw [← List.take_append_drop (rangeLen s.entries.length stop) s.revSorted] at hs
  refine ⟨?_, (List.pairwise_append.mp hs).2.2⟩
  rw [zrevrange, List.take_append_drop]
  exact s.revSorted_perm.symm

end SortedSet

/-- An end of a `ZCOUNT` range: `v`, `(v` or `+inf`. -/
inductive ScoreBound where
  | incl (v : Int)
  | excl (v : Int)
  | posInf
deriving DecidableEq, Repr

/-- `x` lies above a lower end. -/
def ScoreBound.admitsAbove : ScoreBound → Int → Bool
  | .incl v, x => v ≤ x
  | .excl v, x => v < x
  | .posInf, _ => false

/-- `x` lies below an upper end. -/
def ScoreBound.admitsBelow : ScoreBound → Int → Bool
  | .incl v, x => x ≤ v
  | .excl v, x => x < v
  | .posInf, _ => true

/-- `ZCOUNT key lo hi`. -/
def SortedSet.zcount (s : SortedSet) (lo hi : ScoreBound) : Nat :=
  s.entries.countP fun z => lo.admitsAbove z.score && hi.admitsBelow z.score

/-! ## The keyspace of the queue -/

/-- The sorted sets `queue:shard:0`, `queue:shard:1`, ...; `db i` is the one of shard `i`. -/
def Shards := Nat → SortedSet

namespace Shards

/-- The keyspace with no sorted set. -/
def empty : Shards := fun _ => SortedSet.empty

/-- `db` with shard `i` replaced. -/
def set (db : Shards) (i : Nat) (s : SortedSet) : Shards := Function.update db i s

@[simp] theorem set_same (db : Shards) (i : Nat) (s : SortedSet) : db.set i s i = s := by
  simp [set]

@[simp] theorem set_other (db : Shards) {i j : Nat} (s : SortedSet) (h : j ≠ i) :
    db.set i s j = db j := by
  simp [set, h]

/-- `ZADD` on shard `i`. -/
def zadd (db : Shards) (i : Nat) (m : String) (score : Int) : Shards :=
  db.set i ((db i).zadd m score)

theorem zadd_self {db : Shards} {i : Nat} {m : String} {v : Int}
    (h : (db i).zscore m = some v) : db.zadd i m v = db := by
  rw [zadd, SortedSet.zadd_self h]
  exact Function.update_eq_self i db

/-- `ZREM` on shard `i`. -/
def zrem (db : Shards) (i : Nat) (ms : List String) : Shards :=
  db.set i ((db i).zrem ms)

end Shards

end AdQueue
