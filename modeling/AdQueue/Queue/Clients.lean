import AdQueue.Queue.TopK

/-!
# Concurrent calls of the queue manager

Each method of `RedisQueueManager` as a client of the Redis server.  A `Client` names the
command its call issues next, together with what the call has read so far; one step of a
client runs that command atomically on the shard sets, with the local work that follows it
up to the next command.  A call with nothing left to issue is `done` with what the method
returns.  A `System` is the shard sets and the calls in progress, and `System.run` lets
the clients take their steps in the order a schedule gives.

Run alone, a client computes exactly its method of `Manager` (`reaches_start`), and a
schedule that runs the calls one after another computes the methods in sequence
(`run_serial`).  Interleaved, the methods are not atomic: two `Dequeue` calls can hand
out one entry (`dequeue_race_hands_out_twice`), and an `UpdatePriority` can write back an
entry that a `Dequeue` removed between its `ZSCORE` and its `ZADD`
(`updatePriority_race_reinserts`).

`DequeueBatch` issues its `ZREM`s in the order Go iterates its `toRemove` map, which is
unspecified; the model issues them by increasing shard.
-/

namespace AdQueue

namespace RedisQueueManager

/-! ## Calls and what they return -/

/-- What a finished call returns. -/
inductive Outcome where
  | unit
  | error (msg : String)
  | item (item : Option QueueItem)
  | items (items : List QueueItem)
deriving DecidableEq, Repr

/-- What `Dequeue` returns, as an outcome. -/
def Outcome.ofItem : Except String (Option QueueItem) → Outcome
  | .ok i => .item i
  | .error msg => .error msg

/-- What `UpdatePriority` and `Remove` return, as an outcome. -/
def Outcome.ofUnit : Except String Unit → Outcome
  | .ok () => .unit
  | .error msg => .error msg

/-- A call of the manager that changes the queue, with its arguments. -/
inductive Call where
  | enqueue (adID : AdID) (priority : Int) (now : Int)
  | dequeue (now : Int)
  | dequeueBatch (batchSize : Int) (now : Int)
  | updatePriority (adID : AdID) (newPriority : Int)
  | remove (adID : AdID)
  | applyAntiStarvation (now : Int)

/-- The sequential method of `Manager` a call runs. -/
def Call.apply (r : RedisQueueManager) (db : Shards) : Call → Outcome × Shards
  | .enqueue adID priority now => (.unit, r.enqueue db adID priority now)
  | .dequeue now => let p := r.dequeue db now; (.ofItem p.1, p.2)
  | .dequeueBatch batchSize now => let p := r.dequeueBatch db batchSize now; (.items p.1, p.2)
  | .updatePriority adID newPriority =>
    let p := r.updatePriority db adID newPriority; (.ofUnit p.1, p.2)
  | .remove adID => let p := r.remove db adID; (.ofUnit p.1, p.2)
  | .applyAntiStarvation now => (.unit, r.applyAntiStarvation db now)

/-- The calls of a list, one after another. -/
def Call.applyAll (r : RedisQueueManager) : List Call → Shards → List Outcome × Shards
  | [], db => ([], db)
  | c :: cs, db =>
    let p := c.apply r db
    let q := Call.applyAll r cs p.2
    (p.1 :: q.1, q.2)

/-! ## Clients -/

/-- A call in progress: the command it issues next and what it has read. -/
inductive Client where
  /-- `Enqueue`: its `ZADD`. -/
  | enqueue (i : Nat) (member : String) (score : Int)
  /-- `Dequeue` at turn `i` of its peek loop over `n` shards, with the best entry so far. -/
  | peek (now : Int) (n i : Nat) (best : Option (Z × Nat))
  /-- `Dequeue`: the `ZREM` of the entry it picked from shard `i`. -/
  | take (now : Int) (z : Z) (i : Nat)
  /-- `DequeueBatch` at turn `i` of its read loop, with `allItems` and `shardMapping` so far. -/
  | gather (batchSize now : Int) (n i : Nat) (allItems : List Z) (mapping : String → Option Nat)
  /-- `DequeueBatch`: the `ZREM`s left, one per shard, and the items it returns. -/
  | removeBatch (items : List QueueItem) (toRemove : List (Nat × List String))
  /-- `UpdatePriority`: its `ZSCORE`. -/
  | readScore (i : Nat) (adID : AdID) (newPriority : Int)
  /-- `UpdatePriority`: its `ZADD`. -/
  | writeScore (i : Nat) (adID : AdID) (score : Int)
  /-- `Remove`: its `ZREM`. -/
  | remove (i : Nat) (adID : AdID)
  /-- `ApplyAntiStarvation` at turn `i` of its shard loop: the `ZRANGE` of shard `i`. -/
  | scan (cfg : QueueConfig) (now : Int) (n i : Nat)
  /-- `ApplyAntiStarvation`: the entries read from shard `i` still to look at. -/
  | boost (cfg : QueueConfig) (now : Int) (n i : Nat) (pending : List Z)
  /-- A finished call. -/
  | done (outcome : Outcome)

/-- What a client has returned, once it has. -/
def Client.outcome : Client → Option Outcome
  | .done o => some o
  | _ => none

/-- The `ZREM`s of `DequeueBatch`: for each shard with chosen members mapped to it, those
members. -/
def batchRemovals (n : Nat) (mapping : String → Option Nat) (chosen : List Z) :
    List (Nat × List String) :=
  (List.range n).filterMap fun i =>
    if toRemove mapping chosen i = [] then none else some (i, toRemove mapping chosen i)

/-- One step of a client: its next command, run atomically on the shard sets, and the local
work after it.  A loop that has run out of shards takes a step with no command. -/
def Client.step : Client → Shards → Client × Shards
  | .enqueue i m score, db => (.done .unit, db.zadd i m score)
  | .peek now n i best, db =>
    if i < n then (.peek now n (i + 1) (keepBest db best i), db)
    else match best with
      | none => (.done (.item none), db)
      | some (z, j) => (.take now z j, db)
  | .take now z i, db =>
    (.done (match toQueueItem now z with
        | none => .error "invalid ad ID in queue"
        | some item => .item (some item)),
      db.zrem i [z.member])
  | .gather b now n i all mapping, db =>
    if i < n then
      (.gather b now n (i + 1) (all ++ (db i).zrevrange (b - 1))
        (fun m => if m ∈ ((db i).zrevrange (b - 1)).map Z.member then some i else mapping m), db)
    else
      (.removeBatch ((selectBatch b all).filterMap (toQueueItem now))
        (batchRemovals n mapping (selectBatch b all)), db)
  | .removeBatch items [], db => (.done (.items items), db)
  | .removeBatch items ((i, ms) :: rest), db => (.removeBatch items rest, db.zrem i ms)
  | .readScore i adID q, db =>
    match (db i).zscore adID.value with
    | none => (.done (.error ("ad not found in queue: " ++ adID.value)), db)
    | some s => (.writeScore i adID (q * 10000000000 + timestampPart s), db)
  | .writeScore i adID score, db => (.done .unit, db.zadd i adID.value score)
  | .remove i adID, db =>
    (.done (if (db i).zremCount [adID.value] = 0 then
        .error ("ad not found in queue: " ++ adID.value) else .unit),
      db.zrem i [adID.value])
  | .scan cfg now n i, db =>
    if i < n then (.boost cfg now n i (db i).zrangeAll, db) else (.done .unit, db)
  | .boost cfg now n i [], db => (.scan cfg now n (i + 1), db)
  | .boost cfg now n i (z :: zs), db => (.boost cfg now n i zs, boostEntry cfg now i db z)
  | .done o, db => (.done o, db)

/-- The client a call starts as. -/
def Call.start (r : RedisQueueManager) : Call → Client
  | .enqueue adID priority now =>
    .enqueue (r.getShardKey adID) adID.value (calculateScore priority now)
  | .dequeue now => .peek now r.shardCount 0 none
  | .dequeueBatch batchSize now => .gather batchSize now r.shardCount 0 [] fun _ => none
  | .updatePriority adID newPriority => .readScore (r.getShardKey adID) adID newPriority
  | .remove adID => .remove (r.getShardKey adID) adID
  | .applyAntiStarvation now =>
    if !r.config.antiStarvationEnabled then .done .unit else .scan r.config now r.shardCount 0

/-- `k` steps of one client, with no other client running. -/
def Client.runAlone : Nat → Client → Shards → Client × Shards
  | 0, c, db => (c, db)
  | k + 1, c, db => Client.runAlone k (c.step db).1 (c.step db).2

/-! ## A client run alone -/

namespace Client

@[simp] theorem runAlone_zero (c : Client) (db : Shards) : c.runAlone 0 db = (c, db) := rfl

theorem runAlone_succ (k : Nat) (c : Client) (db : Shards) :
    c.runAlone (k + 1) db = (c.step db).1.runAlone k (c.step db).2 := rfl

theorem runAlone_add (a b : Nat) : ∀ (c : Client) (db : Shards),
    c.runAlone (a + b) db = (c.runAlone a db).1.runAlone b (c.runAlone a db).2 := by
  induction a with
  | zero => simp [runAlone]
  | succ a ih => intro c db; rw [Nat.add_right_comm, runAlone_succ, ih, runAlone_succ]

@[simp] theorem runAlone_done (o : Outcome) : ∀ (k : Nat) (db : Shards),
    (done o).runAlone k db = (done o, db)
  | 0, _ => rfl
  | k + 1, db => runAlone_done o k db

/-- `c` at `db` comes to `c'` at `db'` by steps of its own. -/
def Reaches (c : Client) (db : Shards) (c' : Client) (db' : Shards) : Prop :=
  ∃ k, c.runAlone k db = (c', db')

theorem Reaches.refl (c : Client) (db : Shards) : Reaches c db c db := ⟨0, rfl⟩

theorem Reaches.trans {c c' c'' : Client} {db db' db'' : Shards} :
    Reaches c db c' db' → Reaches c' db' c'' db'' → Reaches c db c'' db''
  | ⟨a, ha⟩, ⟨b, hb⟩ => ⟨a + b, by rw [runAlone_add, ha, hb]⟩

theorem Reaches.of_runAlone {c c' : Client} {db db' : Shards} {k : Nat}
    (h : c.runAlone k db = (c', db')) : Reaches c db c' db' := ⟨k, h⟩

theorem Reaches.of_step {c c' : Client} {db db' : Shards} (h : c.step db = (c', db')) :
    Reaches c db c' db' := ⟨1, h⟩

/-- The peek loop of `Dequeue` folds `keepBest` over the shards it visits. -/
theorem runAlone_peek (now : Int) (n : Nat) (db : Shards) : ∀ (k i : Nat) (best : Option (Z × Nat)),
    i + k ≤ n → (peek now n i best).runAlone k db =
      (peek now n (i + k) ((List.range' i k).foldl (keepBest db) best), db)
  | 0, _, _, _ => rfl
  | k + 1, i, best, h => by
    have hstep : (peek now n i best).step db = (peek now n (i + 1) (keepBest db best i), db) :=
      if_pos (by omega)
    rw [runAlone_succ, hstep, runAlone_peek now n db k (i + 1) _ (by omega)]
    simp only [List.range'_succ, List.foldl_cons, Nat.add_right_comm i 1 k, Nat.add_assoc]

/-- The read loop of `DequeueBatch` appends the replies and maps each member read to the
last shard that held it. -/
theorem runAlone_gather (b now : Int) (n : Nat) (db : Shards) :
    ∀ (k i : Nat) (all : List Z) (mapping : String → Option Nat), i + k ≤ n →
      (gather b now n i all mapping).runAlone k db =
        (gather b now n (i + k) (all ++ collectTop db (b - 1) (List.range' i k))
          (fun m => (shardMapping db (b - 1) (List.range' i k) m).or (mapping m)), db)
  | 0, _, _, _, _ => by simp [collectTop, shardMapping]
  | k + 1, i, all, mapping, h => by
    rw [runAlone_succ]
    simp only [step, if_pos (show i < n by omega)]
    rw [runAlone_gather b now n db k (i + 1) _ _ (by omega)]
    simp only [List.range'_succ, collectTop_cons, List.append_assoc, Nat.add_right_comm i 1 k,
      Nat.add_assoc, shardMapping, List.reverse_cons, List.find?_append, Option.or_assoc]
    congr 2
    funext m
    by_cases hm : m ∈ ((db i).zrevrange (b - 1)).map Z.member <;>
      simp only [List.mem_map] at hm <;> simp [hm]

/-- The `ZREM`s left to `DequeueBatch`, issued one after another. -/
def zremAll (db : Shards) (rms : List (Nat × List String)) : Shards :=
  rms.foldl (fun db p => db.zrem p.1 p.2) db

theorem runAlone_removeBatch (items : List QueueItem) : ∀ (rms : List (Nat × List String))
    (db : Shards), (removeBatch items rms).runAlone (rms.length + 1) db =
      (done (.items items), zremAll db rms)
  | [], _ => rfl
  | (i, ms) :: rest, db => runAlone_removeBatch items rest (db.zrem i ms)

/-- One `ZREM` per shard of a list without repeats, for the shards with members to remove. -/
theorem zremAll_filterMap (rm : Nat → List String) : ∀ (l : List Nat) (db : Shards), l.Nodup →
    zremAll db (l.filterMap fun i => if rm i = [] then none else some (i, rm i)) =
      fun j => if j ∈ l ∧ rm j ≠ [] then (db j).zrem (rm j) else db j
  | [], db, _ => by funext j; simp [zremAll]
  | i :: l, db, hnd => by
    have hi : i ∉ l := (List.nodup_cons.mp hnd).1
    funext j
    by_cases hri : rm i = []
    · rw [List.filterMap_cons, if_pos hri, zremAll_filterMap rm l db (List.nodup_cons.mp hnd).2]
      by_cases hj : j = i <;> simp [hj, hri]
    · rw [List.filterMap_cons, if_neg hri]
      change zremAll (db.zrem i (rm i)) _ j = _
      rw [zremAll_filterMap rm l _ (List.nodup_cons.mp hnd).2]
      by_cases hj : j = i
      · subst hj; simp [hi, hri, Shards.zrem]
      · by_cases hjl : j ∈ l ∧ rm j ≠ [] <;> simp_all [Shards.zrem]

/-- The removal loop of the client removes what `removeChosen` removes, when every chosen
member is mapped to one of the `n` shards. -/
theorem zremAll_batchRemovals {db : Shards} {n : Nat} {mapping : String → Option Nat}
    {chosen : List Z} (hmap : ∀ m j, mapping m = some j → j < n) :
    zremAll db (batchRemovals n mapping chosen) = removeChosen db (toRemove mapping chosen) := by
  rw [batchRemovals, zremAll_filterMap _ _ _ (List.nodup_range n)]
  funext j
  by_cases hj : j < n
  · by_cases hr : toRemove mapping chosen j = [] <;> simp [removeChosen, hj, hr]
  · have hr : toRemove mapping chosen j = [] := List.eq_nil_iff_forall_not_mem.mpr fun m hm => by
      obtain ⟨w, hw, -⟩ := List.mem_map.mp hm
      exact hj (hmap _ _ (of_decide_eq_true (List.mem_filter.mp hw).2))
    simp [removeChosen, hr]

/-- The boost loop of one shard folds `boostEntry` over the entries it read, then moves to
the next shard. -/
theorem runAlone_boost (cfg : QueueConfig) (now : Int) (n i : Nat) : ∀ (zs : List Z) (db : Shards),
    (boost cfg now n i zs).runAlone (zs.length + 1) db =
      (scan cfg now n (i + 1), zs.foldl (boostEntry cfg now i) db)
  | [], _ => rfl
  | z :: zs, db => runAlone_boost cfg now n i zs (boostEntry cfg now i db z)

/-- The shard loop of `ApplyAntiStarvation` folds `boostShard` over the shards it visits. -/
theorem reaches_scan (cfg : QueueConfig) (now : Int) (n : Nat) : ∀ (k i : Nat) (db : Shards),
    i + k ≤ n → Reaches (scan cfg now n i) db
      (scan cfg now n (i + k)) ((List.range' i k).foldl (boostShard cfg now) db)
  | 0, _, _, _ => .refl _ _
  | k + 1, i, db, h => by
    have hread : Reaches (scan cfg now n i) db (boost cfg now n i (db i).zrangeAll) db :=
      .of_step (if_pos (by omega))
    rw [show i + (k + 1) = i + 1 + k by omega]
    exact (hread.trans ⟨_, runAlone_boost cfg now n i _ db⟩).trans
      (reaches_scan cfg now n k (i + 1) _ (by omega))

end Client

open Client

/-- The peek loop of `Dequeue` over all shards, then its `ZREM`. -/
theorem reaches_dequeue (r : RedisQueueManager) (db : Shards) (now : Int) :
    Reaches (peek now r.shardCount 0 none) db
      (done (.ofItem (r.dequeue db now).1)) (r.dequeue db now).2 := by
  have hpeek := runAlone_peek now r.shardCount db r.shardCount 0 none (by omega)
  rw [Nat.zero_add, ← List.range_eq_range'] at hpeek
  refine (Reaches.of_runAlone hpeek).trans ?_
  change Reaches (peek now r.shardCount r.shardCount (r.bestEntry db)) db _ _
  have hn : ¬ r.shardCount < r.shardCount := lt_irrefl _
  cases hb : r.bestEntry db with
  | none => exact .of_step (by simp [step, hn, dequeue, hb, Outcome.ofItem])
  | some p =>
    obtain ⟨z, j⟩ := p
    have htake : (peek now r.shardCount r.shardCount (some (z, j))).step db = (take now z j, db) := by
      simp [step, hn]
    refine (Reaches.of_step htake).trans (.of_step ?_)
    cases hq : toQueueItem now z <;> simp [step, dequeue, hb, hq, Outcome.ofItem]

/-- The read loop of `DequeueBatch` over all shards, its choice, then its `ZREM`s. -/
theorem reaches_dequeueBatch (r : RedisQueueManager) (db : Shards) (b now : Int) :
    Reaches (gather b now r.shardCount 0 [] fun _ => none) db
      (done (.items (r.dequeueBatch db b now).1)) (r.dequeueBatch db b now).2 := by
  have hg := runAlone_gather b now r.shardCount db r.shardCount 0 [] (fun _ => none) (by omega)
  simp only [Nat.zero_add, ← List.range_eq_range', List.nil_append, Option.or_none] at hg
  have hrm := runAlone_removeBatch ((r.chooseBatch db b).filterMap (toQueueItem now))
    (batchRemovals r.shardCount (shardMapping db (b - 1) (List.range r.shardCount))
      (r.chooseBatch db b)) db
  rw [zremAll_batchRemovals fun _ _ h => shardMapping_lt h] at hrm
  exact ((Reaches.trans ⟨_, hg⟩ (.of_step (if_neg (lt_irrefl _)))).trans ⟨_, hrm⟩)

/-- The `ZSCORE` of `UpdatePriority`, then its `ZADD` when the member was there. -/
theorem reaches_updatePriority (r : RedisQueueManager) (db : Shards) (adID : AdID) (q : Int) :
    Reaches (readScore (r.getShardKey adID) adID q) db
      (done (.ofUnit (r.updatePriority db adID q).1)) (r.updatePriority db adID q).2 := by
  cases hs : (db (r.getShardKey adID)).zscore adID.value with
  | none => exact .of_step (by simp [step, updatePriority, hs, Outcome.ofUnit])
  | some v =>
    have hwrite : (readScore (r.getShardKey adID) adID q).step db =
        (writeScore (r.getShardKey adID) adID (q * 10000000000 + timestampPart v), db) := by
      simp [step, hs]
    exact (Reaches.of_step hwrite).trans
      (.of_step (by simp [step, updatePriority, hs, Outcome.ofUnit]))

/-- Run alone, a client computes exactly the sequential method of its call. -/
theorem reaches_start (r : RedisQueueManager) (c : Call) (db : Shards) :
    Reaches (c.start r) db (done (c.apply r db).1) (c.apply r db).2 := by
  cases c with
  | enqueue adID priority now => exact .of_step rfl
  | dequeue now => exact reaches_dequeue r db now
  | dequeueBatch b now => exact reaches_dequeueBatch r db b now
  | updatePriority adID q => exact reaches_updatePriority r db adID q
  | remove adID =>
    exact .of_step (by
      by_cases h0 : (db (r.getShardKey adID)).zremCount [adID.value] = 0 <;>
        simp [Call.start, Call.apply, step, RedisQueueManager.remove, h0, Outcome.ofUnit])
  | applyAntiStarvation now =>
    by_cases hen : r.config.antiStarvationEnabled = true
    · have hs := reaches_scan r.config now r.shardCount r.shardCount 0 db (by omega)
      rw [Nat.zero_add, ← List.range_eq_range'] at hs
      simp only [Call.start, Call.apply, applyAntiStarvation, hen, Bool.not_true]
      exact hs.trans (.of_step (if_neg (lt_irrefl _)))
    · simp only [Call.start, Call.apply, applyAntiStarvation, hen, Bool.not_false]
      exact .refl _ _

/-! ## Interleaved clients -/

/-- The shard sets and the calls in progress. -/
structure System where
  db : Shards
  clients : List Client

/-- Client `j` takes one step; an index with no client changes nothing. -/
def System.step (s : System) (j : Nat) : System :=
  match s.clients[j]? with
  | none => s
  | some c => ⟨(c.step s.db).2, s.clients.set j (c.step s.db).1⟩

/-- The clients take their steps in the order of the schedule. -/
def System.run (s : System) (sched : List Nat) : System := sched.foldl System.step s

namespace System

theorem step_of_get {s : System} {j : Nat} {c : Client} (h : s.clients[j]? = some c) :
    s.step j = ⟨(c.step s.db).2, s.clients.set j (c.step s.db).1⟩ := by
  simp [step, h]

theorem run_append (s : System) (l l' : List Nat) : s.run (l ++ l') = (s.run l).run l' :=
  List.foldl_append _ _ _ _

/-- A schedule that gives client `j` its next `k` turns runs it alone for `k` steps. -/
theorem run_replicate {j : Nat} : ∀ (k : Nat) {s : System} {c : Client}, s.clients[j]? = some c →
    s.run (List.replicate k j) = ⟨(c.runAlone k s.db).2, s.clients.set j (c.runAlone k s.db).1⟩
  | 0, s, c, h => by
    have hset : s.clients.set j c = s.clients := List.ext_getElem? fun k => by
      by_cases hk : j = k
      · subst hk; simp [List.getElem?_set, h, (List.getElem?_eq_some_iff.mp h).1]
      · simp [List.getElem?_set_ne hk]
    simp [run, hset]
  | k + 1, s, c, h => by
    have hj : j < s.clients.length := (List.getElem?_eq_some_iff.mp h).1
    have h' : (s.step j).clients[j]? = some (c.step s.db).1 := by
      simp [step_of_get h, List.getElem?_set_self hj]
    rw [List.replicate_succ, run, List.foldl_cons, ← run, run_replicate k h', step_of_get h]
    simp [Client.runAlone_succ]

/-- Calls run one after another, each to its end, compute the sequential methods in turn:
on any schedule without overlap the concurrent model is the sequential one. -/
theorem run_serial (r : RedisQueueManager) : ∀ (cs : List Call) (pre : List Client) (db : Shards),
    ∃ sched, (System.mk db (pre ++ cs.map (Call.start r))).run sched =
      ⟨(Call.applyAll r cs db).2, pre ++ (Call.applyAll r cs db).1.map Client.done⟩
  | [], pre, db => ⟨[], by simp [run, Call.applyAll]⟩
  | c :: cs, pre, db => by
    obtain ⟨k, hk⟩ := reaches_start r c db
    obtain ⟨sched, hs⟩ := run_serial r cs (pre ++ [.done (c.apply r db).1]) (c.apply r db).2
    refine ⟨List.replicate k pre.length ++ sched, ?_⟩
    have hget : (System.mk db (pre ++ (c :: cs).map (Call.start r))).clients[pre.length]? =
        some (c.start r) := by
      rw [List.map_cons, List.getElem?_append_right (le_refl _), Nat.sub_self, List.getElem?_cons_zero]
    rw [run_append, run_replicate k hget]
    simp only [hk, List.map_cons, List.set_append_right _ _ (le_refl _), Nat.sub_self,
      List.set_cons_zero, List.append_assoc, List.singleton_append] at hs ⊢
    rw [hs]
    simp [Call.applyAll]

end System

/-! ## Races -/

/-- Two `Dequeue` calls on a one-shard queue holding one entry: both peek before either
removes, both `ZREM` it, and both hand it out, though the second `ZREM` removed nothing. -/
theorem dequeue_race_hands_out_twice :
    let r : RedisQueueManager := ⟨⟨true, 300000000000, 2, 10, 60000000000⟩, 1⟩
    let adID : AdID := ⟨"123e4567-e89b-12d3-a456-426614174000"⟩
    let s := (System.mk (r.enqueue Shards.empty adID 3 0)
      [(Call.dequeue 0).start r, (Call.dequeue 0).start r]).run [0, 1, 0, 1, 0, 1]
    s.clients.map Client.outcome = [some (.item (some (QueueItem.new adID 3 0))),
      some (.item (some (QueueItem.new adID 3 0)))] ∧ s.db 0 = SortedSet.empty := by
  set_option maxRecDepth 20000 in
  exact ⟨rfl, SortedSet.ext rfl⟩

/-- An `UpdatePriority` reads the score of a queued entry; a `Dequeue` then hands the entry
out and removes it; the `ZADD` of the `UpdatePriority` puts it back, with no `Enqueue` in
between. -/
theorem updatePriority_race_reinserts :
    let r : RedisQueueManager := ⟨⟨true, 300000000000, 2, 10, 60000000000⟩, 1⟩
    let adID : AdID := ⟨"123e4567-e89b-12d3-a456-426614174000"⟩
    let s := (System.mk (r.enqueue Shards.empty adID 3 0)
      [(Call.updatePriority adID 5).start r, (Call.dequeue 0).start r]).run [0, 1, 1, 1, 0]
    s.clients.map Client.outcome = [some .unit, some (.item (some (QueueItem.new adID 3 0)))] ∧
      (s.db (r.getShardKey adID)).zscore adID.value = some 59999999999 := by
  set_option maxRecDepth 20000 in
  exact ⟨rfl, rfl⟩

end RedisQueueManager

end AdQueue
