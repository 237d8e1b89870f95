import AdQueue.Queue.TopK

/-!
# The dispatcher of the ad processor

`AdProcessor.pollQueue` and `AdProcessor.distributeItems` of `cmd/migrate`.  On each tick
the dispatcher takes a batch with `DequeueBatch` and hands each item to the first worker
whose channel has room, trying the workers in order; when none has room it tries worker `0`
once more, without waiting, and otherwise skips the item.  A channel is the list of items
buffered in it, at most `channelCapacity`.  With no worker at all `p.workers[0]` is out of
range and the goroutine panics, which the model returns as an error.  The workers are not
running during the tick: a worker that drains its channel concurrently only adds room.

`distributeItems_spec` says what a tick does to the channels: of the batch, the first
`room chans` items are buffered and the rest are skipped.  A skipped item has already been
removed from the queue by `DequeueBatch` (`pollQueue_spec`), so a tick with fewer free
places than items loses items (`pollQueue_drops_item`).
-/

namespace AdQueue

namespace AdProcessor

open RedisQueueManager

/-- The buffer size of a worker's `processingCh`. -/
def channelCapacity : Nat := 10

/-- `select { case ch <- item: ... default: ... }` on one worker's channel. -/
def trySend (ch : List QueueItem) (item : QueueItem) : Option (List QueueItem) :=
  if ch.length < channelCapacity then some (ch ++ [item]) else none

/-- The loop over `p.workers`: the first channel with room takes the item. -/
def offer (item : QueueItem) : List (List QueueItem) → Option (List (List QueueItem))
  | [] => none
  | ch :: chs =>
    match trySend ch item with
    | some ch' => some (ch' :: chs)
    | none => (offer item chs).map fun chs' => ch :: chs'

/-- One item of `distributeItems`: the loop over the workers, then one more try on
`p.workers[0]`, then the skip. -/
def distributeItem (chans : List (List QueueItem)) (item : QueueItem) :
    Except String (List (List QueueItem)) :=
  match offer item chans with
  | some chans' => .ok chans'
  | none =>
    match chans with
    | [] => .error "index out of range [0] with length 0"
    | ch :: chs =>
      match trySend ch item with
      | some ch' => .ok (ch' :: chs)
      | none => .ok (ch :: chs)

/-- `distributeItems`. -/
def distributeItems : List (List QueueItem) → List QueueItem → Except String (List (List QueueItem))
  | chans, [] => .ok chans
  | chans, item :: items => do
    let chans' ← distributeItem chans item
    distributeItems chans' items

/-- One tick of `pollQueue`: `DequeueBatch`, then the items to the workers.  Returns the
queue and the channels it leaves. -/
def pollQueue (r : RedisQueueManager) (batchSize now : Int) (db : Shards)
    (chans : List (List QueueItem)) : Except String (Shards × List (List QueueItem)) :=
  let p := r.dequeueBatch db batchSize now
  if p.1.isEmpty then .ok (p.2, chans)
  else (distributeItems chans p.1).map fun chans' => (p.2, chans')

/-! ## Free places -/

/-- The free places of all channels. -/
def room (chans : List (List QueueItem)) : Nat :=
  (chans.map fun ch => channelCapacity - ch.length).sum

/-- Every channel holds at most its capacity. -/
def Bounded (chans : List (List QueueItem)) : Prop :=
  ∀ ch ∈ chans, ch.length ≤ channelCapacity

@[simp] theorem room_nil : room [] = 0 := rfl

@[simp] theorem room_cons (ch : List QueueItem) (chs : List (List QueueItem)) :
    room (ch :: chs) = channelCapacity - ch.length + room chs := rfl

theorem Bounded.cons_iff {ch : List QueueItem} {chs : List (List QueueItem)} :
    Bounded (ch :: chs) ↔ ch.length ≤ channelCapacity ∧ Bounded chs :=
  List.forall_mem_cons

/-- An item offered to channels with a free place lands in one of them and takes the
place. -/
theorem offer_of_room (item : QueueItem) : ∀ {chans : List (List QueueItem)}, Bounded chans →
    0 < room chans → ∃ chans', offer item chans = some chans' ∧ Bounded chans' ∧
      chans'.length = chans.length ∧ room chans' + 1 = room chans ∧
      chans'.flatten.Perm (chans.flatten ++ [item])
  | [], _, h => absurd h (lt_irrefl 0)
  | ch :: chs, hb, h => by
    obtain ⟨hch, hchs⟩ := Bounded.cons_iff.mp hb
    by_cases hlt : ch.length < channelCapacity
    · refine ⟨(ch ++ [item]) :: chs, by simp [offer, trySend, hlt], ?_, rfl, ?_, ?_⟩
      · exact Bounded.cons_iff.mpr ⟨by simpa using hlt, hchs⟩
      · simp only [room_cons, List.length_append, List.length_singleton]; omega
      · simp only [List.flatten_cons, List.append_assoc]
        exact List.perm_append_comm.append_left ch
    · have hfull : channelCapacity - ch.length = 0 := by omega
      obtain ⟨chs', hoff, hb', hlen, hroom, hperm⟩ :=
        offer_of_room item hchs (by simpa [hfull] using h)
      refine ⟨ch :: chs', by simp [offer, trySend, hlt, hoff], Bounded.cons_iff.mpr ⟨hch, hb'⟩,
        by simp [hlen], by simp [hfull, hroom], ?_⟩
      simpa using hperm.append_left ch

/-- With no free place, the loop over the workers finds no channel. -/
theorem offer_of_full (item : QueueItem) : ∀ {chans : List (List QueueItem)}, Bounded chans →
    room chans = 0 → offer item chans = none
  | [], _, _ => rfl
  | ch :: chs, hb, h => by
    obtain ⟨-, hchs⟩ := Bounded.cons_iff.mp hb
    have hlt : ¬ ch.length < channelCapacity := by simp only [room_cons] at h; omega
    simp [offer, trySend, hlt, offer_of_full item hchs (by simp only [room_cons] at h; omega)]

/-- A tick on at least one worker: the first `room chans` items are buffered, the others
are skipped. -/
theorem distributeItems_spec : ∀ (items : List QueueItem) {chans : List (List QueueItem)},
    chans ≠ [] → Bounded chans → ∃ chans', distributeItems chans items = .ok chans' ∧
      Bounded chans' ∧ chans'.length = chans.length ∧
      room chans' = room chans - min items.length (room chans) ∧
      chans'.flatten.Perm (chans.flatten ++ items.take (room chans))
  | [], chans, _, hb => ⟨chans, rfl, hb, rfl, by simp, by simp⟩
  | item :: items, chans, hne, hb => by
    by_cases h0 : room chans = 0
    · have hstay : distributeItem chans item = .ok chans := by
        obtain ⟨ch, chs, rfl⟩ := List.exists_cons_of_ne_nil hne
        have hlt : ¬ ch.length < channelCapacity := by simp only [room_cons] at h0; omega
        simp [distributeItem, offer_of_full item hb h0, trySend, hlt]
      obtain ⟨chans', hrun, hb', hlen, hroom, hperm⟩ := distributeItems_spec items hne hb
      refine ⟨chans', by rw [distributeItems, hstay]; exact hrun, hb', hlen, ?_, ?_⟩
      · simp [hroom, h0]
      · simpa [h0] using hperm
    · obtain ⟨chans₁, hoff, hb₁, hlen₁, hroom₁, hperm₁⟩ := offer_of_room item hb (Nat.pos_of_ne_zero h0)
      have hne₁ : chans₁ ≠ [] := by
        rintro rfl; exact hne (List.length_eq_zero.mp (by simpa using hlen₁.symm))
      obtain ⟨chans', hrun, hb', hlen, hroom, hperm⟩ := distributeItems_spec items hne₁ hb₁
      have htake : (item :: items).take (room chans) = item :: items.take (room chans₁) := by
        rw [← hroom₁, List.take_succ_cons]
      have hstep : distributeItem chans item = .ok chans₁ := by simp [distributeItem, hoff]
      refine ⟨chans', by rw [distributeItems, hstep]; exact hrun, hb', hlen₁ ▸ hlen,
        ?_, ?_⟩
      · simp only [List.length_cons]; omega
      · rw [htake]
        exact hperm.trans ((hperm₁.append_right _).trans (by simp))

/-! ## A tick of the dispatcher -/

/-- A tick on a well-formed queue and at least one worker: `DequeueBatch` removes a top `k`
of the queue, and only the first `room chans` of its items reach a channel. -/
theorem pollQueue_spec (r : RedisQueueManager) (db : Shards) (now : Int)
    (hwf : WellFormedQueue r.shardCount db) {k : Nat} (hk : 1 ≤ k)
    {chans : List (List QueueItem)} (hne : chans ≠ []) (hb : Bounded chans) :
    ∃ sel chans', IsTopK k (entriesOf db (List.range r.shardCount)) sel ∧
      pollQueue r k now db chans =
        .ok ((fun i => if i < r.shardCount then (db i).zrem (sel.map Z.member) else db i),
          chans') ∧
      chans'.flatten.Perm (chans.flatten ++ (sel.map (itemOf now)).take (room chans)) := by
  obtain ⟨sel, htop, -, hbatch⟩ := batch_top r db now hwf hk
  by_cases hsel : (sel.map (itemOf now)).isEmpty
  · exact ⟨sel, chans, htop, by simp [pollQueue, hbatch, hsel],
      by simp [List.isEmpty_iff.mp hsel]⟩
  · obtain ⟨chans', hrun, -, -, -, hperm⟩ := distributeItems_spec (sel.map (itemOf now)) hne hb
    exact ⟨sel, chans', htop, by simp [pollQueue, hbatch, hsel, hrun]; rfl, hperm⟩

/-- One worker whose channel is full and a queue of one entry: the tick removes the entry
and buffers nothing, so the ad is neither queued nor with a worker. -/
theorem pollQueue_drops_item :
    let r : RedisQueueManager := ⟨⟨true, 300000000000, 1, 10, 60000000000⟩, 1⟩
    let adID : AdID := ⟨"123e4567-e89b-12d3-a456-426614174000"⟩
    let full := List.replicate 10 (QueueItem.new ⟨"123e4567-e89b-12d3-a456-426614174001"⟩ 3 0)
    ∃ db', pollQueue r 10 0 (r.enqueue Shards.empty adID 3 0) [full] = .ok (db', [full]) ∧
      (db' 0).entries = [] ∧ (r.dequeueBatch (r.enqueue Shards.empty adID 3 0) 10 0).1 =
        [QueueItem.new adID 3 0] := by
  set_option maxRecDepth 20000 in
  exact ⟨_, rfl, rfl, rfl⟩

end AdProcessor

end AdQueue
