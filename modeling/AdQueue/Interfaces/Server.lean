import AdQueue.Interfaces.Handlers
import AdQueue.Queue.Invariants

/-!
# The API server

The server's `main` wires one `AdService` over the ad repository and a
`RedisQueueManager`, one `CommandService` over the mock executor and an in-memory command
store, and registers the handlers of both.  `Server` is what the handlers read and write:
the ad state the executor reaches (store, queue, manager) and the command store.  A step is
one request handled to its end, or one call of another client of the same Redis, such as
the `DequeueBatch` and `ApplyAntiStarvation` of the ad processor (`Event`).

Each step changes the queue as a run of the manager's methods does (`step_queueRun`):
`CreateAd` by the `Enqueue` of the new ad, a priority rewrite by its `UpdatePriority`
calls at the new priority, which the service has checked to be valid, and a read by no
call.  The calls have the arguments `Call.Admissible` asks for when the enqueue clocks lie
in Unix seconds `0 .. 9999999999` and the fresh identifiers parse (`Event.Sane`).  So every
run of the server reaches a queue that a run of admissible calls reaches from the same
queue (`run_queueRun`), and every invariant of `Queue.Invariants` holds along it: from an
empty queue, scores stay in their bands, members in the shards their identifiers name, and
every member parses (`server_queue_wellFormed`).  On such a queue `GET /ads/queue/stats`
totals the queue and `GET /ads/queue/next` lists its best entries (`getNextAds_top`).
-/

namespace AdQueue

open RedisQueueManager

/-- What the server's `AdService` uses of an `ad.Repository`: the methods of the bulk
rewrites, `Save` and `FindByID`. -/
structure ServiceRepository (R : Type) extends AdRepository R where
  save : R → Ad → Except AdError Unit × R
  findByID : R → AdID → Except String Ad

/-- `MemoryAdRepository` as the server's repository. -/
def MemoryAdRepository.serviceRepository : ServiceRepository MemoryAdRepository :=
  { MemoryAdRepository.repository with
    save := MemoryAdRepository.save
    findByID := MemoryAdRepository.findByID }

/-- What the handlers of the server read and write. -/
structure Server (R : Type) where
  ads : AdState R
  commands : MemoryCommandRepository

/-- One step of the server: a request, with what its handler reads besides it (fresh
identifiers, clock readings, the answers of Redis and of the parser's API), or a call of
another client of the queue. -/
inductive Event where
  /-- `POST /ads`. -/
  | createAd (body : Except String CreateAdBody) (id : AdID) (nowCreate nowEnqueue nowEstimate : Int)
      (zaddReply : Except String Unit)
  /-- `GET /ads/:id`. -/
  | getAdStatus (adID uuidError : String) (now : Int)
  /-- `GET /ads/queue/stats`. -/
  | getQueueStats
  /-- `GET /ads/queue/next`. -/
  | getNextAds (countQuery : Option String) (now : Int)
  /-- `POST /agent/command`. -/
  | executeCommand (parser : CommandParser) (body : Except String String) (id : CommandID)
      (created now stamp failNow : Int)
  /-- `GET /agent/command/:id`. -/
  | getCommandStatus (commandID : String)
  /-- `GET /agent/commands/recent`. -/
  | getRecentCommands (limitQuery : Option String)
  /-- A call of another client of the queue. -/
  | queueCall (call : Call)

namespace Server

variable {R : Type}

/-- The state after one step.  The reads leave it as it was; their replies are the
handlers'. -/
def step (repo : ServiceRepository R) (s : Server R) : Event → Server R
  | .createAd body id nowCreate nowEnqueue nowEstimate zaddReply =>
    let res := AdHandler.createAd repo.save s.ads.manager s.ads.store s.ads.queue id nowCreate
      nowEnqueue nowEstimate zaddReply body
    { s with ads := { s.ads with store := res.2.2.1, queue := res.2.2.2 } }
  | .executeCommand parser body id created now stamp failNow =>
    let res := CommandHandler.executeCommand parser repo.toAdRepository s.commands s.ads body id
      created now stamp failNow
    ⟨res.2.2.2, res.2.2.1⟩
  | .queueCall c => { s with ads := { s.ads with queue := (c.apply s.ads.manager s.ads.queue).2 } }
  | .getAdStatus .. | .getQueueStats | .getNextAds .. | .getCommandStatus _
  | .getRecentCommands _ => s

/-- The steps of a list, one after another. -/
def run (repo : ServiceRepository R) : Server R → List Event → Server R
  | s, [] => s
  | s, e :: es => run repo (s.step repo e) es

end Server

/-- The inputs the server is specified on: the clock of an enqueue in Unix seconds
`0 .. 9999999999`, a fresh ad identifier `ParseAdID` accepts (`uuid.New().String()` always
is one), and calls of other clients with admissible arguments that enqueue parsed
identifiers. -/
def Event.Sane (r : RedisQueueManager) : Event → Prop
  | .createAd _ id _ nowEnqueue _ _ =>
    uuidParses id.value = true ∧ 0 ≤ unixSeconds nowEnqueue ∧ unixSeconds nowEnqueue ≤ 9999999999
  | .queueCall c => c.Admissible r ∧ c.EnqueuesParsed
  | .getAdStatus .. | .getQueueStats | .getNextAds .. | .executeCommand .. | .getCommandStatus _
  | .getRecentCommands _ => True

/-! ## Runs of the manager's calls -/

theorem Call.applyAll_append (r : RedisQueueManager) (cs cs' : List Call) (db : Shards) :
    (Call.applyAll r (cs ++ cs') db).2 = (Call.applyAll r cs' (Call.applyAll r cs db).2).2 := by
  induction cs generalizing db with
  | nil => rfl
  | cons c cs ih => exact ih _

/-- `db'` is reached from `db` by a run of calls of `r` with admissible arguments that
enqueue only parsed identifiers. -/
def QueueRun (r : RedisQueueManager) (db db' : Shards) : Prop :=
  ∃ cs : List Call, (∀ c ∈ cs, c.Admissible r ∧ c.EnqueuesParsed) ∧ db' = (Call.applyAll r cs db).2

namespace QueueRun

variable {r : RedisQueueManager} {db db' db'' : Shards}

theorem refl (r : RedisQueueManager) (db : Shards) : QueueRun r db db := ⟨[], by simp, rfl⟩

theorem trans (h : QueueRun r db db') (h' : QueueRun r db' db'') : QueueRun r db db'' := by
  obtain ⟨cs, hcs, rfl⟩ := h
  obtain ⟨cs', hcs', rfl⟩ := h'
  refine ⟨cs ++ cs', fun c hc => ?_, (Call.applyAll_append r cs cs' db).symm⟩
  rcases List.mem_append.mp hc with hc | hc
  · exact hcs c hc
  · exact hcs' c hc

theorem call {c : Call} (hc : c.Admissible r ∧ c.EnqueuesParsed) :
    QueueRun r db (c.apply r db).2 :=
  ⟨[c], by simpa using hc, rfl⟩

end QueueRun

/-! ## What each service does to the queue -/

section Services

variable {R : Type}

/-- The queue loop of the rewrites, at a valid priority, is a run of `UpdatePriority`. -/
theorem queueRun_foldl_queueStep (qm : RedisQueueManager) {q : Int} (hq : 1 ≤ q ∧ q ≤ 5) :
    ∀ (ids : List AdID) (n : Nat) (db : Shards),
      QueueRun qm db (ids.foldl (AdService.queueStep qm q) (n, db)).2
  | [], _, db => .refl qm db
  | id :: ids, _, _ => (QueueRun.call (c := .updatePriority id q) ⟨hq, trivial⟩).trans
      (queueRun_foldl_queueStep qm hq ids _ _)

theorem queueRun_changePriorityOf (repo : AdRepository R) (qm : RedisQueueManager) (store : R)
    (db : Shards) (found : Except String (List Ad)) (findError : String) (q : Int) :
    QueueRun qm db (AdService.changePriorityOf repo qm store db found findError q).2.2 := by
  unfold AdService.changePriorityOf
  split_ifs with hq
  · exact .refl qm db
  · have hvalid : 1 ≤ q ∧ q ≤ 5 := by simpa using hq
    split
    · exact .refl qm db
    · dsimp only
      split_ifs
      · exact .refl qm db
      · split
        · exact .refl qm db
        · exact queueRun_foldl_queueStep qm hvalid _ _ _

theorem conclude_state {α : Type} (cmd : Command) (now : Int) (result : α → CommandResult)
    (st : AdState R) (res : Except String α) :
    (MockCommandExecutor.conclude cmd now result st res).2.2 = st := by
  cases res <;> rfl

/-- `Execute` keeps the manager and changes the queue by admissible calls. -/
theorem queueRun_execute (repo : AdRepository R) (st : AdState R) (cmd : Command) (now stamp : Int) :
    (MockCommandExecutor.execute repo st cmd now stamp).2.2.manager = st.manager ∧
      QueueRun st.manager st.queue (MockCommandExecutor.execute repo st cmd now stamp).2.2.queue := by
  unfold MockCommandExecutor.execute
  split
  · simp only [MockCommandExecutor.executePriorityChangeByGameFamily, conclude_state, true_and]
    exact queueRun_changePriorityOf _ _ _ _ _ _ _
  · simp only [MockCommandExecutor.executePriorityChangeByAge, conclude_state, true_and]
    exact queueRun_changePriorityOf _ _ _ _ _ _ _
  all_goals
    simp only [MockCommandExecutor.executeShowNextAds, MockCommandExecutor.executeQueueDistribution,
      MockCommandExecutor.executeWaitingAds, MockCommandExecutor.executeEnableStarvationMode,
      MockCommandExecutor.executeSetMaxWaitTime, conclude_state, true_and]
    exact .refl _ _

/-- The ad state after a parsed command: as it was, or as `Execute` left it. -/
theorem executeParsed_state (parser : CommandParser) (repo : AdRepository R)
    (commands : MemoryCommandRepository) (st : AdState R) (cmd : Command) (now stamp failNow : Int) :
    (CommandService.executeParsed parser repo commands st cmd now stamp failNow).state = st ∨
      (CommandService.executeParsed parser repo commands st cmd now stamp failNow).state =
        (MockCommandExecutor.execute repo st cmd.startExecution now stamp).2.2 := by
  dsimp only [CommandService.executeParsed]
  split
  · exact .inl rfl
  · split_ifs
    · exact .inl rfl
    · split <;> exact .inr (by rename_i h; rw [h])

/-- `ExecuteCommand` keeps the manager and changes the queue by admissible calls. -/
theorem queueRun_executeCommand (parser : CommandParser) (repo : AdRepository R)
    (commands : MemoryCommandRepository) (st : AdState R) (text : String) (id : CommandID)
    (created now stamp failNow : Int) :
    (CommandService.executeCommand parser repo commands st text id created now stamp
        failNow).state.manager = st.manager ∧
      QueueRun st.manager st.queue (CommandService.executeCommand parser repo commands st text id
        created now stamp failNow).state.queue := by
  unfold CommandService.executeCommand
  split
  · exact ⟨rfl, .refl _ _⟩
  · next cmd _ =>
    rcases executeParsed_state parser repo commands st cmd now stamp failNow with h | h <;> rw [h]
    · exact ⟨rfl, .refl _ _⟩
    · exact queueRun_execute repo st _ now stamp

/-- `CreateAd` adds at most the `Enqueue` of the new ad, which is admissible when the
enqueue clock is in range and the fresh identifier parses. -/
theorem queueRun_createAd (save : R → Ad → Except AdError Unit × R) (qm : RedisQueueManager)
    (store : R) (db : Shards) (id : AdID) (nowCreate nowEnqueue nowEstimate : Int)
    (zaddReply : Except String Unit) (req : CreateAdRequest) (hid : uuidParses id.value = true)
    (ht : 0 ≤ unixSeconds nowEnqueue ∧ unixSeconds nowEnqueue ≤ 9999999999) :
    QueueRun qm db (AdService.createAd save qm store db id nowCreate nowEnqueue nowEstimate
      zaddReply req).2.2 := by
  unfold AdService.createAd
  split
  · exact .refl qm db
  · next a hfac =>
    obtain ⟨-, hp1, hp5, -⟩ := Factory.createAd_ok hfac
    have hcall : (Call.enqueue a.id a.priority nowEnqueue).Admissible qm ∧
        (Call.enqueue a.id a.priority nowEnqueue).EnqueuesParsed :=
      ⟨⟨hp1, hp5, ht⟩, (Factory.createAd_id hfac).symm ▸ hid⟩
    split
    · exact .refl qm db
    · cases zaddReply with
      | error e => exact .refl qm db
      | ok u => exact QueueRun.call hcall

/-- The handler of `POST /ads` changes the queue as its service does, or not at all. -/
theorem queueRun_handler_createAd (save : R → Ad → Except AdError Unit × R)
    (qm : RedisQueueManager) (store : R) (db : Shards) (id : AdID)
    (nowCreate nowEnqueue nowEstimate : Int) (zaddReply : Except String Unit)
    (body : Except String CreateAdBody) (hid : uuidParses id.value = true)
    (ht : 0 ≤ unixSeconds nowEnqueue ∧ unixSeconds nowEnqueue ≤ 9999999999) :
    QueueRun qm db (AdHandler.createAd save qm store db id nowCreate nowEnqueue nowEstimate
      zaddReply body).2.2.2 := by
  unfold AdHandler.createAd
  cases body with
  | error e => exact .refl qm db
  | ok b =>
    dsimp only
    split_ifs
    · exact .refl qm db
    · have := queueRun_createAd save qm store db id nowCreate nowEnqueue nowEstimate zaddReply
        b.toRequest hid ht
      split <;> (rename_i h; rw [h] at this; exact this)

end Services

/-! ## Every run -/

namespace Server

variable {R : Type} (repo : ServiceRepository R)

/-- One step keeps the manager and changes the queue by admissible calls. -/
theorem step_queueRun (s : Server R) {e : Event} (he : e.Sane s.ads.manager) :
    (s.step repo e).ads.manager = s.ads.manager ∧
      QueueRun s.ads.manager s.ads.queue (s.step repo e).ads.queue := by
  cases e with
  | createAd body id nowCreate nowEnqueue nowEstimate zaddReply =>
    exact ⟨rfl, queueRun_handler_createAd _ _ _ _ _ _ _ _ _ _ he.1 he.2⟩
  | executeCommand parser body id created now stamp failNow =>
    simp only [step, CommandHandler.executeCommand]
    split
    · exact ⟨rfl, .refl _ _⟩
    · split_ifs
      · exact ⟨rfl, .refl _ _⟩
      · exact queueRun_executeCommand _ _ _ _ _ _ _ _ _ _
  | queueCall c => exact ⟨rfl, QueueRun.call he⟩
  | getAdStatus | getQueueStats | getNextAds | getCommandStatus | getRecentCommands =>
    exact ⟨rfl, .refl _ _⟩

/-- A run of steps keeps the manager and changes the queue by admissible calls. -/
theorem run_queueRun : ∀ (s : Server R) (es : List Event), (∀ e ∈ es, e.Sane s.ads.manager) →
    (s.run repo es).ads.manager = s.ads.manager ∧
      QueueRun s.ads.manager s.ads.queue (s.run repo es).ads.queue
  | s, [], _ => ⟨rfl, .refl _ _⟩
  | s, e :: es, hes => by
    obtain ⟨hm, hq⟩ := step_queueRun repo s (hes e (List.mem_cons_self _ _))
    obtain ⟨hm', hq'⟩ := run_queueRun (s.step repo e) es fun e' he' => by
      rw [hm]
      exact hes e' (List.mem_cons_of_mem _ he')
    rw [hm] at hq'
    exact ⟨hm'.trans hm, hq.trans hq'⟩


/-- From an empty queue, every run keeps the manager, and its queue has every score in the
bands, every member in the shard its identifier names, and every member parsed. -/
theorem run_queue_invariants (s : Server R) (es : List Event) (hs : s.ads.queue = Shards.empty)
    (hes : ∀ e ∈ es, e.Sane s.ads.manager) :
    (s.run repo es).ads.manager = s.ads.manager ∧ Banded (s.run repo es).ads.queue ∧
      Placed s.ads.manager (s.run repo es).ads.queue ∧ Parsed (s.run repo es).ads.queue := by
  obtain ⟨hm, cs, hcs, hq⟩ := run_queueRun repo s es hes
  rw [hs] at hq
  rw [hq]
  exact ⟨hm, banded_applyAll cs AllEntries.empty fun c hc => (hcs c hc).1,
    placed_applyAll cs AllEntries.empty, parsed_applyAll cs AllEntries.empty fun c hc => (hcs c hc).2⟩

/-- Every run of the server from an empty queue, on the inputs it is specified on, leaves
the queue that a run of the manager's methods with admissible arguments leaves, under the
same manager.  So every entry has a score `p·10^10 + tau` with `p` in `1 .. 5` and `tau` in
`0 .. 9999999999`, lies in the shard its identifier names, and parses; and the total that
`GET /ads/queue/stats` reports is the size of the queue. -/
theorem server_queue_wellFormed (s : Server R) (es : List Event) (hs : s.ads.queue = Shards.empty)
    (hes : ∀ e ∈ es, e.Sane s.ads.manager) :
    (∃ cs : List Call, (∀ c ∈ cs, c.Admissible s.ads.manager) ∧
      (s.run repo es).ads.manager = s.ads.manager ∧
      (s.run repo es).ads.queue = (Call.applyAll s.ads.manager cs Shards.empty).2) ∧
    (∀ i, ∀ z ∈ ((s.run repo es).ads.queue i).entries,
      (∃ p tau, z.score = p * 10000000000 + tau ∧ 1 ≤ p ∧ p ≤ 5 ∧ 0 ≤ tau ∧ tau ≤ 9999999999) ∧
        s.ads.manager.getShardKey ⟨z.member⟩ = i ∧ uuidParses z.member = true) ∧
    AdHandler.getQueueStats (s.run repo es).ads.manager (s.run repo es).ads.queue =
      (200, .body ⟨(s.run repo es).ads.manager.getSizeByPriority (s.run repo es).ads.queue,
        (s.run repo es).ads.manager.getSize (s.run repo es).ads.queue⟩) := by
  obtain ⟨hm, cs, hcs, hq⟩ := run_queueRun repo s es hes
  obtain ⟨-, hb, hp, hpa⟩ := run_queue_invariants repo s es hs hes
  refine ⟨⟨cs, fun c hc => (hcs c hc).1, hm, hs ▸ hq⟩,
    fun i z hz => ⟨inBands_iff.mp (hb i z hz), hp i z hz, hpa i z hz⟩, ?_⟩
  set db := (s.run repo es).ads.queue
  have hall : ∀ z ∈ entriesOf db (List.range (s.run repo es).ads.manager.shardCount),
      InBands z.score := fun z hz => by
    obtain ⟨i, -, hz⟩ := mem_entriesOf.mp hz
    exact hb i z hz
  simp only [AdHandler.getQueueStats, AdService.getQueueDistribution, Prod.mk.injEq, true_and,
    Reply.body.injEq, QueueStats.mk.injEq]
  rw [getSizeByPriority_eq, getSize_eq, ← sum_band_counts _ hall]
  simp

/-- An empty server takes `POST /ads` of an ad at priority `4`, then `GET /ads/queue/stats`. -/
theorem server_queue_wellFormed_at_sample :
    let s : Server MemoryAdRepository :=
      ⟨⟨⟨[], List.nodup_nil⟩, Shards.empty, ⟨⟨true, 300000000000, 2, 10, 60000000000⟩, 2⟩⟩,
        MemoryCommandRepository.empty⟩
    let es := [Event.createAd (.ok ⟨"Ad", "rpg", some ["adults"], some 4, none⟩)
      ⟨"123e4567-e89b-12d3-a456-426614174000"⟩ 0 1700000000000000000 0 (.ok ()), .getQueueStats]
    let s' := s.run MemoryAdRepository.serviceRepository es
    (∀ e ∈ es, e.Sane s.ads.manager) ∧
      AdHandler.getQueueStats s'.ads.manager s'.ads.queue =
        (200, .body ⟨s'.ads.manager.getSizeByPriority s'.ads.queue,
          s'.ads.manager.getSize s'.ads.queue⟩) := by
  intro s es s'
  have hes : ∀ e ∈ es, e.Sane s.ads.manager := by
    simp only [es, List.forall_mem_cons, List.not_mem_nil, false_implies, implies_true, and_true,
      Event.Sane]
    decide
  exact ⟨hes, (server_queue_wellFormed MemoryAdRepository.serviceRepository s es rfl hes).2.2⟩

/-- On every queue the server reaches from an empty one, `GET /ads/queue/next` answers a
count `Atoi` rejects, or outside `1 .. 100`, with 400.  A 200 reply lists, for the count `n`
of the query (`5` when it has none), the `n` best entries of the whole queue, best first,
each as the item of its identifier at its decoded priority, and their number. -/
theorem getNextAds_top (s : Server R) (es : List Event) (hs : s.ads.queue = Shards.empty)
    (hes : ∀ e ∈ es, e.Sane s.ads.manager) (countQuery : Option String) (now : Int) :
    ((!(Text.atoi (countQuery.getD "5").data).2 ∨ (Text.atoi (countQuery.getD "5").data).1 ≤ 0 ∨
        100 < (Text.atoi (countQuery.getD "5").data).1) →
      AdHandler.getNextAds (s.run repo es).ads.manager (s.run repo es).ads.queue countQuery now =
        (400, .error ⟨"Count must be a positive integer between 1 and 100", ""⟩)) ∧
    ∀ body, (AdHandler.getNextAds (s.run repo es).ads.manager (s.run repo es).ads.queue countQuery
        now).2 = .body body →
      (AdHandler.getNextAds (s.run repo es).ads.manager (s.run repo es).ads.queue countQuery
        now).1 = 200 ∧ body.count = body.nextAds.length ∧
      ∃ n : Nat, 1 ≤ n ∧ n ≤ 100 ∧ (countQuery = none → n = 5) ∧
        ∃ sel, IsTopK n (entriesOf (s.run repo es).ads.queue
            (List.range (s.run repo es).ads.manager.shardCount)) sel ∧
          body.nextAds = sel.map (itemOf now) := by
  obtain ⟨hm, -, hp, hpa⟩ := run_queue_invariants repo s es hs hes
  set db := (s.run repo es).ads.queue
  set r := (s.run repo es).ads.manager
  have hwf : WellFormedQueue r.shardCount db :=
    ⟨fun i _ z hz => hpa i z hz, fun i _ j _ z hz z' hz' hmem => (hp.unique hz hz' hmem).1⟩
  unfold AdHandler.getNextAds
  dsimp only
  refine ⟨fun h => if_pos h, fun body h => ?_⟩
  split_ifs at h ⊢ with hbad
  simp only [not_or, Bool.not_eq_true', Bool.not_eq_false, not_le] at hbad
  obtain ⟨-, hpos, hle⟩ := hbad
  injection h with h
  subst h
  obtain ⟨sel, htop, hnext, -⟩ := batch_top r db now hwf (k := (Text.atoi (countQuery.getD "5").data).1.toNat)
    (by omega)
  have hcount : ((Text.atoi (countQuery.getD "5").data).1.toNat : Int) =
      (Text.atoi (countQuery.getD "5").data).1 := Int.toNat_of_nonneg (by omega)
  refine ⟨rfl, rfl, _, by omega, by omega, fun hq => ?_, sel, htop, ?_⟩
  · subst hq
    have : Text.atoi "5".data = (5, true) := by decide
    simp only [Option.getD_none, this]
    rfl
  · rw [AdService.getNextAds, ← hcount, hnext]


/-- On the same run, `GET /ads/queue/next` with no `count`. -/
theorem getNextAds_top_at_sample :
    let s : Server MemoryAdRepository :=
      ⟨⟨⟨[], List.nodup_nil⟩, Shards.empty, ⟨⟨true, 300000000000, 2, 10, 60000000000⟩, 2⟩⟩,
        MemoryCommandRepository.empty⟩
    let es := [Event.createAd (.ok ⟨"Ad", "rpg", some ["adults"], some 4, none⟩)
      ⟨"123e4567-e89b-12d3-a456-426614174000"⟩ 0 1700000000000000000 0 (.ok ())]
    let s' := s.run MemoryAdRepository.serviceRepository es
    (∀ e ∈ es, e.Sane s.ads.manager) ∧
      ∀ body, (AdHandler.getNextAds s'.ads.manager s'.ads.queue none 0).2 = .body body →
        ∃ sel, IsTopK 5 (entriesOf s'.ads.queue (List.range s'.ads.manager.shardCount)) sel ∧
          body.nextAds = sel.map (itemOf 0) := by
  intro s es s'
  have hes : ∀ e ∈ es, e.Sane s.ads.manager := by
    simp only [es, List.forall_mem_cons, List.not_mem_nil, false_implies, implies_true, and_true,
      Event.Sane]
    decide
  refine ⟨hes, fun body h => ?_⟩
  obtain ⟨-, -, n, -, -, hn, hsel⟩ :=
    (getNextAds_top MemoryAdRepository.serviceRepository s es rfl hes none 0).2 body h
  exact hn rfl ▸ hsel

end Server

/-! ## Queue entries and the in-memory store -/

namespace MemoryAdRepository

theorem ids_replace (r : MemoryAdRepository) (a : Ad) :
    ((r.replace a).ads.map fun b => b.id.value) = r.ads.map fun b => b.id.value := by
  simp only [replace, List.map_map]
  exact List.map_congr_left fun b _ => by by_cases h : b.id.value = a.id.value <;> simp [h]

/-- `Save` keeps every stored identifier and stores the entity's. -/
theorem mem_ids_save (r : MemoryAdRepository) (a : Ad) {m : String} :
    m ∈ ((r.save a).2.ads.map fun b => b.id.value) ↔
      m ∈ (r.ads.map fun b => b.id.value) ∨ m = a.id.value := by
  unfold save
  split_ifs with h
  · rw [ids_replace]
    exact ⟨.inl, fun hm => hm.elim id fun hm => hm ▸ h⟩
  · simp [add]

theorem ids_updatePriorityBatch : ∀ (r : MemoryAdRepository) (ids : List AdID) (q : Int),
    ((r.updatePriorityBatch ids q).2.ads.map fun b => b.id.value) = r.ads.map fun b => b.id.value
  | r, [], _ => rfl
  | r, id :: ids, q => by
    rw [updatePriorityBatch]
    split
    · exact ids_updatePriorityBatch r ids q
    · split
      · rfl
      · rw [ids_updatePriorityBatch, ids_replace]

end MemoryAdRepository

/-- Every member of the queue is the identifier of a stored ad. -/
def Backed (store : MemoryAdRepository) (db : Shards) : Prop :=
  AllEntries (fun _ z => z.member ∈ store.ads.map fun a => a.id.value) db

namespace Backed

variable {store : MemoryAdRepository} {db : Shards}

theorem mono (h : Backed store db) {store' : MemoryAdRepository}
    (hs : ∀ m ∈ store.ads.map (fun a => a.id.value), m ∈ store'.ads.map fun a => a.id.value) :
    Backed store' db :=
  fun i z hz => hs _ (h i z hz)

theorem foldl_queueStep (qm : RedisQueueManager) (q : Int) :
    ∀ (ids : List AdID) (n : Nat) {db : Shards}, Backed store db →
      Backed store (ids.foldl (AdService.queueStep qm q) (n, db)).2
  | [], _, _, h => h
  | id :: ids, _, _, h => foldl_queueStep qm q ids _ (h.updatePriority qm id q fun _ hv => hv)

/-- The rewrites keep the stored identifiers and rescore queued members. -/
theorem changePriorityOf (h : Backed store db) (qm : RedisQueueManager)
    (found : Except String (List Ad)) (findError : String) (q : Int) :
    Backed (AdService.changePriorityOf MemoryAdRepository.repository qm store db found findError q).2.1
      (AdService.changePriorityOf MemoryAdRepository.repository qm store db found findError q).2.2 := by
  have hids : ∀ ids res store', store.updatePriorityBatch ids q = (res, store') →
      Backed store' db := fun ids res store' hb => h.mono fun m hm => by
    rwa [← congrArg (fun p => p.2.ads.map fun a => a.id.value) hb,
      MemoryAdRepository.ids_updatePriorityBatch]
  unfold AdService.changePriorityOf
  split_ifs
  · exact h
  · split
    · exact h
    · dsimp only
      split_ifs
      · exact h
      · split
        · next e store' hb => exact hids _ _ _ hb
        · next store' hb => exact foldl_queueStep qm q _ 0 (hids _ _ _ hb)

theorem execute {st : AdState MemoryAdRepository} (h : Backed st.store st.queue) (cmd : Command)
    (now stamp : Int) :
    Backed (MockCommandExecutor.execute MemoryAdRepository.repository st cmd now stamp).2.2.store
      (MockCommandExecutor.execute MemoryAdRepository.repository st cmd now stamp).2.2.queue := by
  unfold MockCommandExecutor.execute
  split
  · simp only [MockCommandExecutor.executePriorityChangeByGameFamily, conclude_state]
    exact h.changePriorityOf _ _ _ _
  · simp only [MockCommandExecutor.executePriorityChangeByAge, conclude_state]
    exact h.changePriorityOf _ _ _ _
  all_goals
    simp only [MockCommandExecutor.executeShowNextAds, MockCommandExecutor.executeQueueDistribution,
      MockCommandExecutor.executeWaitingAds, MockCommandExecutor.executeEnableStarvationMode,
      MockCommandExecutor.executeSetMaxWaitTime, conclude_state]
    exact h

theorem executeCommand {st : AdState MemoryAdRepository} (h : Backed st.store st.queue)
    (parser : CommandParser) (commands : MemoryCommandRepository) (text : String) (id : CommandID)
    (created now stamp failNow : Int) :
    Backed (CommandService.executeCommand parser MemoryAdRepository.repository commands st text id
        created now stamp failNow).state.store
      (CommandService.executeCommand parser MemoryAdRepository.repository commands st text id
        created now stamp failNow).state.queue := by
  unfold CommandService.executeCommand
  split
  · exact h
  · next cmd _ =>
    rcases executeParsed_state parser MemoryAdRepository.repository commands st cmd now stamp
      failNow with hs | hs <;> rw [hs]
    · exact h
    · exact h.execute _ _ _

/-- `CreateAd` on the in-memory store: the save keeps every identifier and adds the new
ad's, and the enqueue, if any, is of that ad. -/
theorem createAdService (h : Backed store db) (qm : RedisQueueManager) (id : AdID)
    (nowCreate nowEnqueue nowEstimate : Int) (zaddReply : Except String Unit)
    (req : CreateAdRequest) :
    Backed (AdService.createAd MemoryAdRepository.save qm store db id nowCreate nowEnqueue
        nowEstimate zaddReply req).2.1
      (AdService.createAd MemoryAdRepository.save qm store db id nowCreate nowEnqueue nowEstimate
        zaddReply req).2.2 := by
  unfold AdService.createAd
  split
  · exact h
  · next a _ =>
    have hkeep : Backed (store.save a).2 db := h.mono fun m hm =>
      (MemoryAdRepository.mem_ids_save store a).mpr (.inl hm)
    have hnew := (MemoryAdRepository.mem_ids_save store a).mpr (.inr rfl)
    rcases hs : store.save a with ⟨r, store'⟩
    obtain rfl : r = .ok () := by simpa [hs] using store.save_fst a
    rw [hs] at hkeep hnew
    simp only [hs]
    cases zaddReply with
    | error e => exact hkeep
    | ok u => exact hkeep.enqueue qm a.id a.priority nowEnqueue hnew

theorem createAd (h : Backed store db) (qm : RedisQueueManager) (id : AdID)
    (nowCreate nowEnqueue nowEstimate : Int) (zaddReply : Except String Unit)
    (body : Except String CreateAdBody) :
    Backed (AdHandler.createAd MemoryAdRepository.save qm store db id nowCreate nowEnqueue
        nowEstimate zaddReply body).2.2.1
      (AdHandler.createAd MemoryAdRepository.save qm store db id nowCreate nowEnqueue nowEstimate
        zaddReply body).2.2.2 := by
  unfold AdHandler.createAd
  cases body with
  | error e => exact h
  | ok b =>
    dsimp only
    split_ifs
    · exact h
    · have := h.createAdService qm id nowCreate nowEnqueue nowEstimate zaddReply b.toRequest
      split <;> (rename_i hc; rw [hc] at this; exact this)

end Backed

namespace Server

/-- The events of a run that no other client's `Enqueue` is among. -/
def NoForeignEnqueue (e : Event) : Prop :=
  ∀ adID priority now, e ≠ .queueCall (.enqueue adID priority now)

theorem step_backed (s : Server MemoryAdRepository) {e : Event} (he : NoForeignEnqueue e)
    (h : Backed s.ads.store s.ads.queue) :
    Backed (s.step MemoryAdRepository.serviceRepository e).ads.store
      (s.step MemoryAdRepository.serviceRepository e).ads.queue := by
  cases e with
  | createAd body id nowCreate nowEnqueue nowEstimate zaddReply => exact h.createAd _ _ _ _ _ _ _
  | executeCommand parser body id created now stamp failNow =>
    simp only [step, CommandHandler.executeCommand]
    split
    · exact h
    · split_ifs
      · exact h
      · exact h.executeCommand _ _ _ _ _ _ _ _
  | queueCall c =>
    cases c with
    | enqueue adID p now => exact absurd rfl (he adID p now)
    | dequeue now => exact h.dequeue _ now
    | dequeueBatch b now => exact h.dequeueBatch _ b now
    | updatePriority adID q => exact h.updatePriority _ adID q fun _ hv => hv
    | remove adID => exact h.remove _ adID
    | applyAntiStarvation now => exact h.applyAntiStarvation (fun _ _ hz _ _ => hz) _ rfl
  | getAdStatus | getQueueStats | getNextAds | getCommandStatus | getRecentCommands => exact h

theorem run_backed : ∀ (s : Server MemoryAdRepository) (es : List Event),
    (∀ e ∈ es, NoForeignEnqueue e) → Backed s.ads.store s.ads.queue →
      Backed (s.run MemoryAdRepository.serviceRepository es).ads.store
        (s.run MemoryAdRepository.serviceRepository es).ads.queue
  | _, [], _, h => h
  | s, e :: es, hes, h => run_backed (s.step _ e) es (fun e' he' => hes e' (List.mem_cons_of_mem _ he'))
      (step_backed s (hes e (List.mem_cons_self _ _)) h)

/-- On the in-memory store, every run of the server from an empty queue in which no other
client enqueues (the ad processor only dequeues and rescores) keeps each member of the
queue the identifier of a stored ad, which `FindByID` finds: an item the processor takes
never names an ad the store lacks.  `CreateAd` saves before it enqueues, and nothing the
server does removes an ad from the store. -/
theorem queue_members_stored (s : Server MemoryAdRepository) (es : List Event)
    (hs : s.ads.queue = Shards.empty) (hes : ∀ e ∈ es, NoForeignEnqueue e) :
    ∀ i, ∀ z ∈ ((s.run MemoryAdRepository.serviceRepository es).ads.queue i).entries,
      ∃ a ∈ (s.run MemoryAdRepository.serviceRepository es).ads.store.ads, a.id.value = z.member ∧
        (s.run MemoryAdRepository.serviceRepository es).ads.store.findByID ⟨z.member⟩ = .ok a := by
  intro i z hz
  obtain ⟨a, ha, hid⟩ := List.mem_map.mp (run_backed s es hes (hs ▸ AllEntries.empty) i z hz)
  refine ⟨a, ha, hid, ?_⟩
  rw [← hid]
  simp [MemoryAdRepository.findByID, MemoryAdRepository.find?_eq_some ha]

/-- An empty server takes `POST /ads`, and the processor dequeues. -/
theorem queue_members_stored_at_sample :
    let s : Server MemoryAdRepository :=
      ⟨⟨⟨[], List.nodup_nil⟩, Shards.empty, ⟨⟨true, 300000000000, 2, 10, 60000000000⟩, 2⟩⟩,
        MemoryCommandRepository.empty⟩
    let es := [Event.createAd (.ok ⟨"Ad", "rpg", some ["adults"], some 4, none⟩)
      ⟨"123e4567-e89b-12d3-a456-426614174000"⟩ 0 1700000000000000000 0 (.ok ()),
      .queueCall (.dequeue 1700000000000000000)]
    (∀ e ∈ es, NoForeignEnqueue e) ∧
      ∀ i, ∀ z ∈ ((s.run MemoryAdRepository.serviceRepository es).ads.queue i).entries,
        ∃ a ∈ (s.run MemoryAdRepository.serviceRepository es).ads.store.ads,
          a.id.value = z.member := by
  intro s es
  have hes : ∀ e ∈ es, NoForeignEnqueue e := by
    simp [es, NoForeignEnqueue]
  exact ⟨hes, fun i z hz => by
    obtain ⟨a, ha, hid, -⟩ := queue_members_stored s es rfl hes i z hz
    exact ⟨a, ha, hid⟩⟩

end Server

end AdQueue
