import AdQueue.Command.Entity
import AdQueue.Service.Priority

/-!
# The mock command executor

`MockCommandExecutor` dispatches on the intent of a command to one method per intent.  Each
method reads its parameters, ignoring whether they were there (a missing one reads as the
zero value), calls the ad service, and ends the command: `FailExecution` with the error of
the call, or `CompleteExecution` with the result map built from its value (`conclude`).
An intent it does not know fails the command.

The service calls reach the ad store, the queue, and the queue manager (`AdState`).  Only
the two priority rewrites change anything; the three queries read; and the two
configuration methods, `executeEnableStarvationMode` and `executeSetMaxWaitTime`, complete
the command with a message and call nothing.  The queries of this model do not fail, so
their methods always complete.

`execute_cases` says everything `Execute` can do to the command: complete it or fail it, at
the clock of the executor.  `execute_configuration` says the two configuration methods
leave the state as it was.
-/

namespace AdQueue

/-- What `AdService` reaches from the command executor: the ad store, the queue, and the
queue manager with its configuration. -/
structure AdState (R : Type) where
  store : R
  queue : Shards
  manager : RedisQueueManager

namespace AdService

variable {R : Type}

/-- `GetQueueDistribution`. -/
def getQueueDistribution (qm : RedisQueueManager) (db : Shards) : List (Int × Nat) :=
  qm.getSizeByPriority db

/-- `GetNextAds`, at clock `now`. -/
def getNextAds (qm : RedisQueueManager) (db : Shards) (count : Int) (now : Int) : List QueueItem :=
  qm.getNext db count now

/-- `GetWaitingAds`, at clock `now`: the ads created before `now.Add(-waitTime)`. -/
def getWaitingAds (repo : AdRepository R) (store : R) (now waitTime : Int) :
    Except String (List Ad) :=
  repo.findOlderThan store (now + negDuration waitTime)

end AdService

namespace MockCommandExecutor

open Text

variable {R : Type}

/-- `fmt.Sprintf("%d", n)`. -/
def fmtInt (n : Int) : String := ⟨formatInt n⟩

/-- `time.Duration(n) * time.Minute`, in 64-bit arithmetic. -/
def minutesDuration (n : Int) : Int := Int.bmod (n * 60000000000) (2 ^ 64)

/-- The end of every method, on what its service call returned: `FailExecution` with the
error, or `CompleteExecution` with the result built from the value, at clock `now`. -/
def conclude {α : Type} (cmd : Command) (now : Int) (result : α → CommandResult) (st : AdState R) :
    Except String α → Except String Unit × Command × AdState R
  | .error e => (.error e, cmd.failExecution e now, st)
  | .ok v => (.ok (), cmd.completeExecution (result v) now, st)

/-- `executePriorityChangeByGameFamily`; the service reads the clock at `now`, the command
is ended at `stamp`. -/
def executePriorityChangeByGameFamily (repo : AdRepository R) (st : AdState R) (cmd : Command)
    (stamp : Int) : Except String Unit × Command × AdState R :=
  let priority := (cmd.getPriorityParameter "priority").getD 0
  let gameFamily := (cmd.getStringParameter "gameFamily").getD ""
  let res := AdService.changePriorityForGameFamily repo st.manager st.store st.queue gameFamily priority
  conclude cmd stamp (fun count => .priorityChangeByGameFamily count gameFamily priority
      ("Updated priority to " ++ fmtInt priority ++ " for " ++ fmtInt count ++ " ads in " ++
        gameFamily ++ " family"))
    { st with store := res.2.1, queue := res.2.2 } res.1

/-- `executePriorityChangeByAge`. -/
def executePriorityChangeByAge (repo : AdRepository R) (st : AdState R) (cmd : Command)
    (now stamp : Int) : Except String Unit × Command × AdState R :=
  let priority := (cmd.getPriorityParameter "priority").getD 0
  let minutes := (cmd.getIntParameter "minutes").getD 0
  let res := AdService.changePriorityForOlderAds repo st.manager st.store st.queue now
    (minutesDuration minutes) priority
  conclude cmd stamp (fun count => .priorityChangeByAge count priority (fmtInt minutes ++ " minutes")
      ("Updated priority to " ++ fmtInt priority ++ " for " ++ fmtInt count ++ " ads older than " ++
        fmtInt minutes ++ " minutes"))
    { st with store := res.2.1, queue := res.2.2 } res.1

/-- `executeShowNextAds`. -/
def executeShowNextAds (st : AdState R) (cmd : Command) (now stamp : Int) :
    Except String Unit × Command × AdState R :=
  let count := (cmd.getIntParameter "count").getD 0
  conclude cmd stamp (fun nextAds : List QueueItem =>
      .showNextAds (nextAds.mapIdx fun i item => ⟨item.adID.value, item.priority, i + 1⟩)
        nextAds.length ("Next " ++ fmtInt nextAds.length ++ " ads to be processed"))
    st (.ok (AdService.getNextAds st.manager st.queue count now))

/-- `executeQueueDistribution`. -/
def executeQueueDistribution (st : AdState R) (cmd : Command) (stamp : Int) :
    Except String Unit × Command × AdState R :=
  conclude cmd stamp (fun distribution : List (Int × Nat) =>
      let total := (distribution.map Prod.snd).sum
      .queueDistribution (distribution.map fun pc => ("priority_" ++ fmtInt pc.1, pc.2)) total
        ("Current queue has " ++ fmtInt total ++ " ads across all priorities"))
    st (.ok (AdService.getQueueDistribution st.manager st.queue))

/-- `executeWaitingAds`. -/
def executeWaitingAds (repo : AdRepository R) (st : AdState R) (cmd : Command) (now stamp : Int) :
    Except String Unit × Command × AdState R :=
  let minutes := (cmd.getIntParameter "minutes").getD 0
  conclude cmd stamp (fun waitingAds : List Ad =>
      .waitingAds (waitingAds.map fun a =>
          ⟨a.id.value, a.title, a.gameFamily, a.priority, a.waitTime now, a.status.value⟩)
        waitingAds.length minutes
        ("Found " ++ fmtInt waitingAds.length ++ " ads waiting longer than " ++ fmtInt minutes ++
          " minutes"))
    st (AdService.getWaitingAds repo st.store now (minutesDuration minutes))

/-- `executeEnableStarvationMode`: a message, and no call. -/
def executeEnableStarvationMode (st : AdState R) (cmd : Command) (stamp : Int) :
    Except String Unit × Command × AdState R :=
  (.ok (), cmd.completeExecution (.enableStarvationMode "enabled"
      "Anti-starvation mechanism has been disabled (starvation mode enabled)"
      "Low priority ads may now wait indefinitely") stamp, st)

/-- `executeSetMaxWaitTime`: a message, and no call. -/
def executeSetMaxWaitTime (st : AdState R) (cmd : Command) (stamp : Int) :
    Except String Unit × Command × AdState R :=
  let seconds := (cmd.getIntParameter "seconds").getD 0
  (.ok (), cmd.completeExecution (.setMaxWaitTime seconds (fmtInt seconds ++ " seconds")
      ("Maximum wait time updated to " ++ fmtInt seconds ++ " seconds")) stamp, st)

/-- `Execute`: the service calls read the clock at `now`, and the command is ended at
`stamp`. -/
def execute (repo : AdRepository R) (st : AdState R) (cmd : Command) (now stamp : Int) :
    Except String Unit × Command × AdState R :=
  match cmd.intent with
  | "change_priority_by_game_family" => executePriorityChangeByGameFamily repo st cmd stamp
  | "change_priority_by_age" => executePriorityChangeByAge repo st cmd now stamp
  | "show_next_ads" => executeShowNextAds st cmd now stamp
  | "queue_distribution" => executeQueueDistribution st cmd stamp
  | "waiting_ads" => executeWaitingAds repo st cmd now stamp
  | "enable_starvation_mode" => executeEnableStarvationMode st cmd stamp
  | "set_max_wait_time" => executeSetMaxWaitTime st cmd stamp
  | intent =>
    let err := "unsupported command intent: " ++ intent
    (.error err, cmd.failExecution err stamp, st)

/-- The intents `CanExecute` supports. -/
def supportedIntents : List String :=
  ["change_priority_by_game_family", "change_priority_by_age", "show_next_ads",
    "queue_distribution", "waiting_ads", "enable_starvation_mode", "set_max_wait_time"]

/-- `CanExecute`. -/
def canExecute (cmd : Command) : Bool := cmd.intent ∈ supportedIntents

/-! ## What `Execute` does to the command -/

theorem conclude_cases {α : Type} (cmd : Command) (now : Int) (result : α → CommandResult)
    (st : AdState R) (res : Except String α) :
    (∃ r, conclude cmd now result st res = (.ok (), cmd.completeExecution r now, st)) ∨
    (∃ e, conclude cmd now result st res = (.error e, cmd.failExecution e now, st)) := by
  cases res with
  | error e => exact .inr ⟨e, rfl⟩
  | ok v => exact .inl ⟨result v, rfl⟩

/-- `Execute` completes the command or fails it, at the executor's clock. -/
theorem execute_cases (repo : AdRepository R) (st : AdState R) (cmd : Command) (now stamp : Int) :
    (∃ r st', execute repo st cmd now stamp = (.ok (), cmd.completeExecution r stamp, st')) ∨
    (∃ e st', execute repo st cmd now stamp = (.error e, cmd.failExecution e stamp, st')) := by
  unfold execute
  split
  all_goals first
    | exact .inl ⟨_, _, rfl⟩
    | exact .inr ⟨_, _, rfl⟩
    | (rcases conclude_cases cmd stamp _ _ _ with ⟨r, h⟩ | ⟨e, h⟩
       · exact .inl ⟨r, _, h⟩
       · exact .inr ⟨e, _, h⟩)

/-- The two configuration methods complete the command and change nothing. -/
theorem execute_configuration (repo : AdRepository R) (st : AdState R) (cmd : Command)
    (now stamp : Int)
    (h : cmd.intent = "enable_starvation_mode" ∨ cmd.intent = "set_max_wait_time") :
    ∃ r, execute repo st cmd now stamp = (.ok (), cmd.completeExecution r stamp, st) := by
  unfold execute
  rcases h with h | h <;> rw [h] <;> exact ⟨_, rfl⟩

/-! ## The two rewrites on the in-memory store -/

/-- The threshold of `change_priority_by_age` for minutes whose duration fits in an
`int64` and is not the least one: `minutes` minutes before the clock. -/
theorem olderThan_threshold {m : Int} (h0 : -2 ^ 63 < m * 60000000000)
    (h1 : m * 60000000000 < 2 ^ 63) (now : Int) :
    now + negDuration (minutesDuration m) = now - m * 60000000000 := by
  rw [minutesDuration, bmod_of_int64 h0.le h1, negDuration, if_neg (by unfold minDuration; omega)]
  omega

/-- `executePriorityChangeByGameFamily` on the in-memory store, for a command with a valid
priority `q` and a family `g`: it completes, and rewrites the queued ads of family `g`. -/
theorem executePriorityChangeByGameFamily_memory (st : AdState MemoryAdRepository) (cmd : Command)
    (stamp : Int) {q : Int} {g : String} (hp : cmd.getPriorityParameter "priority" = some q)
    (hg : cmd.getStringParameter "gameFamily" = some g) :
    ∃ n store' db', executePriorityChangeByGameFamily MemoryAdRepository.repository st cmd stamp =
        (.ok (), cmd.completeExecution (.priorityChangeByGameFamily n g q ("Updated priority to " ++
          fmtInt q ++ " for " ++ fmtInt n ++ " ads in " ++ g ++ " family")) stamp,
          ⟨store', db', st.manager⟩) ∧
      AdService.Rewrote st.manager (fun a => a.gameFamily = g) q st.store st.queue n store'
        db' := by
  obtain ⟨n, store', db', hres, hrew⟩ := AdService.changePriorityOf_memory st.manager st.store
    st.queue (fun a => a.gameFamily = g) "failed to find ads by game family: "
    (Command.getPriorityParameter_eq_some.mp hp).2
  have hchange : AdService.changePriorityForGameFamily MemoryAdRepository.repository st.manager
      st.store st.queue g q = (.ok n, store', db') := hres
  refine ⟨n, store', db', ?_, hrew⟩
  simp only [executePriorityChangeByGameFamily, hp, hg, Option.getD_some, hchange]
  rfl

/-- `executePriorityChangeByAge` on the in-memory store, for a command with a valid priority
`p` and minutes `m` whose duration fits in an `int64` and is not the least one: it
completes, and rewrites the queued ads created before `now - m` minutes. -/
theorem executePriorityChangeByAge_memory (st : AdState MemoryAdRepository) (cmd : Command)
    (now stamp : Int) {p m : Int} (hp : cmd.getPriorityParameter "priority" = some p)
    (hm : cmd.getIntParameter "minutes" = some m) (h0 : -2 ^ 63 < m * 60000000000)
    (h1 : m * 60000000000 < 2 ^ 63) :
    ∃ r n store' db', executePriorityChangeByAge MemoryAdRepository.repository st cmd now stamp =
        (.ok (), cmd.completeExecution r stamp, ⟨store', db', st.manager⟩) ∧
      AdService.Rewrote st.manager (fun a => a.createdAt < now - m * 60000000000) p st.store
        st.queue n store' db' := by
  obtain ⟨n, store', db', hres, hrew⟩ := AdService.changePriorityOf_memory st.manager st.store
    st.queue (fun a => a.createdAt < now - m * 60000000000) "failed to find old ads: "
    (Command.getPriorityParameter_eq_some.mp hp).2
  have hold : AdService.changePriorityForOlderAds MemoryAdRepository.repository st.manager st.store
      st.queue now (minutesDuration m) p = (.ok n, store', db') := by
    rw [AdService.changePriorityForOlderAds, olderThan_threshold h0 h1]
    exact hres
  exact ⟨_, n, store', db',
    by simp only [executePriorityChangeByAge, hp, hm, Option.getD_some, hold]; rfl, hrew⟩

end MockCommandExecutor

end AdQueue
