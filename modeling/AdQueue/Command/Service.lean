import AdQueue.Command.Executor
import AdQueue.Command.Parser

/-!
# The command service

`CommandService.ExecuteCommand` parses the text, saves the command, validates it, checks
that the executor supports its intent, starts it, saves it, executes it, and saves it
again; a refused validation or intent marks the command invalid and saves it.  When the
executor returns an error the service fails the command a second time, at its own clock.
`MemoryCommandRepository` is the store: a Go map from the string of an identifier to the
command, as a list of pairs with one pair per key.

Go's store keeps a pointer to the command, so a later change shows through the stored
entry before the next `Save`.  Every change the service makes is followed by a `Save`, and
nothing reads the store in between here, so the model stores a copy at each `Save`;
`Execution.saved` lists the copies, in order.

`executeParsed_cases` says everything one execution of a parsed command can save and
answer: the command then its invalid copy; or the command, its started copy, and the
started copy completed or failed.  `executeCommand_lifecycle` reads the status lifecycle
off it for every text either parser turns into a command.

`GetCommandStatus` looks up the zero `CommandID{}` whatever identifier it is given (the
source notes that the parse of the identifier is still to be written).  No command the
service saves has the empty identifier, since its identifier is the string of a
`uuid.New()`, so every lookup fails (`getCommandStatus_never_finds`), over every run of
requests (`executeAll`).
-/

namespace AdQueue

/-- `persistence.MemoryCommandRepository`: the stored commands by the string of their
identifier, one per identifier. -/
structure MemoryCommandRepository where
  commands : List (String × Command)
  nodup : (commands.map Prod.fst).Nodup

namespace MemoryCommandRepository

/-- `NewMemoryCommandRepository`. -/
def empty : MemoryCommandRepository := ⟨[], List.nodup_nil⟩

/-- `Save`: the command goes in under its identifier, over whatever was stored there; it
returns nil. -/
def save (r : MemoryCommandRepository) (cmd : Command) :
    Except String Unit × MemoryCommandRepository :=
  (.ok (), ⟨(cmd.id.value, cmd) :: r.commands.filter fun p => p.1 ≠ cmd.id.value, by
    rw [List.map_cons, List.nodup_cons]
    refine ⟨fun h => ?_, (r.nodup.sublist ((List.filter_sublist _).map _))⟩
    obtain ⟨p, hp, hk⟩ := List.mem_map.mp h
    exact absurd hk (by simpa using (List.mem_filter.mp hp).2)⟩)

/-- `FindByID`. -/
def findByID (r : MemoryCommandRepository) (id : CommandID) : Except String Command :=
  match r.commands.lookup id.value with
  | some cmd => .ok cmd
  | none => .error errCommandNotFound

theorem findByID_save_self (r : MemoryCommandRepository) (cmd : Command) {id : CommandID}
    (h : cmd.id = id) : (r.save cmd).2.findByID id = .ok cmd := by
  subst h
  simp [save, findByID, List.lookup]

theorem lookup_filter_ne {k k' : String} (h : k ≠ k') :
    ∀ l : List (String × Command), (l.filter fun p => p.1 ≠ k').lookup k = l.lookup k
  | [] => rfl
  | (a, c) :: l => by
    have ih := lookup_filter_ne h l
    by_cases ha : a = k'
    · subst ha
      simp only [List.filter_cons, ne_eq, not_true_eq_false, decide_False, Bool.false_eq_true,
        if_false, ih, List.lookup, beq_false_of_ne h]
    · simp only [List.filter_cons, ne_eq, ha, not_false_eq_true, decide_True, if_true, List.lookup]
      split <;> simp_all

theorem findByID_save_other (r : MemoryCommandRepository) (cmd : Command) {id : CommandID}
    (h : id.value ≠ cmd.id.value) : (r.save cmd).2.findByID id = r.findByID id := by
  unfold findByID save
  simp only [List.lookup, beq_false_of_ne h]
  rw [lookup_filter_ne h]

end MemoryCommandRepository

/-- `ExecuteCommandResponse`.  `executionTime` is `none` where Go sends the empty text and
the duration where it sends its `String()`, which is never empty. -/
structure ExecuteCommandResponse where
  commandID : String
  status : String
  result : Option CommandResult
  error : String
  executionTime : Option Int
deriving DecidableEq, Repr

/-- What one `ExecuteCommand` leaves: the response, the command as each `Save` stored it,
the command store, and the ad state. -/
structure Execution (R : Type) where
  response : ExecuteCommandResponse
  saved : List Command
  commands : MemoryCommandRepository
  state : AdState R

namespace CommandService

open MockCommandExecutor

variable {R : Type}

/-- `ExecuteCommand` past the parse: the service calls read the clock at `now`, the
executor ends the command at `stamp`, and the service fails it at `failNow`. -/
def executeParsed (parser : CommandParser) (repo : AdRepository R)
    (commands : MemoryCommandRepository) (st : AdState R) (cmd : Command) (now stamp failNow : Int) :
    Execution R :=
  let commands₁ := (commands.save cmd).2
  match parser.validateCommand cmd with
  | .error e =>
    let invalid := cmd.markInvalid e
    ⟨⟨invalid.id.value, invalid.status.value, none, e, none⟩, [cmd, invalid],
      (commands₁.save invalid).2, st⟩
  | .ok () =>
    if !canExecute cmd then
      let invalid := cmd.markInvalid "Command cannot be executed"
      ⟨⟨invalid.id.value, invalid.status.value, none, "Command cannot be executed", none⟩,
        [cmd, invalid], (commands₁.save invalid).2, st⟩
    else
      let running := cmd.startExecution
      let commands₂ := (commands₁.save running).2
      match execute repo st running now stamp with
      | (.error e, ran, st') =>
        let failed := ran.failExecution e failNow
        ⟨⟨failed.id.value, failed.status.value, none, e, failed.executionTime⟩,
          [cmd, running, failed], (commands₂.save failed).2, st'⟩
      | (.ok (), ran, st') =>
        ⟨⟨ran.id.value, ran.status.value, ran.result, "", ran.executionTime⟩,
          [cmd, running, ran], (commands₂.save ran).2, st'⟩

/-- `ExecuteCommand`, with the fresh identifier and the clock of `NewCommand` as inputs. -/
def executeCommand (parser : CommandParser) (repo : AdRepository R)
    (commands : MemoryCommandRepository) (st : AdState R) (text : String) (id : CommandID)
    (created now stamp failNow : Int) : Execution R :=
  match parser.parse text id created with
  | .error e =>
    ⟨⟨"", CommandStatus.invalid.value, none, "Failed to parse command: " ++ e, none⟩, [], commands, st⟩
  | .ok cmd => executeParsed parser repo commands st cmd now stamp failNow

/-- `GetCommandStatus`: the lookup is of `CommandID{}`, whatever the argument. -/
def getCommandStatus (commands : MemoryCommandRepository) (_commandID : String) :
    Except String ExecuteCommandResponse :=
  match commands.findByID ⟨""⟩ with
  | .error e => .error ("command not found: " ++ e)
  | .ok cmd =>
    .ok ⟨cmd.id.value, cmd.status.value, cmd.result, if cmd.error ≠ "" then cmd.error else "",
      cmd.executionTime⟩

/-- One request to `ExecuteCommand`: the parser with the answer it gets, the text, the
fresh identifier, and the clock readings. -/
structure Request where
  parser : CommandParser
  text : String
  id : CommandID
  created : Int
  now : Int
  stamp : Int
  failNow : Int

/-- A run of requests, one after another, from a command store and an ad state. -/
def executeAll (repo : AdRepository R) :
    List Request → MemoryCommandRepository → AdState R → MemoryCommandRepository × AdState R
  | [], commands, st => (commands, st)
  | q :: qs, commands, st =>
    let run := executeCommand q.parser repo commands st q.text q.id q.created q.now q.stamp q.failNow
    executeAll repo qs run.commands run.state

/-! ## One execution -/

/-- Everything one execution of a parsed command saves and answers. -/
theorem executeParsed_cases (parser : CommandParser) (repo : AdRepository R)
    (commands : MemoryCommandRepository) (st : AdState R) (cmd : Command) (now stamp failNow : Int) :
    let run := executeParsed parser repo commands st cmd now stamp failNow
    (∃ e, run.saved = [cmd, cmd.markInvalid e] ∧
      run.commands = (((commands.save cmd).2.save (cmd.markInvalid e))).2 ∧
      run.response = ⟨cmd.id.value, CommandStatus.invalid.value, none, e, none⟩ ∧ run.state = st) ∨
    (∃ r st', run.saved = [cmd, cmd.startExecution, cmd.startExecution.completeExecution r stamp] ∧
      run.commands = ((((commands.save cmd).2.save cmd.startExecution).2.save
        (cmd.startExecution.completeExecution r stamp))).2 ∧
      run.response = ⟨cmd.id.value, CommandStatus.executed.value, some r, "",
        some (timeSub stamp cmd.createdAt)⟩ ∧ run.state = st') ∨
    (∃ e st', run.saved = [cmd, cmd.startExecution,
        (cmd.startExecution.failExecution e stamp).failExecution e failNow] ∧
      run.commands = ((((commands.save cmd).2.save cmd.startExecution).2.save
        ((cmd.startExecution.failExecution e stamp).failExecution e failNow))).2 ∧
      run.response = ⟨cmd.id.value, CommandStatus.failed.value, none, e,
        some (timeSub failNow cmd.createdAt)⟩ ∧ run.state = st') := by
  dsimp only [executeParsed]
  cases hv : parser.validateCommand cmd with
  | error e => exact .inl ⟨e, rfl, rfl, rfl, rfl⟩
  | ok u =>
    by_cases hc : canExecute cmd = true
    · rw [if_neg (by simp [hc])]
      rcases execute_cases repo st cmd.startExecution now stamp with ⟨r, st', h⟩ | ⟨e, st', h⟩
      · rw [h]; exact .inr (.inl ⟨r, st', rfl, rfl, rfl, rfl⟩)
      · rw [h]; exact .inr (.inr ⟨e, st', rfl, rfl, rfl, rfl⟩)
    · rw [if_pos (by simpa using hc)]
      exact .inl ⟨_, rfl, rfl, rfl, rfl⟩

/-! ## The lifecycle of a command -/

/-- For every text either parser turns into a command, and every state: the saved copies
of the command go pending, invalid; or pending, executing, executed; or pending,
executing, failed.  The store ends with the last copy under the command's identifier, the
response carries its status, and its execution stamp and time, and the response's time, are
set exactly when it was executed or failed. -/
theorem executeCommand_lifecycle (parser : CommandParser) (repo : AdRepository R)
    (commands : MemoryCommandRepository) (st : AdState R) (text : String) (id : CommandID)
    (created now stamp failNow : Int) {cmd : Command}
    (hparse : parser.parse text id created = .ok cmd) :
    let run := executeCommand parser repo commands st text id created now stamp failNow
    ∃ final, run.saved.getLast? = some final ∧
      (run.saved.map Command.status = [.pending, .invalid] ∨
        run.saved.map Command.status = [.pending, .executing, .executed] ∨
        run.saved.map Command.status = [.pending, .executing, .failed]) ∧
      run.commands.findByID id = .ok final ∧
      run.response.status = final.status.value ∧
      (final.executedAt ≠ none ↔ final.status = .executed ∨ final.status = .failed) ∧
      (final.executionTime ≠ none ↔ final.status = .executed ∨ final.status = .failed) ∧
      (run.response.executionTime ≠ none ↔ final.status = .executed ∨ final.status = .failed) := by
  obtain ⟨text', ty, intent, params, rfl⟩ := CommandParser.parse_eq_new hparse
  intro run
  have hrun : run = executeParsed parser repo commands st
      (Command.new text' ty intent params id created) now stamp failNow := by
    simp only [run, executeCommand, hparse]
  rw [hrun]
  rcases executeParsed_cases parser repo commands st (Command.new text' ty intent params id created)
      now stamp failNow with ⟨e, hs, hc, hr, -⟩ | ⟨r, st', hs, hc, hr, -⟩ | ⟨e, st', hs, hc, hr, -⟩
  all_goals
    rw [hs, hc, hr]
    refine ⟨_, rfl, by simp, MemoryCommandRepository.findByID_save_self _ _ rfl, rfl, ?_⟩
    simp [CommandStatus.invalid, CommandStatus.executed, CommandStatus.failed]

/-- `Enable starvation mode` on the empty stores: pending, executing, executed. -/
theorem executeCommand_lifecycle_at_sample :
    let st : AdState MemoryAdRepository :=
      ⟨⟨[], List.nodup_nil⟩, Shards.empty, ⟨⟨true, 300000000000, 2, 10, 60000000000⟩, 2⟩⟩
    let id : CommandID := ⟨"123e4567-e89b-12d3-a456-426614174000"⟩
    let run := executeCommand .mock MemoryAdRepository.repository MemoryCommandRepository.empty st
      "Enable starvation mode" id 0 1000000000 1000000000 1000000000
    ∃ final, run.saved.getLast? = some final ∧
      (run.saved.map Command.status = [.pending, .invalid] ∨
        run.saved.map Command.status = [.pending, .executing, .executed] ∨
        run.saved.map Command.status = [.pending, .executing, .failed]) ∧
      run.commands.findByID id = .ok final ∧
      run.response.status = final.status.value ∧
      (final.executedAt ≠ none ↔ final.status = .executed ∨ final.status = .failed) ∧
      (final.executionTime ≠ none ↔ final.status = .executed ∨ final.status = .failed) ∧
      (run.response.executionTime ≠ none ↔ final.status = .executed ∨ final.status = .failed) := by
  intro st id run
  have hparse : CommandParser.mock.parse "Enable starvation mode" id 0 = .ok (Command.new
      "enable starvation mode" .systemConfiguration "enable_starvation_mode" [] id 0) := by
    set_option maxRecDepth 20000 in rfl
  exact executeCommand_lifecycle _ MemoryAdRepository.repository MemoryCommandRepository.empty st _ id
    0 1000000000 1000000000 1000000000 hparse

/-! ## The store after a run -/

/-- One execution of a parsed command answers with its identifier and stores, under it
and nowhere else, a copy whose status the response carries. -/
theorem executeParsed_stores (parser : CommandParser) (repo : AdRepository R)
    (commands : MemoryCommandRepository) (st : AdState R) (cmd : Command) (now stamp failNow : Int) :
    let run := executeParsed parser repo commands st cmd now stamp failNow
    run.response.commandID = cmd.id.value ∧
      (∃ c, run.commands.findByID cmd.id = .ok c ∧ c.status.value = run.response.status) ∧
      ∀ id : CommandID, id.value ≠ cmd.id.value → run.commands.findByID id = commands.findByID id := by
  dsimp only
  rcases executeParsed_cases parser repo commands st cmd now stamp failNow with
    ⟨e, -, hc, hr, -⟩ | ⟨r, st', -, hc, hr, -⟩ | ⟨e, st', -, hc, hr, -⟩
  all_goals
    rw [hc, hr]
    refine ⟨rfl, ⟨_, MemoryCommandRepository.findByID_save_self _ _ (by simp), rfl⟩,
      fun id h => ?_⟩
    simp (disch := simpa using h) only [MemoryCommandRepository.findByID_save_other]

/-- No command is stored under the empty identifier, the one `GetCommandStatus` looks up. -/
def NoZeroID (commands : MemoryCommandRepository) : Prop :=
  commands.findByID ⟨""⟩ = .error errCommandNotFound

theorem ne_empty_of_uuidParses {s : String} (h : uuidParses s = true) : s ≠ "" := by
  rintro rfl
  exact absurd h (by decide)

/-- An execution whose fresh identifier is a UUID keeps the empty identifier unused. -/
theorem executeCommand_noZeroID (parser : CommandParser) (repo : AdRepository R)
    {commands : MemoryCommandRepository} (st : AdState R) (text : String) {id : CommandID}
    (created now stamp failNow : Int) (hid : uuidParses id.value = true) (h : NoZeroID commands) :
    NoZeroID (executeCommand parser repo commands st text id created now stamp failNow).commands := by
  unfold executeCommand
  cases hp : parser.parse text id created with
  | error e => exact h
  | ok cmd =>
    obtain ⟨text', ty, intent, params, rfl⟩ := CommandParser.parse_eq_new hp
    rw [NoZeroID, (executeParsed_stores parser repo commands st _ now stamp failNow).2.2 ⟨""⟩
      (ne_empty_of_uuidParses hid).symm]
    exact h

/-- A run of requests with UUID identifiers keeps the empty identifier unused. -/
theorem executeAll_noZeroID (repo : AdRepository R) :
    ∀ (reqs : List Request) {commands : MemoryCommandRepository} (st : AdState R),
      (∀ q ∈ reqs, uuidParses q.id.value = true) → NoZeroID commands →
      NoZeroID (executeAll repo reqs commands st).1
  | [], _, _, _, h => h
  | q :: qs, _, st, hids, h =>
    executeAll_noZeroID repo qs _ (fun q' hq' => hids q' (List.mem_cons_of_mem _ hq'))
      (executeCommand_noZeroID _ repo st _ _ _ _ _ (hids q (List.mem_cons_self _ _)) h)

/-- `GetCommandStatus` after every run of requests with UUID identifiers, from the empty
store: the command of the last request is stored under the identifier its response
carries, with the response's status, and `GetCommandStatus` fails for every argument,
that identifier included. -/
theorem getCommandStatus_never_finds (repo : AdRepository R) (reqs : List Request)
    (st : AdState R) (hids : ∀ q ∈ reqs, uuidParses q.id.value = true) (q : Request)
    (hq : uuidParses q.id.value = true) (cmd : Command)
    (hparse : q.parser.parse q.text q.id q.created = .ok cmd) :
    let before := executeAll repo reqs MemoryCommandRepository.empty st
    let run := executeCommand q.parser repo before.1 before.2 q.text q.id q.created q.now q.stamp
      q.failNow
    run.response.commandID = q.id.value ∧
      (∃ c, run.commands.findByID q.id = .ok c ∧ c.status.value = run.response.status) ∧
      ∀ s, getCommandStatus run.commands s = .error ("command not found: " ++ errCommandNotFound) := by
  intro before run
  have hnone : NoZeroID run.commands :=
    executeCommand_noZeroID _ repo _ _ _ _ _ _ hq (executeAll_noZeroID repo reqs st hids rfl)
  obtain ⟨text', ty, intent, params, rfl⟩ := CommandParser.parse_eq_new hparse
  have hrun : run = executeParsed q.parser repo before.1 before.2
      (Command.new text' ty intent params q.id q.created) q.now q.stamp q.failNow := by
    simp only [run, executeCommand, hparse]
  obtain ⟨hid, hstored, -⟩ := executeParsed_stores q.parser repo before.1 before.2
    (Command.new text' ty intent params q.id q.created) q.now q.stamp q.failNow
  refine ⟨hrun ▸ hid, hrun ▸ hstored, fun s => ?_⟩
  simp only [getCommandStatus, show run.commands.findByID ⟨""⟩ = .error errCommandNotFound from hnone]

theorem getCommandStatus_never_finds_at_sample :
    let repo := MemoryAdRepository.repository
    let st : AdState MemoryAdRepository :=
      ⟨⟨[], List.nodup_nil⟩, Shards.empty, ⟨⟨true, 300000000000, 2, 10, 60000000000⟩, 2⟩⟩
    let q : Request := ⟨.mock, "Enable starvation mode", ⟨"123e4567-e89b-12d3-a456-426614174000"⟩,
      0, 1000000000, 1000000000, 1000000000⟩
    let run := executeCommand q.parser repo MemoryCommandRepository.empty st q.text q.id q.created
      q.now q.stamp q.failNow
    uuidParses q.id.value = true ∧
      getCommandStatus run.commands run.response.commandID =
        .error ("command not found: " ++ errCommandNotFound) := by
  intro repo st q run
  have hq : uuidParses q.id.value = true := by decide
  have hparse : q.parser.parse q.text q.id q.created = .ok (Command.new "enable starvation mode"
      .systemConfiguration "enable_starvation_mode" [] q.id q.created) := by
    set_option maxRecDepth 20000 in rfl
  exact ⟨hq, (getCommandStatus_never_finds repo [] st (fun _ h => absurd h (List.not_mem_nil _)) q
    hq _ hparse).2.2 _⟩

/-! ## The configuration commands -/

/-- For every text the mock parser maps to `enable_starvation_mode`, or to
`set_max_wait_time`, and every state: the command is executed, and the ad store, the queue
and the queue manager with its configuration are as they were. -/
theorem executeCommand_configuration_unchanged (repo : AdRepository R)
    (commands : MemoryCommandRepository) (st : AdState R) (text : String) (id : CommandID)
    (created now stamp failNow : Int) {cmd : Command}
    (hparse : MockCommandParser.parse text id created = .ok cmd)
    (hintent : cmd.intent = "enable_starvation_mode" ∨ cmd.intent = "set_max_wait_time") :
    let run := executeCommand .mock repo commands st text id created now stamp failNow
    run.response.status = CommandStatus.executed.value ∧ run.state = st := by
  intro run
  have hcan : canExecute cmd = true := by
    rcases hintent with h | h <;> simp [canExecute, supportedIntents, h]
  obtain ⟨r, hexec⟩ := execute_configuration repo st cmd.startExecution now stamp hintent
  have hrun : run = executeParsed .mock repo commands st cmd now stamp failNow := by
    simp only [run, executeCommand, CommandParser.parse, hparse]
  rw [hrun, executeParsed]
  simp only [CommandParser.validateCommand, MockCommandParser.parse_validates hparse]
  rw [if_neg (by simp [hcan]), hexec]
  exact ⟨rfl, rfl⟩

theorem executeCommand_configuration_unchanged_at_sample :
    let st : AdState MemoryAdRepository :=
      ⟨⟨[], List.nodup_nil⟩, Shards.empty, ⟨⟨true, 300000000000, 2, 10, 60000000000⟩, 2⟩⟩
    let id : CommandID := ⟨"123e4567-e89b-12d3-a456-426614174000"⟩
    let run := executeCommand .mock MemoryAdRepository.repository MemoryCommandRepository.empty st
      "Enable starvation mode" id 0 1000000000 1000000000 1000000000
    run.response.status = CommandStatus.executed.value ∧
      run.state.manager.config.antiStarvationEnabled = true := by
  intro st id run
  have hparse : MockCommandParser.parse "Enable starvation mode" id 0 = .ok (Command.new
      "enable starvation mode" .systemConfiguration "enable_starvation_mode" [] id 0) := by
    set_option maxRecDepth 20000 in rfl
  obtain ⟨hstatus, hstate⟩ := executeCommand_configuration_unchanged MemoryAdRepository.repository
    MemoryCommandRepository.empty st _ id 0 1000000000 1000000000 1000000000 hparse (.inl rfl)
  exact ⟨hstatus, hstate ▸ rfl⟩

/-! ## What validation lets through -/

/-- Against the ranges the commands are meant to have, `ValidateCommand` accepts every
`minutes` and every `seconds`, and a float priority in `[1, 6)` or a float count in
`[1, 2^63)` whose fraction `int(f)` drops; and a validated `change_priority_by_age` with
negative minutes rewrites the queued ads created up to that many minutes after the
executor's clock. -/
theorem validateCommand_skips_ranges (text : String) (ty : CommandType) (id : CommandID)
    (created : Int) :
    (∀ p m : Int, 1 ≤ p → p ≤ 5 → MockCommandParser.validateCommand (Command.new text ty
      "change_priority_by_age" [("priority", .int p), ("minutes", .int m)] id created) = .ok ()) ∧
    (∀ m : Int, MockCommandParser.validateCommand
      (Command.new text ty "waiting_ads" [("minutes", .int m)] id created) = .ok ()) ∧
    (∀ s : Int, MockCommandParser.validateCommand
      (Command.new text ty "set_max_wait_time" [("seconds", .int s)] id created) = .ok ()) ∧
    (∀ (f : ℚ) (g : String), 1 ≤ f → f < 6 →
      MockCommandParser.validateCommand (Command.new text ty "change_priority_by_game_family"
        [("priority", .float f), ("gameFamily", .str g)] id created) = .ok ()) ∧
    (∀ f : ℚ, 1 ≤ f → f < 2 ^ 63 → MockCommandParser.validateCommand
      (Command.new text ty "show_next_ads" [("count", .float f)] id created) = .ok ()) ∧
    ∀ (qm : RedisQueueManager) (store : MemoryAdRepository) (db : Shards) (now stamp p m : Int),
      1 ≤ p → p ≤ 5 → m < 0 → -m * 60000000000 < 2 ^ 63 →
      let cmd := (Command.new text ty "change_priority_by_age"
        [("priority", .int p), ("minutes", .int m)] id created).startExecution
      ∃ r n store' db', execute MemoryAdRepository.repository ⟨store, db, qm⟩ cmd now stamp =
          (.ok (), cmd.completeExecution r stamp, ⟨store', db', qm⟩) ∧
        AdService.Rewrote qm (fun a => a.createdAt < now - m * 60000000000) p store db n store' db' := by
  refine ⟨fun p m h1 h5 => ?_, fun m => rfl, fun s => rfl, fun f g h1 h6 => ?_, fun f h1 h63 => ?_,
    fun qm store db now stamp p m h1 h5 hm hrange => ?_⟩
  · simp [MockCommandParser.validateCommand, Command.getPriorityParameter,
      Command.getIntParameter, List.lookup, h1, h5]
  · have hlo : 1 ≤ ⌊f⌋ := Int.le_floor.mpr (by exact_mod_cast h1)
    have hhi : ⌊f⌋ ≤ 5 := Int.lt_add_one_iff.mp (Int.floor_lt.mpr (by push_cast; linarith))
    simp [MockCommandParser.validateCommand, Command.getPriorityParameter,
      Command.getIntParameter, Command.getStringParameter, List.lookup,
      Binary64.toInt_of_nonneg (by linarith) (by linarith), hlo, hhi]
  · have hpos : 0 < ⌊f⌋ := Int.floor_pos.mpr h1
    simp [MockCommandParser.validateCommand, Command.getIntParameter, List.lookup,
      Binary64.toInt_of_nonneg (by linarith) h63, not_le.mpr hpos]
  · intro cmd
    have hexec : execute MemoryAdRepository.repository ⟨store, db, qm⟩ cmd now stamp =
        executePriorityChangeByAge MemoryAdRepository.repository ⟨store, db, qm⟩ cmd now stamp := by
      simp only [execute, cmd, Command.new, Command.startExecution]
    rw [hexec]
    exact executePriorityChangeByAge_memory ⟨store, db, qm⟩ cmd now stamp
      (by simp [cmd, Command.getPriorityParameter, Command.getIntParameter, List.lookup, h1, h5])
      (by simp [cmd, Command.getIntParameter, List.lookup])
      (by omega) (by omega)

end CommandService

end AdQueue
