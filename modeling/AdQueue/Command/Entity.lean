import AdQueue.Queue.Binary64
import AdQueue.Text.Strings

/-!
# The command aggregate

`internal/domain/command`: the type, status and identifier of a command, the command
itself, its four business methods, and the typed reads of its parameters.

`CommandType` and `CommandStatus` are named strings in Go and stay wrapped strings, as
`AdStatus` does.  A parameter map is `map[string]interface{}`: the mock parser puts Go
`int`s in it, and one decoded from the JSON of the remote parser holds `float64`s, strings
and other values.  `Value` has one constructor for each kind a read tells apart, and
`Params` is the map as a list of pairs read by its first binding.  A `float64` is its exact
rational value, and `int(f)` truncates toward zero (`Binary64.toInt`).

The result of a command is the `map[string]interface{}` its executor method builds;
`CommandResult` has one constructor per method, with the keys of that map as fields.  The
messages are `fmt.Sprintf` texts over `formatInt`.  A waiting ad's `waitTime` is the
duration `WaitTime()` returns; Go sends its `String()`, which is not modelled.

`CompleteExecution` and `FailExecution` read the clock; the reading is their argument.  No
method looks at the status it leaves: what keeps a command on its lifecycle is the order in
which `CommandService.ExecuteCommand` calls them, and `Command.Service` proves it.
-/

namespace AdQueue

/-- `command.CommandType`, a named string. -/
structure CommandType where
  /-- The string Go stores. -/
  value : String
deriving DecidableEq, Repr

namespace CommandType

/-- `CommandTypeQueueModification`. -/
def queueModification : CommandType := ⟨"queue_modification"⟩
/-- `CommandTypeSystemConfiguration`. -/
def systemConfiguration : CommandType := ⟨"system_configuration"⟩
/-- `CommandTypeStatusQuery`. -/
def statusQuery : CommandType := ⟨"status_query"⟩
/-- `CommandTypeAnalytics`. -/
def analytics : CommandType := ⟨"analytics"⟩

end CommandType

/-- `command.CommandStatus`, a named string. -/
structure CommandStatus where
  /-- The string Go stores. -/
  value : String
deriving DecidableEq, Repr

namespace CommandStatus

/-- `CommandStatusPending`. -/
def pending : CommandStatus := ⟨"pending"⟩
/-- `CommandStatusExecuting`. -/
def executing : CommandStatus := ⟨"executing"⟩
/-- `CommandStatusExecuted`. -/
def executed : CommandStatus := ⟨"executed"⟩
/-- `CommandStatusFailed`. -/
def failed : CommandStatus := ⟨"failed"⟩
/-- `CommandStatusInvalid`. -/
def invalid : CommandStatus := ⟨"invalid"⟩

end CommandStatus

/-- `command.CommandID`: the string of a `uuid.New()`. -/
structure CommandID where
  /-- `CommandID.String()`. -/
  value : String
deriving DecidableEq, Repr

/-- `command.ErrCommandNotFound`. -/
def errCommandNotFound : String := "command not found"

/-- A value of a parameter map, by what the typed reads tell apart. -/
inductive Value where
  /-- A Go `int`. -/
  | int (n : Int)
  /-- A `float64`, as JSON numbers decode. -/
  | float (f : ℚ)
  /-- A `string`. -/
  | str (s : String)
  /-- Any other value: a `bool`, `nil`, a slice or a map. -/
  | other
deriving DecidableEq, Repr

/-- `map[string]interface{}`, read by the first binding of a key. -/
abbrev Params := List (String × Value)

/-- One entry of `nextAds` in the result of `show_next_ads`. -/
structure NextAd where
  adId : String
  priority : Int
  position : Nat
deriving DecidableEq, Repr

/-- One entry of `waitingAds` in the result of `waiting_ads`. -/
structure WaitingAd where
  adId : String
  title : String
  gameFamily : String
  priority : Int
  waitTime : Int
  status : String
deriving DecidableEq, Repr

/-- The result map of each executor method, with its keys as fields. -/
inductive CommandResult where
  | priorityChangeByGameFamily (adsModified : Nat) (gameFamily : String) (newPriority : Int)
      (message : String)
  | priorityChangeByAge (adsModified : Nat) (newPriority : Int) (olderThan : String)
      (message : String)
  | showNextAds (nextAds : List NextAd) (count : Nat) (message : String)
  | queueDistribution (distribution : List (String × Nat)) (total : Nat) (message : String)
  | waitingAds (waitingAds : List WaitingAd) (count : Nat) (waitTimeMin : Int) (message : String)
  | enableStarvationMode (starvationMode message warning : String)
  | setMaxWaitTime (maxWaitTimeSeconds : Int) (maxWaitTime message : String)
deriving DecidableEq, Repr

/-- `command.Command`. -/
structure Command where
  id : CommandID
  originalText : String
  commandType : CommandType
  intent : String
  parameters : Params
  status : CommandStatus
  /-- `nil` is `none`. -/
  result : Option CommandResult
  error : String
  createdAt : Int
  executedAt : Option Int
  executionTime : Option Int
deriving DecidableEq, Repr

namespace Command

/-- `NewCommand`, with the fresh identifier and the clock as inputs. -/
def new (originalText : String) (commandType : CommandType) (intent : String)
    (parameters : Params) (id : CommandID) (now : Int) : Command :=
  { id, originalText, commandType, intent, parameters, status := .pending, result := none,
    error := "", createdAt := now, executedAt := none, executionTime := none }

/-! ## Business methods -/

/-- `StartExecution`. -/
def startExecution (c : Command) : Command := { c with status := .executing }

/-- `CompleteExecution` at clock `now`. -/
def completeExecution (c : Command) (result : CommandResult) (now : Int) : Command :=
  { c with status := .executed, result := some result, executedAt := some now,
           executionTime := some (timeSub now c.createdAt) }

/-- `FailExecution` at clock `now`. -/
def failExecution (c : Command) (errorMsg : String) (now : Int) : Command :=
  { c with status := .failed, error := errorMsg, executedAt := some now,
           executionTime := some (timeSub now c.createdAt) }

/-- `MarkInvalid`. -/
def markInvalid (c : Command) (reason : String) : Command :=
  { c with status := .invalid, error := reason }

/-! ## Typed reads of the parameters -/

/-- `GetStringParameter`. -/
def getStringParameter (c : Command) (key : String) : Option String :=
  match c.parameters.lookup key with
  | some (.str s) => some s
  | _ => none

/-- `GetIntParameter`: an `int`, or a `float64` truncated by `int(f)`. -/
def getIntParameter (c : Command) (key : String) : Option Int :=
  match c.parameters.lookup key with
  | some (.int i) => some i
  | some (.float f) => some (Binary64.toInt f)
  | _ => none

/-- `GetPriorityParameter`: an integer read that is a valid priority. -/
def getPriorityParameter (c : Command) (key : String) : Option Int :=
  match c.getIntParameter key with
  | some i => if Priority.isValid i then some i else none
  | none => none

theorem getPriorityParameter_eq_some {c : Command} {key : String} {p : Int} :
    c.getPriorityParameter key = some p ↔ c.getIntParameter key = some p ∧ 1 ≤ p ∧ p ≤ 5 := by
  cases h : c.getIntParameter key with
  | none => simp [getPriorityParameter, h]
  | some i =>
    simp only [getPriorityParameter, h, Option.some.injEq]
    split_ifs with hv <;> rw [Priority.isValid_iff] at hv
    · simp only [Option.some.injEq]
      exact ⟨fun e => ⟨e, e ▸ hv⟩, fun e => e.1⟩
    · simp only [reduceCtorEq, false_iff, not_and]
      rintro rfl h1 h2
      exact hv ⟨h1, h2⟩

/-! ## What each method leaves -/

@[simp] theorem new_status (originalText : String) (commandType : CommandType) (intent : String)
    (parameters : Params) (id : CommandID) (now : Int) :
    (new originalText commandType intent parameters id now).status = .pending := rfl

@[simp] theorem startExecution_id (c : Command) : c.startExecution.id = c.id := rfl
@[simp] theorem completeExecution_id (c : Command) (r : CommandResult) (now : Int) :
    (c.completeExecution r now).id = c.id := rfl
@[simp] theorem failExecution_id (c : Command) (e : String) (now : Int) :
    (c.failExecution e now).id = c.id := rfl
@[simp] theorem markInvalid_id (c : Command) (e : String) : (c.markInvalid e).id = c.id := rfl

section Fields

variable (originalText : String) (commandType : CommandType) (intent : String)
  (parameters : Params) (id : CommandID) (created : Int) (c : Command) (r : CommandResult)
  (e : String) (now : Int)

@[simp] theorem new_intent :
    (new originalText commandType intent parameters id created).intent = intent := rfl
@[simp] theorem new_parameters :
    (new originalText commandType intent parameters id created).parameters = parameters := rfl
@[simp] theorem new_executedAt :
    (new originalText commandType intent parameters id created).executedAt = none := rfl
@[simp] theorem new_executionTime :
    (new originalText commandType intent parameters id created).executionTime = none := rfl

@[simp] theorem startExecution_status : c.startExecution.status = .executing := rfl
@[simp] theorem startExecution_intent : c.startExecution.intent = c.intent := rfl
@[simp] theorem startExecution_parameters : c.startExecution.parameters = c.parameters := rfl
@[simp] theorem startExecution_executedAt : c.startExecution.executedAt = c.executedAt := rfl
@[simp] theorem startExecution_executionTime :
    c.startExecution.executionTime = c.executionTime := rfl

@[simp] theorem completeExecution_status : (c.completeExecution r now).status = .executed := rfl
@[simp] theorem completeExecution_executedAt :
    (c.completeExecution r now).executedAt = some now := rfl
@[simp] theorem completeExecution_executionTime :
    (c.completeExecution r now).executionTime = some (timeSub now c.createdAt) := rfl

@[simp] theorem failExecution_status : (c.failExecution e now).status = .failed := rfl
@[simp] theorem failExecution_executedAt : (c.failExecution e now).executedAt = some now := rfl
@[simp] theorem failExecution_executionTime :
    (c.failExecution e now).executionTime = some (timeSub now c.createdAt) := rfl

@[simp] theorem markInvalid_status : (c.markInvalid e).status = .invalid := rfl
@[simp] theorem markInvalid_executedAt : (c.markInvalid e).executedAt = c.executedAt := rfl
@[simp] theorem markInvalid_executionTime :
    (c.markInvalid e).executionTime = c.executionTime := rfl

end Fields

end Command

end AdQueue
