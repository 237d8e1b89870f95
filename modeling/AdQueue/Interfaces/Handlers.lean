import AdQueue.Service.CreateAd
import AdQueue.Command.Recent

/-!
# The HTTP handlers

The handlers of `AdHandler` and the command handlers other than `GetRecentCommands`
(`Command.Recent`), with `AdService.GetAdStatus`, the one service method only a handler
calls.  Each handler reads the request, calls the service, and writes a status with the
service's answer or an `ErrorResponse`.

`ShouldBindJSON` decodes the body; its outcome, the decoded request or the decoder's error,
is an input.  Gin's binding checks `binding` tags, and the requests have none; the checks
are the `validate` tags, run by `validator.Struct` (`CreateAdBody.validationErrors`).  For
each field that fails, the validator reports the first tag it fails, and its error text
has one line per such field (`validationText`).

Two comparisons of the handlers never hold.  `GetAdStatus` answers 404 when the service's
error reads `ad not found`, and `GetCommandStatus` when it reads `command not found`; each
service wraps every error it returns (`invalid ad ID: `, `failed to find ad: `,
`command not found: `), so a missing ad or command gets 500 (`status_handlers_never_404`).
The `validate` tags of `CreateAdRequest` ask for at least what the factory checks, so a
request that passes them is one the factory accepts, and a 500 from `CreateAd` comes from
the save or the enqueue (`createAd_reply`).

`ExecuteCommand` of the service always returns a nil error, so the 500 branch of its
handler is not modelled: the service returns no error here.
-/

namespace AdQueue

/-- `handlers.ErrorResponse`.  No handler sets `Code`; `details` is empty where a handler
leaves `Details` out. -/
structure ErrorResponse where
  error : String
  details : String
deriving DecidableEq, Repr

/-- The body a handler writes: the service's answer, or an `ErrorResponse`. -/
inductive Reply (α : Type) where
  | body (value : α)
  | error (body : ErrorResponse)
deriving DecidableEq, Repr

/-! ## Validation -/

/-- The first tag of a field's `validate` list that fails; each tag comes with its
verdict. -/
def firstFailing (tags : List (String × Bool)) : Option String :=
  (tags.find? fun t => !t.2).map Prod.fst

/-- `validator.ValidationErrors.Error()` on the failing fields of a struct, each with its
failing tag: one line per field, in field order. -/
def validationText (struct : String) (errs : List (String × String)) : String :=
  "\n".intercalate (errs.map fun e =>
    "Key: \x27" ++ struct ++ "." ++ e.1 ++ "\x27 Error:Field validation for \x27" ++ e.1 ++
      "\x27 failed on the \x27" ++ e.2 ++ "\x27 tag")

theorem firstFailing_eq_none {tags : List (String × Bool)} :
    firstFailing tags = none ↔ ∀ t ∈ tags, t.2 = true := by
  simp [firstFailing, List.find?_eq_none]

/-- `CreateAdRequest` as `ShouldBindJSON` decodes it.  An absent or `null`
`targetAudience` decodes to a nil slice (`none`), which `required` tells apart from an
empty array. -/
structure CreateAdBody where
  title : String
  gameFamily : String
  targetAudience : Option (List String)
  priority : Option Int
  maxWaitTime : Option Int
deriving DecidableEq, Repr

namespace CreateAdBody

/-- The request the service receives: a nil slice has no element. -/
def toRequest (b : CreateAdBody) : CreateAdRequest :=
  ⟨b.title, b.gameFamily, b.targetAudience.getD [], b.priority, b.maxWaitTime⟩

/-- The tags of `CreateAdRequest`, field by field: `required`; `required,min=1`;
`omitempty,min=1,max=5` on a pointer, skipped when nil; `omitempty,min=1`. -/
def fieldErrors (b : CreateAdBody) : List (String × Option String) :=
  [("Title", firstFailing [("required", b.title != "")]),
   ("GameFamily", firstFailing [("required", b.gameFamily != "")]),
   ("TargetAudience", match b.targetAudience with
      | none => some "required"
      | some l => firstFailing [("min", decide (1 ≤ l.length))]),
   ("Priority", match b.priority with
      | none => none
      | some p => firstFailing [("min", decide (1 ≤ p)), ("max", decide (p ≤ 5))]),
   ("MaxWaitTime", match b.maxWaitTime with
      | none => none
      | some s => firstFailing [("min", decide (1 ≤ s))])]

/-- The fields `validator.Struct` reports, with their failing tags. -/
def validationErrors (b : CreateAdBody) : List (String × String) :=
  b.fieldErrors.filterMap fun f => f.2.map (f.1, ·)

/-- A body that passes its tags has a title, a game family, a non-empty audience, a
priority in `1 .. 5` if any, and a positive maximum wait if any. -/
theorem of_validationErrors_eq_nil {b : CreateAdBody} (h : b.validationErrors = []) :
    b.title ≠ "" ∧ b.gameFamily ≠ "" ∧ (∃ l, b.targetAudience = some l ∧ l ≠ []) ∧
      (∀ p, b.priority = some p → 1 ≤ p ∧ p ≤ 5) ∧ (∀ s, b.maxWaitTime = some s → 1 ≤ s) := by
  simp only [validationErrors, List.filterMap_eq_nil_iff, Option.map_eq_none', fieldErrors,
    List.forall_mem_cons, List.not_mem_nil, false_implies, implies_true, and_true,
    firstFailing_eq_none, bne_iff_ne, ne_eq, decide_eq_true_eq] at h
  obtain ⟨ht, hg, ha, hp, hw⟩ := h
  refine ⟨ht, hg, ?_, fun p hp' => ?_, fun s hs => ?_⟩
  · cases hta : b.targetAudience with
    | none => simp [hta] at ha
    | some l =>
      simp only [hta, firstFailing_eq_none, List.forall_mem_cons, List.not_mem_nil,
        false_implies, implies_true, and_true, decide_eq_true_eq] at ha
      exact ⟨l, rfl, List.ne_nil_of_length_pos ha⟩
  · simpa [hp', firstFailing_eq_none] using hp
  · simpa [hs, firstFailing_eq_none] using hw

end CreateAdBody

/-- A request that passes the tags of `CreateAdRequest` is one the factory accepts: a
queued ad under the fresh identifier, with the request's priority, `PriorityNormal` by
default. -/
theorem factory_accepts_validated {b : CreateAdBody} (h : b.validationErrors = []) (id : AdID)
    (now : Int) :
    Factory.createAd id now b.toRequest.title b.toRequest.gameFamily b.toRequest.targetAudience
        b.toRequest.priorityOrDefault b.toRequest.maxWaitTimeOrDefault =
      .ok { id, title := b.title, gameFamily := b.gameFamily,
            targetAudience := b.targetAudience.getD [], priority := b.priority.getD Priority.normal,
            maxWaitTime := b.toRequest.maxWaitTimeOrDefault, status := .queued, createdAt := now,
            processingStartedAt := none, processedAt := none, queuePosition := none,
            version := 1 } := by
  obtain ⟨ht, hg, ⟨l, hl, hne⟩, hp, -⟩ := CreateAdBody.of_validationErrors_eq_nil h
  have hvalid : Priority.isValid (b.priority.getD Priority.normal) = true := by
    cases hb : b.priority with
    | none => rfl
    | some p => simpa using hp p hb
  simp only [Factory.createAd, CreateAdBody.toRequest, CreateAdRequest.priorityOrDefault, hl,
    Option.getD_some, if_neg ht, if_neg hg, List.length_eq_zero, if_neg hne, hvalid,
    Bool.not_true, Bool.false_eq_true, if_false]

/-! ## `AdHandler` -/

/-- `service.GetAdStatusResponse`.  `waitTime` is the duration whose `String()` the
service sends. -/
structure GetAdStatusResponse where
  adID : String
  title : String
  gameFamily : String
  status : String
  priority : Int
  position : Option Int
  waitTime : Int
  createdAt : Int
  processedAt : Option Int
deriving DecidableEq, Repr

namespace AdService

variable {R : Type}

/-- `AdService.GetAdStatus` at clock `now`, with the repository's `FindByID`; `uuidError`
is the text of the error `uuid.Parse` gives on the identifier. -/
def getAdStatus (findByID : R → AdID → Except String Ad) (qm : RedisQueueManager) (store : R)
    (db : Shards) (uuidError adID : String) (now : Int) : Except String GetAdStatusResponse :=
  match parseAdID adID with
  | none => .error ("invalid ad ID: " ++ uuidError)
  | some parsedID =>
    match findByID store parsedID with
    | .error e => .error ("failed to find ad: " ++ e)
    | .ok a =>
      let position := if a.status = .queued then
          (match qm.getPosition db parsedID with
            | .ok p => some p
            | .error _ => none)
        else none
      .ok ⟨a.id.value, a.title, a.gameFamily, a.status.value, a.priority, position,
        a.waitTime now, a.createdAt, a.processedAt⟩

end AdService

/-- The body of `GetQueueStats`: the distribution and its total. -/
structure QueueStats where
  distribution : List (Int × Nat)
  total : Nat
deriving DecidableEq, Repr

/-- The body of `GetNextAds`: the items and their count. -/
structure NextAds where
  nextAds : List QueueItem
  count : Int
deriving DecidableEq, Repr

namespace AdHandler

open Text

variable {R : Type}

/-- `AdHandler.CreateAd` on the outcome of `ShouldBindJSON`: the status, the body, and the
store and queue after.  The service takes what `AdService.createAd` takes. -/
def createAd (save : R → Ad → Except AdError Unit × R) (qm : RedisQueueManager) (store : R)
    (db : Shards) (id : AdID) (nowCreate nowEnqueue nowEstimate : Int)
    (zaddReply : Except String Unit) (body : Except String CreateAdBody) :
    Nat × Reply CreateAdResponse × R × Shards :=
  match body with
  | .error e => (400, .error ⟨"Invalid request format", e⟩, store, db)
  | .ok b =>
    if b.validationErrors ≠ [] then
      (400, .error ⟨"Validation failed", validationText "CreateAdRequest" b.validationErrors⟩,
        store, db)
    else
      match AdService.createAd save qm store db id nowCreate nowEnqueue nowEstimate zaddReply
          b.toRequest with
      | (.error e, store', db') => (500, .error ⟨"Failed to create ad", e⟩, store', db')
      | (.ok response, store', db') => (201, .body response, store', db')

/-- `AdHandler.GetAdStatus` on the path parameter `id`. -/
def getAdStatus (findByID : R → AdID → Except String Ad) (qm : RedisQueueManager) (store : R)
    (db : Shards) (uuidError adID : String) (now : Int) : Nat × Reply GetAdStatusResponse :=
  if adID = "" then (400, .error ⟨"Ad ID is required", ""⟩)
  else
    match AdService.getAdStatus findByID qm store db uuidError adID now with
    | .error e =>
      if e = "ad not found" then (404, .error ⟨"Ad not found", ""⟩)
      else (500, .error ⟨"Failed to get ad status", e⟩)
    | .ok response => (200, .body response)

/-- `AdHandler.GetQueueStats`: the distribution and the sum of its counts. -/
def getQueueStats (qm : RedisQueueManager) (db : Shards) : Nat × Reply QueueStats :=
  let distribution := AdService.getQueueDistribution qm db
  (200, .body ⟨distribution, (distribution.map Prod.snd).sum⟩)

/-- `AdHandler.GetNextAds` on the query value of `count`, if any, at clock `now`. -/
def getNextAds (qm : RedisQueueManager) (db : Shards) (countQuery : Option String) (now : Int) :
    Nat × Reply NextAds :=
  let count := atoi (countQuery.getD "5").data
  if !count.2 ∨ count.1 ≤ 0 ∨ 100 < count.1 then
    (400, .error ⟨"Count must be a positive integer between 1 and 100", ""⟩)
  else
    let nextAds := AdService.getNextAds qm db count.1 now
    (200, .body ⟨nextAds, nextAds.length⟩)

end AdHandler

/-! ## The command handlers -/

namespace CommandHandler

variable {R : Type}

/-- `CommandHandler.ExecuteCommand` on the outcome of `ShouldBindJSON` (the `command` text):
the status, the body, the command store and the ad state after.  The service takes what
`CommandService.executeCommand` takes. -/
def executeCommand (parser : CommandParser) (repo : AdRepository R)
    (commands : MemoryCommandRepository) (st : AdState R) (body : Except String String)
    (id : CommandID) (created now stamp failNow : Int) :
    Nat × Reply ExecuteCommandResponse × MemoryCommandRepository × AdState R :=
  match body with
  | .error e => (400, .error ⟨"Invalid request format", e⟩, commands, st)
  | .ok text =>
    if text = "" then
      (400, .error ⟨"Validation failed",
        validationText "ExecuteCommandRequest" [("Command", "required")]⟩, commands, st)
    else
      let run := CommandService.executeCommand parser repo commands st text id created now stamp
        failNow
      (200, .body run.response, run.commands, run.state)

/-- `CommandHandler.GetCommandStatus` on the path parameter `id`. -/
def getCommandStatus (commands : MemoryCommandRepository) (commandID : String) :
    Nat × Reply ExecuteCommandResponse :=
  if commandID = "" then (400, .error ⟨"Command ID is required", ""⟩)
  else
    match CommandService.getCommandStatus commands commandID with
    | .error e =>
      if e = errCommandNotFound then (404, .error ⟨"Command not found", ""⟩)
      else (500, .error ⟨"Failed to get command status", e⟩)
    | .ok response => (200, .body response)

end CommandHandler

/-! ## What the handlers answer -/

/-- A text longer than another is not it, whatever follows. -/
theorem append_ne_of_length_lt {s t : String} (u : String) (h : t.length < s.length) :
    s ++ u ≠ t := fun heq => by
  have := congrArg String.length heq
  rw [String.length_append] at this
  omega

section Status

variable {R : Type} (findByID : R → AdID → Except String Ad) (qm : RedisQueueManager)
  (store : R) (db : Shards) (uuidError : String) (now : Int)

/-- Every error of `GetAdStatus` carries a prefix, so none is the bare `ad not found`. -/
theorem getAdStatus_error_ne {adID e : String}
    (h : AdService.getAdStatus findByID qm store db uuidError adID now = .error e) :
    e ≠ "ad not found" := by
  unfold AdService.getAdStatus at h
  split at h
  · cases h
    exact append_ne_of_length_lt _ (by decide)
  · split at h
    · cases h
      exact append_ne_of_length_lt _ (by decide)
    · cases h

/-- Every error of `GetCommandStatus` carries a prefix, so none is the bare
`command not found`. -/
theorem getCommandStatus_error_ne {commands : MemoryCommandRepository} {commandID e : String}
    (h : CommandService.getCommandStatus commands commandID = .error e) : e ≠ errCommandNotFound := by
  unfold CommandService.getCommandStatus at h
  split at h
  · cases h
    exact append_ne_of_length_lt _ (by decide)
  · cases h

/-- `GET /ads/:id` and `GET /agent/command/:id` never answer 404.  Each service wraps the
not-found error before its handler compares it with the bare text, so an identifier that
parses but names no stored ad gets 500 with the wrapped error, and so does every lookup of
the command store that fails. -/
theorem status_handlers_never_404 (adID : String) (commands : MemoryCommandRepository)
    (commandID : String) :
    (AdHandler.getAdStatus findByID qm store db uuidError adID now).1 ≠ 404 ∧
    (∀ id e, parseAdID adID = some id → findByID store id = .error e →
      AdHandler.getAdStatus findByID qm store db uuidError adID now =
        (500, .error ⟨"Failed to get ad status", "failed to find ad: " ++ e⟩)) ∧
    (CommandHandler.getCommandStatus commands commandID).1 ≠ 404 ∧
    (∀ e, commands.findByID ⟨""⟩ = .error e → commandID ≠ "" →
      CommandHandler.getCommandStatus commands commandID =
        (500, .error ⟨"Failed to get command status", "command not found: " ++ e⟩)) := by
  refine ⟨?_, fun id e hid he => ?_, ?_, fun e he hne => ?_⟩
  · unfold AdHandler.getAdStatus
    split_ifs
    · simp
    · split
      · next e h => simp [getAdStatus_error_ne findByID qm store db uuidError now h]
      · simp
  · have hne : adID ≠ "" := by
      rintro rfl
      rw [show parseAdID "" = none by decide] at hid
      cases hid
    have hfind : "failed to find ad: " ++ e ≠ "ad not found" := append_ne_of_length_lt _ (by decide)
    simp only [AdHandler.getAdStatus, if_neg hne, AdService.getAdStatus, hid, he, if_neg hfind]
  · unfold CommandHandler.getCommandStatus
    split_ifs
    · simp
    · split
      · next e h => simp [getCommandStatus_error_ne h]
      · simp
  · have hcmd : "command not found: " ++ e ≠ errCommandNotFound := append_ne_of_length_lt _ (by decide)
    simp only [CommandHandler.getCommandStatus, if_neg hne, CommandService.getCommandStatus, he,
      if_neg hcmd]

end Status

/-- `POST /ads`: a body that does not decode or fails its tags gets 400 and changes nothing.
A body that passes them is one the factory accepts, so the handler answers 201 with the
fresh identifier, status `queued` and the request's priority (`PriorityNormal` by default),
or 500 with the error of the save or of the enqueue. -/
theorem createAd_reply {R : Type} (save : R → Ad → Except AdError Unit × R)
    (qm : RedisQueueManager) (store : R) (db : Shards) (id : AdID)
    (nowCreate nowEnqueue nowEstimate : Int) (zaddReply : Except String Unit)
    (body : Except String CreateAdBody) :
    let res := AdHandler.createAd save qm store db id nowCreate nowEnqueue nowEstimate zaddReply body
    ((∀ b, body = .ok b → b.validationErrors ≠ []) → res.1 = 400 ∧ res.2.2 = (store, db)) ∧
    ∀ b, body = .ok b → b.validationErrors = [] →
      (∃ a, Factory.createAd id nowCreate b.toRequest.title b.toRequest.gameFamily
        b.toRequest.targetAudience b.toRequest.priorityOrDefault
        b.toRequest.maxWaitTimeOrDefault = .ok a) ∧
      ((∃ r, res.1 = 201 ∧ res.2.1 = .body r ∧ r.adID = id.value ∧
          r.status = AdStatus.queued.value ∧ r.priority = b.priority.getD Priority.normal) ∨
        (res.1 = 500 ∧
          ((∃ e : AdError, res.2.1 = .error ⟨"Failed to create ad", "failed to save ad: " ++ e.message⟩) ∨
            ∃ e, res.2.1 = .error ⟨"Failed to create ad",
              "failed to enqueue ad: " ++ ("failed to enqueue ad: " ++ e)⟩))) := by
  intro res
  refine ⟨fun hbad => ?_, fun b hb hv => ?_⟩
  · cases body with
    | error e => exact ⟨rfl, rfl⟩
    | ok b => simp only [res, AdHandler.createAd, if_pos (hbad b rfl), and_self]
  · subst hb
    have hfac := factory_accepts_validated hv id nowCreate
    refine ⟨⟨_, hfac⟩, ?_⟩
    simp only [res, AdHandler.createAd, hv, ne_eq, not_true_eq_false, if_false,
      AdService.createAd, hfac]
    rcases hs : save store _ with ⟨r, store'⟩
    cases r with
    | error e => exact .inr ⟨rfl, .inl ⟨e, rfl⟩⟩
    | ok u =>
      cases zaddReply with
      | error e => exact .inr ⟨rfl, .inr ⟨e, rfl⟩⟩
      | ok u' => exact .inl ⟨_, rfl, rfl, rfl, rfl, rfl⟩

end AdQueue
