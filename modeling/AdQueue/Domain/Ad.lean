import Mathlib

/-!
# The ad aggregate

`internal/domain/ad`: the identifier, the status, the priority, the entity itself, the
factory that builds it, and the four business methods that move it through its life.

Go values become Lean values.  An identifier is the string it wraps; `AdStatus` is a named
string type in Go and stays a wrapped string here, so that a status other than the four
constants can be written down (the factory and the methods never write one, and the
lifecycle module proves it).  Time is an integer count of nanoseconds since the Unix epoch
and a duration an integer count of nanoseconds.  `time.Now()` and `uuid.New()` are inputs
of the functions that call them.

A method that fails returns its error before it writes a field, so a business method is a
function `Ad → Except AdError Ad` and a failed call leaves the receiver as it was.

`calculateEffectivePriority` is the anti-starvation rule of the entity: one band per five
minutes waited past `maxWaitTime`.  Durations subtract in 64-bit two's complement
(`durationSub`), while `Time.Sub` saturates (`timeSub`).

The three status methods share one shape: check the status they leave, write the status
they enter, stamp the record, bump the version.  `Ad.transition` is that shape, and each
method is `transition` at its own two statuses and its own stamp.  `failProcessing`
stamps nothing, and the lifecycle module shows what follows from that.

`ParseAdID` calls `uuid.Parse` of the `google/uuid` package.  `uuidParses` is the set of
strings that call accepts: the canonical 36-byte form, the same form inside 38 bytes (the
first and last bytes are not looked at), behind a case-insensitive `urn:uuid:` prefix, and
32 bare hex digits.
-/

namespace AdQueue

/-! ## Time -/

/-- `t.Unix()`: whole seconds since the epoch, rounded down. -/
def unixSeconds (t : Int) : Int := t / 1000000000

/-- The largest `time.Duration`. -/
def maxDuration : Int := 2 ^ 63 - 1

/-- The smallest `time.Duration`. -/
def minDuration : Int := -2 ^ 63

/-- `now.Sub(t)`, which saturates at the range of a `time.Duration`; `time.Since(t)` is
this at the clock's reading. -/
def timeSub (now t : Int) : Int := max minDuration (min maxDuration (now - t))

/-- `-d` on a `time.Duration`, in two's complement: the smallest duration is its own
negation. -/
def negDuration (d : Int) : Int := if d = minDuration then minDuration else -d

/-- `d - e` on `time.Duration`s: 64-bit two's complement, wrapping. -/
def durationSub (d e : Int) : Int := Int.bmod (d - e) (2 ^ 64)

/-- A value in the range of an `int64` is its own 64-bit two's complement reduction. -/
theorem bmod_of_int64 {x : Int} (h0 : -2 ^ 63 ≤ x) (h1 : x < 2 ^ 63) : Int.bmod x (2 ^ 64) = x := by
  rw [Int.bmod_def]
  push_cast
  split_ifs <;> omega

/-- A difference in the range of a duration does not wrap. -/
theorem durationSub_eq {d e : Int} (h0 : 0 ≤ d - e) (h1 : d - e < 2 ^ 63) :
    durationSub d e = d - e := by
  have hm : (d - e) % ((2 ^ 64 : Nat) : Int) = d - e := Int.emod_eq_of_lt h0 (by norm_num; omega)
  rw [durationSub, Int.bmod_pos _ _ (by rw [hm]; norm_num; omega), hm]

/-! ## Identifiers -/

/-- `ad.AdID`: the string an identifier was parsed from. -/
structure AdID where
  /-- `AdID.String()`. -/
  value : String
deriving DecidableEq, Repr

/-- The bytes of a string, as Go's `len(s)` and `s[i]` see it. -/
def utf8Bytes (s : String) : List UInt8 := s.toUTF8.data.toList

/-- An ASCII hex digit, the bytes `xtob` accepts. -/
def isHexByte (b : UInt8) : Bool :=
  (48 ≤ b && b ≤ 57) || (65 ≤ b && b ≤ 70) || (97 ≤ b && b ≤ 102)

/-- ASCII lower case, the only folding `strings.EqualFold` can do against `urn:uuid:`. -/
def asciiLower (b : UInt8) : UInt8 := if 65 ≤ b && b ≤ 90 then b + 32 else b

/-- The layout `xxxxxxxx-xxxx-xxxx-xxxx-xxxxxxxxxxxx` in the first 36 bytes. -/
def isCanonicalUUID (b : List UInt8) : Bool :=
  (List.range 36).all fun i =>
    if i = 8 ∨ i = 13 ∨ i = 18 ∨ i = 23 then b.getD i 0 = 45 else isHexByte (b.getD i 0)

/-- The strings `uuid.Parse` accepts, switched on their length in bytes. -/
def uuidParses (s : String) : Bool :=
  let b := utf8Bytes s
  match b.length with
  | 36 => isCanonicalUUID b
  | 45 => (b.take 9).map asciiLower = utf8Bytes "urn:uuid:" && isCanonicalUUID (b.drop 9)
  | 38 => isCanonicalUUID (b.drop 1)
  | 32 => b.all isHexByte
  | _ => false

/-- `ad.ParseAdID`: the identifier keeps the string it was given. -/
def parseAdID (id : String) : Option AdID :=
  if uuidParses id then some ⟨id⟩ else none

theorem parseAdID_eq_some {id : String} (h : uuidParses id = true) : parseAdID id = some ⟨id⟩ := by
  simp [parseAdID, h]

/-- A parsed identifier is the string it was parsed from. -/
theorem eq_of_parseAdID {s : String} {id : AdID} (h : parseAdID s = some id) : id = ⟨s⟩ := by
  unfold parseAdID at h
  split_ifs at h
  exact (Option.some.inj h).symm

example : uuidParses "123e4567-e89b-12d3-a456-426614174000" = true := by decide
example : uuidParses "123e4567-e89b-12d3-a456-42661417400g" = false := by decide

/-! ## Status and priority -/

/-- `ad.AdStatus`, a named string. -/
structure AdStatus where
  /-- The string Go stores. -/
  value : String
deriving DecidableEq, Repr

namespace AdStatus

/-- `AdStatusQueued`. -/
def queued : AdStatus := ⟨"queued"⟩
/-- `AdStatusProcessing`. -/
def processing : AdStatus := ⟨"processing"⟩
/-- `AdStatusCompleted`. -/
def completed : AdStatus := ⟨"completed"⟩
/-- `AdStatusFailed`. -/
def failed : AdStatus := ⟨"failed"⟩

/-- The four constants the package declares. -/
def all : List AdStatus := [queued, processing, completed, failed]

@[simp] theorem queued_ne_processing : queued ≠ processing := by decide
@[simp] theorem queued_ne_completed : queued ≠ completed := by decide
@[simp] theorem queued_ne_failed : queued ≠ failed := by decide
@[simp] theorem processing_ne_completed : processing ≠ completed := by decide
@[simp] theorem processing_ne_failed : processing ≠ failed := by decide
@[simp] theorem completed_ne_failed : completed ≠ failed := by decide
@[simp] theorem processing_ne_queued : processing ≠ queued := by decide
@[simp] theorem completed_ne_queued : completed ≠ queued := by decide
@[simp] theorem failed_ne_queued : failed ≠ queued := by decide
@[simp] theorem completed_ne_processing : completed ≠ processing := by decide
@[simp] theorem failed_ne_processing : failed ≠ processing := by decide
@[simp] theorem failed_ne_completed : failed ≠ completed := by decide

end AdStatus

/-! `ad.Priority` is a Go `int`, an `Int` here: `1` is low, `5` is high. -/

namespace Priority

/-- `PriorityLow`. -/
def low : Int := 1
/-- `PriorityNormal`. -/
def normal : Int := 3
/-- `PriorityHigh`. -/
def high : Int := 5

/-- `Priority.IsValid`. -/
def isValid (p : Int) : Bool := 1 ≤ p && p ≤ 5

@[simp] theorem isValid_iff (p : Int) : isValid p = true ↔ 1 ≤ p ∧ p ≤ 5 := by
  simp [isValid]

end Priority

/-! ## The entity -/

/-- The domain errors of `ad/errors.go`. -/
inductive AdError where
  | invalidTitle
  | invalidGameFamily
  | invalidTargetAudience
  | invalidPriority
  | invalidStatusTransition
  | cannotChangePriorityAfterProcessing
  | adNotFound
  | adAlreadyExists
  | optimisticLockFailed
deriving DecidableEq, Repr

/-- `Error()` of each domain error. -/
def AdError.message : AdError → String
  | .invalidTitle => "ad title cannot be empty"
  | .invalidGameFamily => "game family cannot be empty"
  | .invalidTargetAudience => "target audience cannot be empty"
  | .invalidPriority => "priority must be between 1 and 5"
  | .invalidStatusTransition => "invalid status transition"
  | .cannotChangePriorityAfterProcessing => "cannot change priority after processing started"
  | .adNotFound => "ad not found"
  | .adAlreadyExists => "ad already exists"
  | .optimisticLockFailed => "optimistic lock failed - ad was modified by another process"

/-- `ad.Ad`.  Times are Unix nanoseconds, `maxWaitTime` is nanoseconds. -/
structure Ad where
  id : AdID
  title : String
  gameFamily : String
  targetAudience : List String
  priority : Int
  maxWaitTime : Int
  status : AdStatus
  createdAt : Int
  processingStartedAt : Option Int
  processedAt : Option Int
  queuePosition : Option Int
  version : Int
deriving DecidableEq, Repr

/-! ## The factory -/

namespace Factory

/-- `Factory.CreateAd`, with the fresh identifier and the clock as inputs. -/
def createAd (id : AdID) (now : Int) (title gameFamily : String) (targetAudience : List String)
    (priority : Int) (maxWaitTime : Int) : Except AdError Ad :=
  if title = "" then .error .invalidTitle
  else if gameFamily = "" then .error .invalidGameFamily
  else if targetAudience.length = 0 then .error .invalidTargetAudience
  else if !Priority.isValid priority then .error .invalidPriority
  else .ok { id, title, gameFamily, targetAudience, priority, maxWaitTime,
             status := .queued, createdAt := now, processingStartedAt := none,
             processedAt := none, queuePosition := none, version := 1 }

/-- `Factory.ReconstructAd`: every field from persistence, no position. -/
def reconstructAd (id : AdID) (title gameFamily : String) (targetAudience : List String)
    (priority : Int) (maxWaitTime : Int) (status : AdStatus) (createdAt : Int)
    (processingStartedAt processedAt : Option Int) (version : Int) : Ad :=
  { id, title, gameFamily, targetAudience, priority, maxWaitTime, status, createdAt,
    processingStartedAt, processedAt, queuePosition := none, version }

/-- What a successful `createAd` builds: a queued ad at version `1` with a valid priority. -/
theorem createAd_ok {id : AdID} {now : Int} {title gameFamily : String}
    {targetAudience : List String} {priority : Int} {maxWaitTime : Int} {a : Ad}
    (h : createAd id now title gameFamily targetAudience priority maxWaitTime = .ok a) :
    a.status = .queued ∧ 1 ≤ a.priority ∧ a.priority ≤ 5 ∧ a.version = 1 ∧
      a.processingStartedAt = none ∧ a.processedAt = none := by
  unfold createAd at h
  split_ifs at h with h1 h2 h3 h4
  cases h
  simp only [Bool.not_eq_true', Bool.not_eq_false, Priority.isValid_iff] at h4
  exact ⟨rfl, h4.1, h4.2, rfl, rfl, rfl⟩

theorem createAd_id {id : AdID} {now : Int} {title gameFamily : String}
    {targetAudience : List String} {priority : Int} {maxWaitTime : Int} {a : Ad}
    (h : createAd id now title gameFamily targetAudience priority maxWaitTime = .ok a) :
    a.id = id := by
  unfold createAd at h
  split_ifs at h
  cases h
  rfl

end Factory

/-! ## Business methods -/

namespace Ad

/-- The shape of the three status methods: from status `source` only, enter `target`,
apply `stamp`, bump the version. -/
def transition (source target : AdStatus) (stamp : Ad → Ad) (a : Ad) : Except AdError Ad :=
  if a.status ≠ source then .error .invalidStatusTransition
  else .ok (stamp { a with status := target, version := a.version + 1 })

/-- `Ad.StartProcessing`: stamps `processingStartedAt` and clears the queue position. -/
def startProcessing (a : Ad) (now : Int) : Except AdError Ad :=
  transition .queued .processing
    (fun a => { a with processingStartedAt := some now, queuePosition := none }) a

/-- `Ad.CompleteProcessing`: stamps `processedAt`. -/
def completeProcessing (a : Ad) (now : Int) : Except AdError Ad :=
  transition .processing .completed (fun a => { a with processedAt := some now }) a

/-- `Ad.FailProcessing`: stamps nothing. -/
def failProcessing (a : Ad) : Except AdError Ad :=
  transition .processing .failed (fun a => a) a

/-- `Ad.ChangePriority`.  Only `processing` and `completed` are refused; a `failed` ad
takes the change. -/
def changePriority (a : Ad) (newPriority : Int) : Except AdError Ad :=
  if !Priority.isValid newPriority then .error .invalidPriority
  else if a.status = .processing ∨ a.status = .completed then
    .error .cannotChangePriorityAfterProcessing
  else .ok { a with priority := newPriority, version := a.version + 1 }

theorem transition_ok {source target : AdStatus} {stamp : Ad → Ad} {a a' : Ad}
    (h : transition source target stamp a = .ok a') :
    a.status = source ∧ a' = stamp { a with status := target, version := a.version + 1 } := by
  unfold transition at h
  split_ifs at h with hs
  cases h
  exact ⟨not_not.mp hs, rfl⟩

theorem startProcessing_ok {a a' : Ad} {now : Int} (h : a.startProcessing now = .ok a') :
    a.status = .queued ∧
      a' = { a with status := .processing, processingStartedAt := some now,
                    queuePosition := none, version := a.version + 1 } :=
  transition_ok h

theorem completeProcessing_ok {a a' : Ad} {now : Int} (h : a.completeProcessing now = .ok a') :
    a.status = .processing ∧
      a' = { a with status := .completed, processedAt := some now, version := a.version + 1 } :=
  transition_ok h

theorem failProcessing_ok {a a' : Ad} (h : a.failProcessing = .ok a') :
    a.status = .processing ∧ a' = { a with status := .failed, version := a.version + 1 } :=
  transition_ok h

theorem changePriority_ok {a a' : Ad} {q : Int} (h : a.changePriority q = .ok a') :
    1 ≤ q ∧ q ≤ 5 ∧ a.status ≠ .processing ∧ a.status ≠ .completed ∧
      a' = { a with priority := q, version := a.version + 1 } := by
  unfold changePriority at h
  split_ifs at h with h1 h2
  cases h
  simp only [Bool.not_eq_true', Bool.not_eq_false, Priority.isValid_iff] at h1
  push_neg at h2
  exact ⟨h1.1, h1.2, h2.1, h2.2, rfl⟩

/-! ## Waiting -/

/-- `Ad.WaitTime` at clock `now`: until processing started, or until now. -/
def waitTime (a : Ad) (now : Int) : Int :=
  match a.processingStartedAt with
  | some t => timeSub t a.createdAt
  | none => timeSub now a.createdAt

/-- `Ad.IsStarving`: queued, and waiting longer than `maxWaitTime`. -/
def isStarving (a : Ad) (now : Int) : Bool :=
  a.status = .queued && a.maxWaitTime < a.waitTime now

/-- `Ad.CalculateEffectivePriority`: one band per five minutes waited past `maxWaitTime`, up
to `5`.  Go divides `waitOverrun.Minutes()` by `5` in float64 and truncates; the quotient is
the integer one, except that rounding may lift a quotient within `10^-11` below an integer
to it, which happens only for waits of months, where the band is `5` either way. -/
def calculateEffectivePriority (a : Ad) (now : Int) (antiStarvationEnabled : Bool) : Int :=
  if !antiStarvationEnabled then a.priority
  else if a.isStarving now then
    min (a.priority + (durationSub (a.waitTime now) a.maxWaitTime).tdiv 300000000000) Priority.high
  else a.priority

end Ad

end AdQueue
