import AdQueue.Persistence.Memory
import AdQueue.Queue.Manager

/-!
# Creating an ad

`AdService.CreateAd` fills in the defaults of the request, builds the entity with the
factory, saves it, enqueues it, and reads its position.  It takes the repository's `Save`,
the fresh identifier, the clock readings of the factory, of `Enqueue` and of the estimate,
and the server's answer to the `ZADD` of `Enqueue`.

The save comes before the enqueue and nothing undoes it (the source marks the compensation
as a `TODO`).  `createAd_error_cases` says what an error leaves: a request the factory
refuses and a failed save change nothing, and a refused `ZADD` leaves the new ad saved,
queued, with the queue as it was.  On the in-memory store, which never fails a save, that is
the only error that changes anything (`createAd_enqueue_error_keeps_saved_ad`).
-/

namespace AdQueue

/-- `AdService.CreateAdRequest`; `maxWaitTime` is seconds. -/
structure CreateAdRequest where
  title : String
  gameFamily : String
  targetAudience : List String
  priority : Option Int
  maxWaitTime : Option Int
deriving DecidableEq, Repr

/-- `AdService.CreateAdResponse`; the estimate is Unix nanoseconds. -/
structure CreateAdResponse where
  adID : String
  status : String
  priority : Int
  position : Int
  estimatedProcessTime : Int
deriving DecidableEq, Repr

namespace CreateAdRequest

/-- The priority of the request, `PriorityNormal` by default. -/
def priorityOrDefault (req : CreateAdRequest) : Int := req.priority.getD Priority.normal

/-- The maximum wait of the request, five minutes by default:
`time.Duration(*req.MaxWaitTime) * time.Second`, in 64-bit arithmetic. -/
def maxWaitTimeOrDefault (req : CreateAdRequest) : Int :=
  match req.maxWaitTime with
  | some s => Int.bmod (s * 1000000000) (2 ^ 64)
  | none => 300000000000

end CreateAdRequest

namespace AdService

variable {R : Type}

/-- `AdService.CreateAd`. -/
def createAd (save : R → Ad → Except AdError Unit × R) (qm : RedisQueueManager) (store : R)
    (db : Shards) (id : AdID) (nowCreate nowEnqueue nowEstimate : Int)
    (zaddReply : Except String Unit) (req : CreateAdRequest) :
    Except String CreateAdResponse × R × Shards :=
  match Factory.createAd id nowCreate req.title req.gameFamily req.targetAudience
      req.priorityOrDefault req.maxWaitTimeOrDefault with
  | .error e => (.error ("failed to create ad: " ++ e.message), store, db)
  | .ok newAd =>
    match save store newAd with
    | (.error e, store') => (.error ("failed to save ad: " ++ e.message), store', db)
    | (.ok (), store') =>
      match qm.enqueueReply db newAd.id newAd.priority nowEnqueue zaddReply with
      | (.error e, db') => (.error ("failed to enqueue ad: " ++ e), store', db')
      | (.ok (), db') =>
        let position := match qm.getPosition db' newAd.id with
          | .ok p => p
          | .error _ => -1
        (.ok ⟨newAd.id.value, newAd.status.value, newAd.priority, position,
            nowEstimate + Int.bmod (position * 3 * 1000000000) (2 ^ 64)⟩, store', db')

/-- What an error of `CreateAd` leaves: nothing changed, when the factory refuses the request;
what the failed save left; or, when the server refuses the `ZADD`, the new ad saved, queued,
and the queue as it was. -/
theorem createAd_error_cases (save : R → Ad → Except AdError Unit × R) (qm : RedisQueueManager)
    (store : R) (db : Shards) (id : AdID) (nowCreate nowEnqueue nowEstimate : Int)
    (zaddReply : Except String Unit) (req : CreateAdRequest) {msg : String}
    (h : (createAd save qm store db id nowCreate nowEnqueue nowEstimate zaddReply req).1 = .error msg) :
    (createAd save qm store db id nowCreate nowEnqueue nowEstimate zaddReply req).2 = (store, db) ∨
    (∃ a e, Factory.createAd id nowCreate req.title req.gameFamily req.targetAudience
        req.priorityOrDefault req.maxWaitTimeOrDefault = .ok a ∧ (save store a).1 = .error e ∧
      (createAd save qm store db id nowCreate nowEnqueue nowEstimate zaddReply req).2 =
        ((save store a).2, db)) ∨
    ∃ a e, Factory.createAd id nowCreate req.title req.gameFamily req.targetAudience
        req.priorityOrDefault req.maxWaitTimeOrDefault = .ok a ∧ (save store a).1 = .ok () ∧
      zaddReply = .error e ∧ msg = "failed to enqueue ad: " ++ ("failed to enqueue ad: " ++ e) ∧
      (createAd save qm store db id nowCreate nowEnqueue nowEstimate zaddReply req).2 =
        ((save store a).2, db) := by
  cases hfac : Factory.createAd id nowCreate req.title req.gameFamily req.targetAudience
      req.priorityOrDefault req.maxWaitTimeOrDefault with
  | error e => exact .inl (by simp only [createAd, hfac])
  | ok a =>
    rcases hs : save store a with ⟨res, store'⟩
    cases res with
    | error e => exact .inr (.inl ⟨a, e, rfl, by rw [hs], by simp only [createAd, hfac, hs]⟩)
    | ok u =>
      cases zaddReply with
      | error e =>
        simp only [createAd, hfac, hs, RedisQueueManager.enqueueReply, Except.error.injEq] at h ⊢
        exact .inr (.inr ⟨a, e, rfl, by rw [hs], rfl, h.symm, by rw [hs]⟩)
      | ok u' => simp [createAd, hfac, hs, RedisQueueManager.enqueueReply] at h

/-- On the in-memory store: an error of `CreateAd` changes nothing, or is a refused `ZADD`;
and for every request the factory accepts, a refused `ZADD` returns an error and leaves the
new ad saved, queued, with the queue as it was. -/
theorem createAd_enqueue_error_keeps_saved_ad (qm : RedisQueueManager)
    (store : MemoryAdRepository) (db : Shards) (id : AdID) (nowCreate nowEnqueue nowEstimate : Int)
    (req : CreateAdRequest) :
    (∀ zaddReply msg, (createAd MemoryAdRepository.save qm store db id nowCreate nowEnqueue
        nowEstimate zaddReply req).1 = .error msg →
      (createAd MemoryAdRepository.save qm store db id nowCreate nowEnqueue nowEstimate zaddReply
          req).2 = (store, db) ∨
        ∃ e, zaddReply = .error e ∧ msg = "failed to enqueue ad: " ++ ("failed to enqueue ad: " ++ e)) ∧
    ∀ a e, Factory.createAd id nowCreate req.title req.gameFamily req.targetAudience
        req.priorityOrDefault req.maxWaitTimeOrDefault = .ok a →
      let res := createAd MemoryAdRepository.save qm store db id nowCreate nowEnqueue nowEstimate
        (.error e) req
      res.1 = .error ("failed to enqueue ad: " ++ ("failed to enqueue ad: " ++ e)) ∧ res.2.2 = db ∧
        res.2.1.findByID id = .ok a ∧ a.status = .queued := by
  refine ⟨fun zaddReply msg h => ?_, fun a e hfac => ?_⟩
  · rcases createAd_error_cases _ qm store db id nowCreate nowEnqueue nowEstimate zaddReply req h
      with h | ⟨a, e, -, hsave, -⟩ | ⟨a, e, -, -, he, hmsg, -⟩
    · exact .inl h
    · simp at hsave
    · exact .inr ⟨e, he, hmsg⟩
  · have hid := Factory.createAd_id hfac
    rcases hs : store.save a with ⟨res, store'⟩
    obtain rfl : res = .ok () := by simpa [hs] using store.save_fst a
    have hfind : store'.findByID a.id = .ok a := by simpa [hs] using store.findByID_save a
    simp only [createAd, hfac, hs, RedisQueueManager.enqueueReply]
    exact ⟨trivial, trivial, hid ▸ hfind, (Factory.createAd_ok hfac).1⟩

end AdService

end AdQueue
