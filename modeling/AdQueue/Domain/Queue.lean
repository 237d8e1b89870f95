import AdQueue.Domain.Ad

/-!
# The queue package

`internal/domain/queue`: the item a queue hands out and the configuration a queue manager
reads.  The item carries its own score, computed by the package's `calculateScore`, which
is not the score the Redis manager sorts by: it adds a small fraction of the timestamp to
a priority band of width `10^6`.  The `float64` arithmetic is read in exact rationals.
-/

namespace AdQueue

namespace Queue

/-- `queue.calculateScore`: `priority·10^6 + unix/10^9`. -/
def calculateScore (priority : Int) (timestamp : Int) : ℚ :=
  priority * 1000000 + ((timestamp / 1000000000 : Int) : ℚ) / 1000000000

end Queue

/-- `queue.QueueItem`. -/
structure QueueItem where
  adID : AdID
  priority : Int
  timestamp : Int
  score : ℚ
deriving DecidableEq, Repr

namespace QueueItem

/-- `NewQueueItem`. -/
def new (adID : AdID) (priority : Int) (timestamp : Int) : QueueItem :=
  ⟨adID, priority, timestamp, Queue.calculateScore priority timestamp⟩

/-- `QueueItem.UpdatePriority`: the timestamp stays, the score follows the priority. -/
def updatePriority (qi : QueueItem) (newPriority : Int) : QueueItem :=
  { qi with priority := newPriority, score := Queue.calculateScore newPriority qi.timestamp }

end QueueItem

/-- `queue.QueueConfig`; the two durations are nanoseconds. -/
structure QueueConfig where
  antiStarvationEnabled : Bool
  maxWaitTime : Int
  workerCount : Int
  batchSize : Int
  processingTimeout : Int
deriving DecidableEq, Repr

end AdQueue
