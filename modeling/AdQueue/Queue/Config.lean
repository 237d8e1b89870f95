import AdQueue.Queue.Binary64
import AdQueue.Redis.Strings
import AdQueue.Text.Strings

/-!
# The stored queue configuration

`RedisQueueManager.UpdateConfig` keeps the configuration in the manager and writes it to the
Redis key `queue:config` as `%t:%d:%d:%d:%d`: the anti-starvation flag, the maximum wait in
seconds, the worker count, the batch size, and the processing timeout in seconds.
`GetConfig` splits the text at `:`, parses the five fields, ignoring every parse error, and
multiplies the two durations back by a second; no key, or a text that does not split into
five fields, gives the manager's own configuration.

The seconds are `int(d.Seconds())`: `Duration.Seconds` adds the whole seconds and the
nanoseconds over `1e9` in float64, and `int` truncates (`durationSeconds`, on the float64
operations of `Queue.Binary64`).  A whole number of seconds below `2^53` is exact there, and
every duration is below `2^63` nanoseconds.  `getConfig_updateConfig` is the round trip for
every configuration whose durations are whole seconds and whose fields are values of their
Go types, read by any manager on the same Redis: the fallback to the reader's own
configuration plays no part.
-/

namespace AdQueue

/-- The values of Go's `int64`, and of `int` and `time.Duration` on 64-bit platforms. -/
def Int64Range (x : Int) : Prop := -2 ^ 63 ≤ x ∧ x < 2 ^ 63

namespace RedisQueueManager

open Binary64 Text

/-- `int(d.Seconds())`, with `Seconds` as Go computes it:
`float64(d / Second) + float64(d % Second) / 1e9`. -/
def durationSeconds (d : Int) : Int :=
  toInt (add (ofInt (d.tdiv 1000000000)) (div (ofInt (d.tmod 1000000000)) 1000000000))

/-- `time.Duration(n) * time.Second`, in 64-bit arithmetic. -/
def secondsDuration (n : Int) : Int := Int.bmod (n * 1000000000) (2 ^ 64)

/-- The text `UpdateConfig` writes: `%t:%d:%d:%d:%d`. -/
def configText (c : QueueConfig) : List Char :=
  [':'].intercalate [formatBool c.antiStarvationEnabled, formatInt (durationSeconds c.maxWaitTime),
    formatInt c.workerCount, formatInt c.batchSize, formatInt (durationSeconds c.processingTimeout)]

/-- `UpdateConfig` at clock `now`: the manager takes the configuration, and `queue:config`
is set with no expiry. -/
def updateConfig (r : RedisQueueManager) (kv : StringKeys) (config : QueueConfig) (now : Int) :
    Except String Unit × RedisQueueManager × StringKeys :=
  (.ok (), { r with config := config }, kv.set "queue:config" ⟨configText config⟩ 0 now)

/-- `GetConfig` at clock `now`. -/
def getConfig (r : RedisQueueManager) (kv : StringKeys) (now : Int) : Except String QueueConfig :=
  match kv.get "queue:config" now with
  | none => .ok r.config
  | some data =>
    match split data.data ':' with
    | [p0, p1, p2, p3, p4] =>
      .ok ⟨(parseBool p0).1, secondsDuration (atoi p1).1, (atoi p2).1, (atoi p3).1,
        secondsDuration (atoi p4).1⟩
    | _ => .ok r.config

/-! ## The round trip -/

/-- A whole number of seconds in the range of a duration comes back from `Seconds()`. -/
theorem durationSeconds_whole {s : Int} (h : Int64Range (s * 1000000000)) :
    durationSeconds (s * 1000000000) = s := by
  have hs : |s| < 2 ^ 53 := by unfold Int64Range at h; rw [abs_lt]; omega
  have h0 : roundDouble 0 = 0 := by simpa using roundDouble_intCast (n := 0) (by norm_num)
  have hdiv : (s * 1000000000).tdiv 1000000000 = s := Int.mul_tdiv_cancel _ (by norm_num)
  have hmod : (s * 1000000000).tmod 1000000000 = 0 := Int.mul_tmod_left _ _
  simp only [durationSeconds, hdiv, hmod, ofInt, add, div, Int.cast_zero, h0, zero_div, add_zero,
    roundDouble_intCast hs]
  exact toInt_intCast (by rw [abs_lt] at hs; omega) (by rw [abs_lt] at hs; omega)

theorem colon_not_mem_formatInt (n : Int) : ':' ∉ formatInt n := by
  have hnat : ':' ∉ formatNat n.natAbs := fun h => by
    simpa using List.all_eq_true.mp (formatNat_spec n.natAbs).2.1 ':' h
  unfold formatInt
  split_ifs
  · simpa using hnat
  · exact hnat

/-- A duration of whole seconds is printed as its seconds and read back. -/
theorem secondsDuration_atoi {s : Int} (h : Int64Range (s * 1000000000)) :
    secondsDuration (atoi (formatInt (durationSeconds (s * 1000000000)))).1 = s * 1000000000 := by
  have hs : -2 ^ 63 ≤ s ∧ s < 2 ^ 63 := by unfold Int64Range at h; omega
  rw [durationSeconds_whole h, atoi_formatInt hs.1 hs.2, secondsDuration, bmod_of_int64 h.1 h.2]

/-- `UpdateConfig` then `GetConfig` gives the configuration back, at any later time, for every
configuration whose two durations are whole seconds and whose fields are values of their Go
types.  The reading manager is any manager on the same Redis, whatever configuration it
holds itself, so the configuration comes back through the text `%t:%d:%d:%d:%d`. -/
theorem getConfig_updateConfig (r : RedisQueueManager) (kv : StringKeys) (c : QueueConfig)
    (now now' : Int) (hwait : ∃ s, c.maxWaitTime = s * 1000000000)
    (htimeout : ∃ s, c.processingTimeout = s * 1000000000)
    (hrange : Int64Range c.maxWaitTime ∧ Int64Range c.workerCount ∧ Int64Range c.batchSize ∧
      Int64Range c.processingTimeout) :
    (r.updateConfig kv c now).1 = .ok () ∧ (r.updateConfig kv c now).2.1.config = c ∧
      ∀ reader : RedisQueueManager, reader.getConfig (r.updateConfig kv c now).2.2 now' = .ok c := by
  obtain ⟨⟨s, hs⟩, ⟨t, ht⟩⟩ := And.intro hwait htimeout
  obtain ⟨hw, hwc, hb, hp⟩ := hrange
  have hget : (kv.set "queue:config" ⟨configText c⟩ 0 now).get "queue:config" now' =
      some ⟨configText c⟩ := StringKeys.get_set_self _ _ _ (by decide) (by intro h; omega)
  have hsplit : (configText c).splitOn ':' = [formatBool c.antiStarvationEnabled,
      formatInt (durationSeconds c.maxWaitTime), formatInt c.workerCount, formatInt c.batchSize,
      formatInt (durationSeconds c.processingTimeout)] := by
    refine List.splitOn_intercalate _ ':' (fun l hl => ?_) (List.cons_ne_nil _ _)
    simp only [List.mem_cons, List.mem_singleton, List.not_mem_nil, or_false] at hl
    rcases hl with rfl | rfl | rfl | rfl | rfl
    · cases c.antiStarvationEnabled <;> decide
    all_goals exact colon_not_mem_formatInt _
  refine ⟨rfl, rfl, fun reader => ?_⟩
  simp only [updateConfig, getConfig, hget, split]
  rw [hsplit]
  obtain ⟨b, w, n, k, p⟩ := c
  simp only at hs ht hw hp ⊢
  subst hs ht
  rw [parseBool_formatBool, secondsDuration_atoi hw, secondsDuration_atoi hp,
    atoi_formatInt hwc.1 hwc.2, atoi_formatInt hb.1 hb.2]

/-- A configuration with the anti-starvation pass off and a negative maximum wait of
`-5 s` comes back whole, read by a manager that still holds the one before. -/
theorem getConfig_updateConfig_at_sample :
    let r : RedisQueueManager := ⟨⟨true, 300000000000, 10, 10, 30000000000⟩, 10⟩
    let c : QueueConfig := ⟨false, -5 * 1000000000, 4, 20, 60 * 1000000000⟩
    r.getConfig (r.updateConfig StringKeys.empty c 0).2.2 1000000000 = .ok c :=
  (getConfig_updateConfig _ _ _ 0 1000000000 ⟨-5, rfl⟩ ⟨60, rfl⟩
    (by simp only [Int64Range]; norm_num)).2.2 _

end RedisQueueManager

end AdQueue
