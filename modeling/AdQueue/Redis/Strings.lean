import AdQueue.Domain.Ad

/-!
# Redis strings

The string keys the repository writes besides the queue shards: `queue:config`, which
`RedisQueueManager.UpdateConfig` sets and `GetConfig` reads, and the `ad:<id>` keys of the
second cache level.  A key holds a value and, when it was set with a positive TTL, the
instant it expires; `GET` at or after that instant finds nothing, which is what Redis's
lazy expiry answers, and `DEL` removes keys whatever their deadline.  go-redis sends a
positive TTL as whole seconds or whole milliseconds; that rounding is not modelled.  Its
`KeepTTL`, the TTL `-1`, keeps the deadline the key had.
-/

namespace AdQueue

/-- The string keys of a Redis database: a value and the instant it expires, if any. -/
def StringKeys := String → Option (String × Option Int)

namespace StringKeys

/-- The database with no string key. -/
def empty : StringKeys := fun _ => none

/-- `SET key value` with expiration `ttl`, at clock `now`. -/
def set (kv : StringKeys) (key value : String) (ttl now : Int) : StringKeys :=
  Function.update kv key (some (value,
    if 0 < ttl then some (now + ttl)
    else if ttl = -1 then (kv key).bind Prod.snd
    else none))

/-- `GET key` at clock `now`: `nil` for a key never set or expired. -/
def get (kv : StringKeys) (key : String) (now : Int) : Option String :=
  match kv key with
  | some (v, none) => some v
  | some (v, some deadline) => if now < deadline then some v else none
  | none => none

/-- What `SET` leaves at its key: the value, live until the deadline of the TTL. -/
theorem get_set_self (kv : StringKeys) (key value : String) {ttl now now' : Int} (httl : ttl ≠ -1)
    (hlive : 0 < ttl → now' < now + ttl) : (kv.set key value ttl now).get key now' = some value := by
  by_cases h : 0 < ttl
  · simp [set, get, h, hlive h]
  · simp [set, get, h, httl]

theorem set_other (kv : StringKeys) {key key' : String} (value : String) (ttl now : Int)
    (h : key' ≠ key) : kv.set key value ttl now key' = kv key' := by
  simp [set, h]

/-- `DEL key...`: the keys given are gone, expired or not. -/
def del (kv : StringKeys) (keys : List String) : StringKeys :=
  fun key => if key ∈ keys then none else kv key

@[simp] theorem get_del (kv : StringKeys) (keys : List String) (key : String) (now : Int) :
    (kv.del keys).get key now = if key ∈ keys then none else kv.get key now := by
  by_cases h : key ∈ keys <;> simp [del, get, h]

@[simp] theorem del_nil (kv : StringKeys) : kv.del [] = kv := rfl

theorem del_append (kv : StringKeys) (keys keys' : List String) :
    (kv.del keys).del keys' = kv.del (keys ++ keys') := by
  funext key
  by_cases h : key ∈ keys <;> by_cases h' : key ∈ keys' <;> simp [del, h, h']

end StringKeys

end AdQueue
