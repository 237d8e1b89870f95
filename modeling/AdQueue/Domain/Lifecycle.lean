import AdQueue.Domain.Ad

/-!
# The lifecycle of an ad

A caller may invoke the four business methods in any order, any number of times, and go on
after an error.  `stepAd` is one such call, `afterEach a cs` the ads the calls `cs` leave
behind, one after each call.

Over the faithful methods sits the lifecycle the spec draws, `queued → processing →
(completed | failed)`.  `StatusStep` says what one call may do to the status: keep it or take
one edge.  `statusStep_stepAd` shows every call is such a step, and `follows_of_chain` turns
a chain of steps from `queued` into the shape of the whole history: some `queued`, then
some `processing`, then one terminal status repeated, never a terminal status without
`processing` before it (`FollowsLifecycle`).  `createAd_run_follows_lifecycle` puts these
together for every ad the factory builds and every run of calls.

Each call that returns nil raises the version by one and writes only the fields its body
assigns (`AdCall.writes`, `AdCall.apply_ok_frame`); a call that fails writes nothing.  So the
version of every state is one more than the calls that returned nil
(`createAd_run_versions`).  The guard of `changePriority` refuses `processing` and
`completed` only: in every reachable state a valid change is taken exactly by a `queued` or a
`failed` ad (`changePriority_ok_iff_queued_or_failed`), so a failed ad's priority still
moves.

The timestamps do not follow the statuses as closely.  `processingStartedAt` is set exactly
when the status has left `queued` (`startedAt_isSome_iff`), but only `completeProcessing`
stamps `processedAt`: after `failProcessing` the ad is `failed` with no `processedAt`
(`fail_leaves_processedAt_unset`).
-/

namespace AdQueue

/-! ## Runs of calls -/

/-- A call of one business method, with the clock it reads. -/
inductive AdCall where
  | startProcessing (now : Int)
  | completeProcessing (now : Int)
  | failProcessing
  | changePriority (newPriority : Int)
deriving DecidableEq, Repr

/-- The method a call names. -/
def AdCall.apply : AdCall → Ad → Except AdError Ad
  | .startProcessing now, a => a.startProcessing now
  | .completeProcessing now, a => a.completeProcessing now
  | .failProcessing, a => a.failProcessing
  | .changePriority q, a => a.changePriority q

/-- One call whose error is ignored; a failed call leaves the ad as it was. -/
def stepAd (a : Ad) (c : AdCall) : Ad :=
  match c.apply a with
  | .ok a' => a'
  | .error _ => a

/-- The ad after each call of a run, in order. -/
def afterEach (a : Ad) : List AdCall → List Ad
  | [] => []
  | c :: cs => stepAd a c :: afterEach (stepAd a c) cs

theorem stepAd_of_error {a : Ad} {c : AdCall} {e : AdError} (h : c.apply a = .error e) :
    stepAd a c = a := by
  simp [stepAd, h]

theorem stepAd_of_ok {a a' : Ad} {c : AdCall} (h : c.apply a = .ok a') : stepAd a c = a' := by
  simp [stepAd, h]

/-! ## What one call writes -/

/-- The fields of an ad. -/
inductive AdField where
  | id | title | gameFamily | targetAudience | priority | maxWaitTime | status | createdAt
  | processingStartedAt | processedAt | queuePosition | version
deriving DecidableEq, Repr

/-- `a` and `b` hold the same value in field `f`. -/
def Ad.SameAt (a b : Ad) : AdField → Prop
  | .id => a.id = b.id
  | .title => a.title = b.title
  | .gameFamily => a.gameFamily = b.gameFamily
  | .targetAudience => a.targetAudience = b.targetAudience
  | .priority => a.priority = b.priority
  | .maxWaitTime => a.maxWaitTime = b.maxWaitTime
  | .status => a.status = b.status
  | .createdAt => a.createdAt = b.createdAt
  | .processingStartedAt => a.processingStartedAt = b.processingStartedAt
  | .processedAt => a.processedAt = b.processedAt
  | .queuePosition => a.queuePosition = b.queuePosition
  | .version => a.version = b.version

instance (a b : Ad) (f : AdField) : Decidable (a.SameAt b f) := by
  cases f <;> unfold Ad.SameAt <;> infer_instance

/-- The fields each method assigns in its body. -/
def AdCall.writes : AdCall → List AdField
  | .startProcessing _ => [.status, .processingStartedAt, .queuePosition, .version]
  | .completeProcessing _ => [.status, .processedAt, .version]
  | .failProcessing => [.status, .version]
  | .changePriority _ => [.priority, .version]

/-- A call that returns nil raises the version by one and writes no field but its own. -/
theorem AdCall.apply_ok_frame {a a' : Ad} {c : AdCall} (h : c.apply a = .ok a') :
    a'.version = a.version + 1 ∧ ∀ f ∉ c.writes, a.SameAt a' f := by
  cases c with
  | startProcessing now =>
    obtain ⟨-, rfl⟩ := Ad.startProcessing_ok h
    exact ⟨rfl, fun f hf => by cases f <;> first | exact rfl | simp [AdCall.writes] at hf⟩
  | completeProcessing now =>
    obtain ⟨-, rfl⟩ := Ad.completeProcessing_ok h
    exact ⟨rfl, fun f hf => by cases f <;> first | exact rfl | simp [AdCall.writes] at hf⟩
  | failProcessing =>
    obtain ⟨-, rfl⟩ := Ad.failProcessing_ok h
    exact ⟨rfl, fun f hf => by cases f <;> first | exact rfl | simp [AdCall.writes] at hf⟩
  | changePriority q =>
    obtain ⟨-, -, -, -, rfl⟩ := Ad.changePriority_ok h
    exact ⟨rfl, fun f hf => by cases f <;> first | exact rfl | simp [AdCall.writes] at hf⟩

/-- The calls of a run that return nil. -/
def okCount (a : Ad) : List AdCall → Nat
  | [] => 0
  | c :: cs => (c.apply a).isOk.toNat + okCount (stepAd a c) cs

theorem version_stepAd (a : Ad) (c : AdCall) :
    (stepAd a c).version = a.version + (c.apply a).isOk.toNat := by
  cases h : c.apply a with
  | error e => simp [stepAd_of_error h, Except.isOk, Except.toBool]
  | ok a' => simp [stepAd_of_ok h, (AdCall.apply_ok_frame h).1, Except.isOk, Except.toBool]

/-- Over a run, the version grows by the number of calls that returned nil. -/
theorem version_foldl_stepAd (a : Ad) :
    ∀ cs, (cs.foldl stepAd a).version = a.version + okCount a cs
  | [] => by simp [okCount]
  | c :: cs => by
    rw [List.foldl_cons, version_foldl_stepAd, version_stepAd, okCount]
    push_cast
    omega

theorem id_stepAd (a : Ad) (c : AdCall) : (stepAd a c).id = a.id := by
  cases h : c.apply a with
  | error e => rw [stepAd_of_error h]
  | ok a' =>
    rw [stepAd_of_ok h]
    exact ((AdCall.apply_ok_frame h).2 .id (by cases c <;> simp [AdCall.writes])).symm

/-- No call changes the identifier. -/
theorem id_afterEach (a : Ad) : ∀ cs, ∀ s ∈ a :: afterEach a cs, s.id = a.id
  | [], _, hs => by rw [List.mem_singleton.mp hs]
  | c :: cs, s, hs => by
    rcases List.mem_cons.mp hs with rfl | hs
    · rfl
    · rw [id_afterEach (stepAd a c) cs s hs, id_stepAd]

/-! ## The lifecycle the spec draws -/

/-- The edges of the lifecycle: `queued → processing → completed | failed`. -/
def LifecycleEdge (s t : AdStatus) : Prop :=
  (s = .queued ∧ t = .processing) ∨ (s = .processing ∧ (t = .completed ∨ t = .failed))

/-- What one call may do to the status: keep it or take one edge. -/
def StatusStep (s t : AdStatus) : Prop := s = t ∨ LifecycleEdge s t

/-- A status history whose distinct statuses are, in order, a prefix of
`queued → processing → (completed | failed)`. -/
def FollowsLifecycle (l : List AdStatus) : Prop :=
  ∃ i j k t, (t = .completed ∨ t = .failed) ∧ (j = 0 → k = 0) ∧
    l = List.replicate (i + 1) .queued ++ List.replicate j .processing ++ List.replicate k t

theorem statusStep_queued {t : AdStatus} (h : StatusStep .queued t) :
    t = .queued ∨ t = .processing := by
  rcases h with h | ⟨-, h⟩ | ⟨h, -⟩
  · exact .inl h.symm
  · exact .inr h
  · exact absurd h AdStatus.queued_ne_processing

theorem statusStep_processing {t : AdStatus} (h : StatusStep .processing t) :
    t = .processing ∨ t = .completed ∨ t = .failed := by
  rcases h with h | ⟨h, -⟩ | ⟨-, h⟩
  · exact .inl h.symm
  · exact absurd h.symm AdStatus.queued_ne_processing
  · exact .inr h

theorem statusStep_terminal {s t : AdStatus} (hs : s = .completed ∨ s = .failed)
    (h : StatusStep s t) : t = s := by
  rcases h with h | ⟨h, -⟩ | ⟨h, -⟩
  · exact h.symm
  all_goals rcases hs with rfl | rfl <;> simp at h

/-- From a terminal status a chain of steps stays put. -/
theorem chain_terminal {t : AdStatus} (ht : t = .completed ∨ t = .failed) :
    ∀ {l : List AdStatus}, List.Chain StatusStep t l → l = List.replicate l.length t
  | [], _ => rfl
  | x :: l, h => by
    rw [List.chain_cons] at h
    have hx := statusStep_terminal ht h.1
    subst hx
    rw [List.length_cons, List.replicate_succ, ← chain_terminal ht h.2]

/-- From `processing`: more `processing`, then one terminal status. -/
theorem chain_processing : ∀ {l : List AdStatus}, List.Chain StatusStep .processing l →
    ∃ j k t, (t = .completed ∨ t = .failed) ∧
      .processing :: l = List.replicate (j + 1) .processing ++ List.replicate k t
  | [], _ => ⟨0, 0, .completed, .inl rfl, rfl⟩
  | x :: l, h => by
    rw [List.chain_cons] at h
    rcases statusStep_processing h.1 with rfl | hx
    · obtain ⟨j, k, t, ht, he⟩ := chain_processing h.2
      exact ⟨j + 1, k, t, ht, by rw [he]; rfl⟩
    · refine ⟨0, l.length + 1, x, hx, ?_⟩
      rw [chain_terminal hx h.2]
      simp [List.replicate_succ]

/-- A chain of steps from `queued` follows the lifecycle. -/
theorem follows_of_chain : ∀ {l : List AdStatus}, List.Chain StatusStep .queued l →
    FollowsLifecycle (.queued :: l)
  | [], _ => ⟨0, 0, 0, .completed, .inl rfl, fun _ => rfl, rfl⟩
  | x :: l, h => by
    rw [List.chain_cons] at h
    rcases statusStep_queued h.1 with rfl | rfl
    · obtain ⟨i, j, k, t, ht, hjk, he⟩ := follows_of_chain h.2
      exact ⟨i + 1, j, k, t, ht, hjk, by rw [he]; rfl⟩
    · obtain ⟨j, k, t, ht, he⟩ := chain_processing h.2
      exact ⟨0, j + 1, k, t, ht, fun h => absurd h (Nat.succ_ne_zero j), by rw [he]; rfl⟩

theorem FollowsLifecycle.mem_all {l : List AdStatus} (h : FollowsLifecycle l) :
    ∀ s ∈ l, s ∈ AdStatus.all := by
  obtain ⟨i, j, k, t, ht, -, rfl⟩ := h
  intro s hs
  simp only [List.mem_append, List.mem_replicate] at hs
  rcases ht with rfl | rfl <;> rcases hs with (⟨-, rfl⟩ | ⟨-, rfl⟩) | ⟨-, rfl⟩ <;>
    simp [AdStatus.all]

/-! ## Each call is a step of the lifecycle -/

theorem statusStep_stepAd (a : Ad) (c : AdCall) : StatusStep a.status (stepAd a c).status := by
  cases h : c.apply a with
  | error e => rw [stepAd_of_error h]; exact .inl rfl
  | ok a' =>
    rw [stepAd_of_ok h]
    cases c with
    | changePriority q => obtain ⟨-, -, -, -, rfl⟩ := Ad.changePriority_ok h; exact .inl rfl
    | startProcessing now =>
      obtain ⟨hs, rfl⟩ := Ad.startProcessing_ok h
      exact .inr (.inl ⟨hs, rfl⟩)
    | completeProcessing now =>
      obtain ⟨hs, rfl⟩ := Ad.completeProcessing_ok h
      exact .inr (.inr ⟨hs, .inl rfl⟩)
    | failProcessing =>
      obtain ⟨hs, rfl⟩ := Ad.failProcessing_ok h
      exact .inr (.inr ⟨hs, .inr rfl⟩)

theorem priority_stepAd {a : Ad} (c : AdCall) (h : 1 ≤ a.priority ∧ a.priority ≤ 5) :
    1 ≤ (stepAd a c).priority ∧ (stepAd a c).priority ≤ 5 := by
  cases hc : c.apply a with
  | error e => rwa [stepAd_of_error hc]
  | ok a' =>
    rw [stepAd_of_ok hc]
    cases c with
    | changePriority q =>
      obtain ⟨h1, h2, -, -, rfl⟩ := Ad.changePriority_ok hc
      exact ⟨h1, h2⟩
    | startProcessing now => obtain ⟨-, rfl⟩ := Ad.startProcessing_ok hc; exact h
    | completeProcessing now => obtain ⟨-, rfl⟩ := Ad.completeProcessing_ok hc; exact h
    | failProcessing => obtain ⟨-, rfl⟩ := Ad.failProcessing_ok hc; exact h

/-! ## Runs -/

theorem chain_afterEach (a : Ad) :
    ∀ cs, List.Chain StatusStep a.status ((afterEach a cs).map Ad.status)
  | [] => .nil
  | c :: cs => .cons (statusStep_stepAd a c) (chain_afterEach (stepAd a c) cs)

theorem priority_afterEach {a : Ad} (h : 1 ≤ a.priority ∧ a.priority ≤ 5) :
    ∀ cs, ∀ s ∈ afterEach a cs, 1 ≤ s.priority ∧ s.priority ≤ 5
  | [], _, hs => absurd hs (List.not_mem_nil _)
  | c :: cs, s, hs => by
    rcases List.mem_cons.mp hs with rfl | hs
    · exact priority_stepAd c h
    · exact priority_afterEach (priority_stepAd c h) cs s hs

/-- The statuses of every run from a queued ad follow the lifecycle. -/
theorem follows_afterEach {a : Ad} (hq : a.status = .queued) (cs : List AdCall) :
    FollowsLifecycle ((a :: afterEach a cs).map Ad.status) := by
  have hchain := chain_afterEach a cs
  rw [hq] at hchain
  rw [List.map_cons, hq]
  exact follows_of_chain hchain

/-- Every ad the factory builds, under every run of calls whose errors are ignored: each
state has one of the four statuses and a priority in `[1..5]`, and the statuses follow
`queued → processing → (completed | failed)`. -/
theorem createAd_run_follows_lifecycle {id : AdID} {now : Int} {title gameFamily : String}
    {targetAudience : List String} {priority : Int} {maxWaitTime : Int} {a : Ad}
    (h : Factory.createAd id now title gameFamily targetAudience priority maxWaitTime = .ok a)
    (cs : List AdCall) :
    (∀ s ∈ a :: afterEach a cs, s.status ∈ AdStatus.all ∧ 1 ≤ s.priority ∧ s.priority ≤ 5) ∧
      FollowsLifecycle ((a :: afterEach a cs).map Ad.status) := by
  obtain ⟨hq, hp1, hp5, -⟩ := Factory.createAd_ok h
  have hf := follows_afterEach hq cs
  refine ⟨fun s hs => ⟨hf.mem_all s.status (List.mem_map_of_mem _ hs), ?_⟩, hf⟩
  rcases List.mem_cons.mp hs with rfl | hs
  · exact ⟨hp1, hp5⟩
  · exact priority_afterEach ⟨hp1, hp5⟩ cs s hs

theorem createAd_run_follows_lifecycle_at_sample :
    ∃ a, Factory.createAd ⟨"123e4567-e89b-12d3-a456-426614174000"⟩ 0 "Summer sale" "RPG"
        ["all"] 3 300000000000 = .ok a ∧
      let cs := [.startProcessing 1, .changePriority 9, .failProcessing, .changePriority 4]
      (∀ s ∈ a :: afterEach a cs, s.status ∈ AdStatus.all ∧ 1 ≤ s.priority ∧ s.priority ≤ 5) ∧
        FollowsLifecycle ((a :: afterEach a cs).map Ad.status) := by
  have h : Factory.createAd ⟨"123e4567-e89b-12d3-a456-426614174000"⟩ 0 "Summer sale" "RPG"
      ["all"] 3 300000000000 = .ok _ := rfl
  exact ⟨_, h, createAd_run_follows_lifecycle h _⟩

/-- Every ad the factory builds, under every run of calls: in each state, a call that
returns nil raises the version by one and writes only its own fields, and a call that fails
leaves the ad as it was; at the end the version is one more than the calls that returned
nil. -/
theorem createAd_run_versions {id : AdID} {now : Int} {title gameFamily : String}
    {targetAudience : List String} {priority : Int} {maxWaitTime : Int} {a : Ad}
    (h : Factory.createAd id now title gameFamily targetAudience priority maxWaitTime = .ok a)
    (cs : List AdCall) :
    (∀ s ∈ a :: afterEach a cs, ∀ c : AdCall,
      (∀ s', c.apply s = .ok s' → s'.version = s.version + 1 ∧ ∀ f ∉ c.writes, s.SameAt s' f) ∧
        ∀ e, c.apply s = .error e → stepAd s c = s) ∧
      (cs.foldl stepAd a).version = 1 + okCount a cs := by
  refine ⟨fun s _ c => ⟨fun s' hs => AdCall.apply_ok_frame hs, fun e he => stepAd_of_error he⟩, ?_⟩
  rw [version_foldl_stepAd, (Factory.createAd_ok h).2.2.2.1]

theorem createAd_run_versions_at_sample :
    ∃ a, Factory.createAd ⟨"123e4567-e89b-12d3-a456-426614174000"⟩ 0 "Summer sale" "RPG"
        ["all"] 3 300000000000 = .ok a ∧
      let cs := [.startProcessing 1, .changePriority 9, .startProcessing 2, .completeProcessing 3]
      (∀ s ∈ a :: afterEach a cs, ∀ c : AdCall,
        (∀ s', c.apply s = .ok s' → s'.version = s.version + 1 ∧ ∀ f ∉ c.writes, s.SameAt s' f) ∧
          ∀ e, c.apply s = .error e → stepAd s c = s) ∧
        (cs.foldl stepAd a).version = 1 + okCount a cs := by
  have h : Factory.createAd ⟨"123e4567-e89b-12d3-a456-426614174000"⟩ 0 "Summer sale" "RPG"
      ["all"] 3 300000000000 = .ok _ := rfl
  exact ⟨_, h, createAd_run_versions h _⟩

/-- In every state of every run from the factory, a change to a priority in `1 .. 5` is
taken exactly by a `queued` or a `failed` ad. -/
theorem changePriority_ok_iff_queued_or_failed {id : AdID} {now : Int}
    {title gameFamily : String} {targetAudience : List String} {priority : Int}
    {maxWaitTime : Int} {a : Ad}
    (h : Factory.createAd id now title gameFamily targetAudience priority maxWaitTime = .ok a)
    (cs : List AdCall) {s : Ad} (hs : s ∈ a :: afterEach a cs) {q : Int} (hq : 1 ≤ q ∧ q ≤ 5) :
    (s.changePriority q).isOk = true ↔ s.status = .queued ∨ s.status = .failed := by
  have hall := (follows_afterEach (Factory.createAd_ok h).1 cs).mem_all s.status
    (List.mem_map_of_mem _ hs)
  have hv : Priority.isValid q = true := (Priority.isValid_iff q).mpr hq
  simp only [AdStatus.all, List.mem_cons, List.mem_singleton, List.not_mem_nil, or_false] at hall
  rcases hall with hst | hst | hst | hst <;>
    simp [Ad.changePriority, hst, hv, Except.isOk, Except.toBool]

/-- An ad started and then failed takes a new priority. -/
theorem changePriority_ok_iff_queued_or_failed_at_sample :
    ∃ a, Factory.createAd ⟨"123e4567-e89b-12d3-a456-426614174000"⟩ 0 "Summer sale" "RPG"
        ["all"] 3 300000000000 = .ok a ∧
      let s := stepAd (stepAd a (.startProcessing 1)) .failProcessing
      s.status = .failed ∧ (s.changePriority 4).isOk = true := by
  have h : Factory.createAd ⟨"123e4567-e89b-12d3-a456-426614174000"⟩ 0 "Summer sale" "RPG"
      ["all"] 3 300000000000 = .ok _ := rfl
  exact ⟨_, h, rfl, (changePriority_ok_iff_queued_or_failed h [.startProcessing 1, .failProcessing]
    (List.mem_cons_of_mem _ (List.mem_cons_of_mem _ (List.mem_singleton_self _))) (by decide)).mpr
    (.inr rfl)⟩

/-! ## Timestamps -/

/-- What the methods keep true of the timestamps: `processingStartedAt` is set exactly
off `queued`, and `processedAt` exactly at `completed`. -/
def TimestampsAgree (a : Ad) : Prop :=
  (a.processingStartedAt.isSome ↔ a.status ≠ .queued) ∧ (a.processedAt.isSome ↔ a.status = .completed)

theorem timestampsAgree_stepAd {a : Ad} (c : AdCall) (h : TimestampsAgree a) :
    TimestampsAgree (stepAd a c) := by
  cases hc : c.apply a with
  | error e => rwa [stepAd_of_error hc]
  | ok a' =>
    rw [stepAd_of_ok hc]
    obtain ⟨h1, h2⟩ := h
    cases c with
    | changePriority q => obtain ⟨-, -, -, -, rfl⟩ := Ad.changePriority_ok hc; exact ⟨h1, h2⟩
    | startProcessing now =>
      obtain ⟨hs, rfl⟩ := Ad.startProcessing_ok hc
      rw [hs] at h2
      simpa [TimestampsAgree] using h2
    | completeProcessing now =>
      obtain ⟨hs, rfl⟩ := Ad.completeProcessing_ok hc
      simp [TimestampsAgree, h1.2 (by simp [hs])]
    | failProcessing =>
      obtain ⟨hs, rfl⟩ := Ad.failProcessing_ok hc
      rw [hs] at h2
      simpa [TimestampsAgree, h1.2 (by simp [hs])] using h2

theorem timestampsAgree_afterEach {a : Ad} (h : TimestampsAgree a) :
    ∀ cs, ∀ s ∈ afterEach a cs, TimestampsAgree s
  | [], _, hs => absurd hs (List.not_mem_nil _)
  | c :: cs, s, hs => by
    rcases List.mem_cons.mp hs with rfl | hs
    · exact timestampsAgree_stepAd c h
    · exact timestampsAgree_afterEach (timestampsAgree_stepAd c h) cs s hs

/-- Every state of every run from the factory stamps what its status says. -/
theorem timestampsAgree_run {id : AdID} {now : Int} {title gameFamily : String}
    {targetAudience : List String} {priority : Int} {maxWaitTime : Int} {a : Ad}
    (h : Factory.createAd id now title gameFamily targetAudience priority maxWaitTime = .ok a)
    (cs : List AdCall) : ∀ s ∈ a :: afterEach a cs, TimestampsAgree s := by
  obtain ⟨hq, -, -, -, hst, hpr⟩ := Factory.createAd_ok h
  intro s hs
  rcases List.mem_cons.mp hs with rfl | hs
  · simp [TimestampsAgree, hq, hst, hpr]
  · exact timestampsAgree_afterEach (by simp [TimestampsAgree, hq, hst, hpr]) cs s hs

/-- `processingStartedAt` is set exactly when the status has left `queued`, in every state
of every run from the factory. -/
theorem startedAt_isSome_iff {id : AdID} {now : Int} {title gameFamily : String}
    {targetAudience : List String} {priority : Int} {maxWaitTime : Int} {a : Ad}
    (h : Factory.createAd id now title gameFamily targetAudience priority maxWaitTime = .ok a)
    (cs : List AdCall) : ∀ s ∈ a :: afterEach a cs,
      (s.processingStartedAt.isSome ↔
        s.status = .processing ∨ s.status = .completed ∨ s.status = .failed) ∧
      (s.processedAt.isSome ↔ s.status = .completed) := by
  intro s hs
  have hagree := timestampsAgree_run h cs s hs
  have hall := (follows_afterEach (Factory.createAd_ok h).1 cs).mem_all s.status
    (List.mem_map_of_mem _ hs)
  refine ⟨hagree.1.trans ?_, hagree.2⟩
  simp only [AdStatus.all, List.mem_cons, List.mem_singleton, List.not_mem_nil, or_false] at hall
  rcases hall with h | h | h | h <;> simp [h]

/-- A fresh ad started and completed. -/
theorem startedAt_isSome_iff_at_sample :
    ∃ a, Factory.createAd ⟨"123e4567-e89b-12d3-a456-426614174000"⟩ 0 "Summer sale" "RPG"
        ["all"] 3 300000000000 = .ok a ∧
      ∀ s ∈ a :: afterEach a [.startProcessing 1, .completeProcessing 2],
        (s.processingStartedAt.isSome ↔
          s.status = .processing ∨ s.status = .completed ∨ s.status = .failed) ∧
        (s.processedAt.isSome ↔ s.status = .completed) := by
  have h : Factory.createAd ⟨"123e4567-e89b-12d3-a456-426614174000"⟩ 0 "Summer sale" "RPG"
      ["all"] 3 300000000000 = .ok _ := rfl
  exact ⟨_, h, startedAt_isSome_iff h _⟩

/-- A fresh ad started and then failed is `failed` with no `processedAt`. -/
theorem fail_leaves_processedAt_unset :
    ∃ a b, Factory.createAd ⟨"123e4567-e89b-12d3-a456-426614174000"⟩ 0 "Summer sale" "RPG"
        ["all"] 3 300000000000 = .ok a ∧
      (afterEach a [.startProcessing 1, .failProcessing]).getLast? = some b ∧
      b.status = .failed ∧ b.processedAt = none :=
  ⟨_, _, rfl, rfl, rfl, rfl⟩

end AdQueue
