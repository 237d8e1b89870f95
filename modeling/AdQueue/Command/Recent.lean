import AdQueue.Command.Service
import AdQueue.Domain.GoMap

/-!
# Recent commands

The reads of `MemoryCommandRepository` besides `FindByID`, and the `GetRecentCommands` of
the service and of the HTTP handler.

`FindRecent` and `FindByStatus` copy the map into a slice and sort it with `sort.Slice`,
newest first.  Go's sort is not stable, and the map's order is unspecified, so two commands
created at the same instant may come either way.  `newestFirst` is one such order
(`mergeSort`).  The statements below use only that its result is a permutation sorted
newest first, so they hold for every order Go may give.  `FindRecent` keeps the first
`limit` only when `0 < limit < N`: a limit of zero or below returns every command
(`findRecent_newest`).

`CleanupOldCommands` deletes, while it ranges over the map, every command created before
`now - maxAge` and counts the deletions (`cleanupTurn`).  Each entry is visited once and
only the key visited is deleted (`foldl_cleanupTurn`), and the keys are distinct, so the
loop keeps exactly the commands from the threshold on and counts the others
(`cleanupOldCommands_eq`, `cleanupOldCommands_spec`).

The handler reads `limit` from the query, `"10"` when it is absent, and refuses a text
`strconv.Atoi` rejects or a value outside `1..100`.  A limit of zero or below, which would
list every command, never reaches `FindRecent` through it (`getRecentCommands_reply`).
-/

namespace AdQueue

namespace MemoryCommandRepository

/-- `sort.Slice` with `CreatedAt().After`: newest first. -/
def newestFirst (cmds : List Command) : List Command :=
  cmds.mergeSort fun a b => decide (b.createdAt ≤ a.createdAt)

/-- `FindRecent`: the stored commands newest first, the first `limit` of them when
`0 < limit < N`.  Its error is always nil. -/
def findRecent (r : MemoryCommandRepository) (limit : Int) : List Command :=
  let commands := newestFirst (r.commands.map Prod.snd)
  if 0 < limit ∧ limit < commands.length then commands.take limit.toNat else commands

/-- `FindByStatus`: the stored commands of the status, newest first. -/
def findByStatus (r : MemoryCommandRepository) (status : CommandStatus) : List Command :=
  newestFirst ((r.commands.map Prod.snd).filter fun c => c.status = status)

/-- `delete(r.commands, id)`. -/
def delete (r : MemoryCommandRepository) (id : String) : MemoryCommandRepository :=
  ⟨r.commands.filter fun p => p.1 ≠ id, r.nodup.sublist ((List.filter_sublist _).map _)⟩

/-- One turn of the `range` loop of `CleanupOldCommands`: the entry visited is deleted and
counted when its command was created before the threshold. -/
def cleanupTurn (threshold : Int) (acc : Int × MemoryCommandRepository) (e : String × Command) :
    Int × MemoryCommandRepository :=
  if e.2.createdAt < threshold then (acc.1 + 1, acc.2.delete e.1) else acc

/-- `CleanupOldCommands(maxAge)` at clock `now`: the `range` over the map with the
threshold `now.Add(-maxAge)`, from a count of `0`, visiting the entries in the order of the
list. -/
def cleanupOldCommands (r : MemoryCommandRepository) (maxAge now : Int) :
    Int × MemoryCommandRepository :=
  r.commands.foldl (cleanupTurn (now + negDuration maxAge)) (0, r)

end MemoryCommandRepository

/-- `CommandService.GetRecentCommands`: the repository's `FindRecent`. -/
def CommandService.getRecentCommands (commands : MemoryCommandRepository) (limit : Int) :
    List Command :=
  commands.findRecent limit

/-- The body of `CommandHandler.GetRecentCommands`: an `ErrorResponse`, or the commands and
their count. -/
inductive RecentCommandsReply where
  | error (error : String)
  | commands (commands : List Command) (count : Int)
deriving DecidableEq, Repr

open Text in
/-- `CommandHandler.GetRecentCommands` on the query value of `limit`, if any: the HTTP
status and the body. -/
def CommandHandler.getRecentCommands (commands : MemoryCommandRepository)
    (limitQuery : Option String) : Nat × RecentCommandsReply :=
  let limitStr := limitQuery.getD "10"
  let limit := atoi limitStr.data
  if !limit.2 ∨ limit.1 ≤ 0 ∨ 100 < limit.1 then
    (400, .error "Limit must be a positive integer between 1 and 100")
  else
    let cmds := CommandService.getRecentCommands commands limit.1
    (200, .commands cmds cmds.length)

namespace MemoryCommandRepository

/-! ## Newest first -/

/-- Newer first: `b` is not newer than `a`. -/
def NewerEq (a b : Command) : Prop := b.createdAt ≤ a.createdAt

theorem newestFirst_perm (cmds : List Command) : (newestFirst cmds).Perm cmds :=
  List.mergeSort_perm _ _

theorem newestFirst_sorted (cmds : List Command) : (newestFirst cmds).Sorted NewerEq := by
  have h : (newestFirst cmds).Pairwise fun a b => decide (b.createdAt ≤ a.createdAt) :=
    List.sorted_mergeSort (fun a b c hab hbc => by simp only [decide_eq_true_eq] at *; omega)
    (fun a b => by simpa using le_total b.createdAt a.createdAt) cmds
  exact h.imp fun hab => by simpa [NewerEq] using hab

/-- `sel` holds the `k` newest of `all`, newest first: `k` of them, or all when fewer, and
no command left out is newer than a command kept. -/
def IsNewest (k : Nat) (all sel : List Command) : Prop :=
  sel.length = min k all.length ∧ sel.Sorted NewerEq ∧
    ∃ rest, all.Perm (sel ++ rest) ∧ ∀ x ∈ sel, ∀ y ∈ rest, y.createdAt ≤ x.createdAt

/-- The first `k` of a permutation sorted newest first are the `k` newest. -/
theorem isNewest_take {all S : List Command} (hS : S.Perm all) (hs : S.Sorted NewerEq) (k : Nat) :
    IsNewest k all (S.take k) := by
  have hsplit := hs
  rw [← List.take_append_drop k S] at hsplit
  refine ⟨by rw [List.length_take, hS.length_eq], hs.sublist (List.take_sublist _ _), S.drop k,
    ?_, (List.pairwise_append.mp hsplit).2.2⟩
  rw [List.take_append_drop]
  exact hS.symm

theorem findRecent_isNewest (r : MemoryCommandRepository) (limit : Int) :
    IsNewest (if 0 < limit then limit.toNat else r.commands.length) (r.commands.map Prod.snd)
      (r.findRecent limit) := by
  have hperm := newestFirst_perm (r.commands.map Prod.snd)
  have hsorted := newestFirst_sorted (r.commands.map Prod.snd)
  have hlen := hperm.length_eq
  rw [List.length_map] at hlen
  unfold findRecent
  dsimp only
  by_cases hpos : 0 < limit
  · rw [if_pos hpos]
    split_ifs with h
    · exact isNewest_take hperm hsorted _
    · have := isNewest_take hperm hsorted limit.toNat
      rwa [List.take_of_length_le (by omega)] at this
  · rw [if_neg hpos, if_neg fun h => hpos h.1]
    have := isNewest_take hperm hsorted r.commands.length
    rwa [List.take_of_length_le (by omega)] at this

/-- `FindRecent` with a positive limit lists the `limit` newest commands, newest first, and
with a limit of zero or below every command, newest first; `FindByStatus` lists exactly
the commands of the status, newest first. -/
theorem reads_newest_first (r : MemoryCommandRepository) (limit : Int) (status : CommandStatus) :
    IsNewest (if 0 < limit then limit.toNat else r.commands.length) (r.commands.map Prod.snd)
      (r.findRecent limit) ∧
    (r.findByStatus status).Perm ((r.commands.map Prod.snd).filter fun c => c.status = status) ∧
    (r.findByStatus status).Sorted NewerEq :=
  ⟨findRecent_isNewest r limit, newestFirst_perm _, newestFirst_sorted _⟩

/-! ## Cleanup -/

/-- The run of the loop over the entries `l`: it counts the old commands of `l` and deletes
their keys. -/
theorem foldl_cleanupTurn (threshold : Int) : ∀ (l : List (String × Command)) (n : Int)
    (s : MemoryCommandRepository), (l.foldl (cleanupTurn threshold) (n, s)).1 =
      n + l.countP (fun e => e.2.createdAt < threshold) ∧
    (l.foldl (cleanupTurn threshold) (n, s)).2.commands =
      s.commands.filter fun p => p.1 ∉ (l.filter fun e => e.2.createdAt < threshold).map Prod.fst
  | [], n, s => by simp
  | e :: l, n, s => by
    rw [List.foldl_cons, cleanupTurn]
    split_ifs with hold
    · obtain ⟨h1, h2⟩ := foldl_cleanupTurn threshold l (n + 1) (s.delete e.1)
      refine ⟨by rw [h1, List.countP_cons_of_pos _ _ (by simpa using hold)]; omega, ?_⟩
      rw [h2, delete, List.filter_filter, List.filter_cons_of_pos (by simpa using hold)]
      refine List.filter_congr fun p _ => ?_
      simp only [List.map_cons, List.mem_cons, not_or, Bool.decide_and]
      exact Bool.and_comm _ _
    · obtain ⟨h1, h2⟩ := foldl_cleanupTurn threshold l n s
      rw [h1, h2, List.countP_cons_of_neg _ _ (by simpa using hold),
        List.filter_cons_of_neg (by simpa using hold)]
      exact ⟨rfl, rfl⟩

/-- The loop from the whole map: on distinct keys, deleting the keys of the old commands
keeps exactly the commands created at or after the threshold. -/
theorem cleanupOldCommands_eq (r : MemoryCommandRepository) (maxAge now : Int) :
    (r.cleanupOldCommands maxAge now).1 =
        r.commands.countP (fun p => p.2.createdAt < now + negDuration maxAge) ∧
      (r.cleanupOldCommands maxAge now).2.commands =
        r.commands.filter fun p => ¬ p.2.createdAt < now + negDuration maxAge := by
  obtain ⟨h1, h2⟩ := foldl_cleanupTurn (now + negDuration maxAge) r.commands 0 r
  refine ⟨by rw [cleanupOldCommands, h1, zero_add], ?_⟩
  rw [cleanupOldCommands, h2]
  refine List.filter_congr fun e he => decide_eq_decide.mpr ⟨fun hk hlt => hk ?_, fun hnot hk => ?_⟩
  · exact List.mem_map.mpr ⟨e, List.mem_filter.mpr ⟨he, by simpa using hlt⟩, rfl⟩
  · obtain ⟨e', he', hk'⟩ := List.mem_map.mp hk
    obtain ⟨he'l, hlt⟩ := List.mem_filter.mp he'
    rw [List.inj_on_of_nodup_map r.nodup he'l he hk'] at hlt
    exact hnot (by simpa using hlt)

/-- `CleanupOldCommands(maxAge)` at `now` returns the number of commands it deleted; a
lookup afterwards finds a command exactly when it was stored and created at or after
`now.Add(-maxAge)`, and finds it unchanged. -/
theorem cleanupOldCommands_spec (r : MemoryCommandRepository) (maxAge now : Int) (id : CommandID) :
    (r.cleanupOldCommands maxAge now).1 + (r.cleanupOldCommands maxAge now).2.commands.length =
      r.commands.length ∧
    (r.cleanupOldCommands maxAge now).2.findByID id =
      match r.findByID id with
      | .ok c => if c.createdAt < now + negDuration maxAge then .error errCommandNotFound else .ok c
      | .error e => .error e := by
  obtain ⟨hcount, hkept⟩ := cleanupOldCommands_eq r maxAge now
  refine ⟨?_, ?_⟩
  · rw [hcount, hkept, ← List.countP_eq_length_filter]
    have := List.length_eq_countP_add_countP (fun p : String × Command =>
      decide (p.2.createdAt < now + negDuration maxAge)) r.commands
    simp only [decide_not, decide_eq_true_eq] at *
    omega
  · simp only [findByID, hkept, lookup_filter_of_nodup r.nodup]
    cases r.commands.lookup id.value with
    | none => rfl
    | some c =>
      by_cases h : c.createdAt < now + negDuration maxAge <;> simp [Option.filter, h]

end MemoryCommandRepository

/-! ## The handler -/

open Text in
/-- Through the handler, a `200` reply lists the `n` newest commands for some `n` from `1` to
`100`, `10` when the query has no `limit`, so never more than `100`, with their count; a
limit `Atoi` rejects, or reads as zero or below, or above `100`, gets `400`.  The `limit ≤ 0`
branch of `FindRecent`, which lists every command, is out of reach. -/
theorem getRecentCommands_reply (r : MemoryCommandRepository) (limitQuery : Option String) :
    ((!(atoi (limitQuery.getD "10").data).2 ∨ (atoi (limitQuery.getD "10").data).1 ≤ 0 ∨
        100 < (atoi (limitQuery.getD "10").data).1) →
      CommandHandler.getRecentCommands r limitQuery =
        (400, .error "Limit must be a positive integer between 1 and 100")) ∧
    ∀ cmds count, (CommandHandler.getRecentCommands r limitQuery).2 = .commands cmds count →
      (CommandHandler.getRecentCommands r limitQuery).1 = 200 ∧ count = cmds.length ∧
      cmds.length ≤ 100 ∧ ∃ n : Nat, 1 ≤ n ∧ n ≤ 100 ∧
        MemoryCommandRepository.IsNewest n (r.commands.map Prod.snd) cmds ∧
        (limitQuery = none → n = 10) := by
  unfold CommandHandler.getRecentCommands
  dsimp only
  refine ⟨fun h => if_pos h, fun cmds count h => ?_⟩
  split_ifs at h ⊢ with hbad
  simp only [not_or, Bool.not_eq_true', Bool.not_eq_false, not_le] at hbad
  obtain ⟨hok, hpos, hle⟩ := hbad
  injection h with hcmds hcount
  subst hcmds hcount
  have hnew := MemoryCommandRepository.findRecent_isNewest r (atoi (limitQuery.getD "10").data).1
  rw [if_pos hpos] at hnew
  refine ⟨rfl, rfl, ?_, _, by omega, by omega, hnew, fun hq => ?_⟩
  · rw [CommandService.getRecentCommands, hnew.1]
    omega
  · subst hq
    have : atoi "10".data = (10, true) := by decide
    simp only [Option.getD_none, this] at hpos ⊢
    rfl

open Text in
/-- With no `limit` in the query, an empty store answers `200` and no command. -/
theorem getRecentCommands_reply_at_empty :
    (CommandHandler.getRecentCommands MemoryCommandRepository.empty none).1 = 200 :=
  ((getRecentCommands_reply MemoryCommandRepository.empty none).2 [] 0 (by
    simp [CommandHandler.getRecentCommands, CommandService.getRecentCommands,
      MemoryCommandRepository.findRecent, MemoryCommandRepository.newestFirst,
      MemoryCommandRepository.empty]
    decide)).1

end AdQueue
