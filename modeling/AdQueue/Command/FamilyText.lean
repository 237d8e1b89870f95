import AdQueue.Command.Service

/-!
# The family command, end to end

The text `Change priority to q for all ads in the g family` through
`CommandService.ExecuteCommand`, with the mock parser and executor, on the in-memory store.
`Parse` lowers the whole text before it matches, and `parsePriorityChangeByGameFamily`
takes the family from the lowered text, so the command carries `g` in lower case
(`parse_familyCommandText`).  `FindByGameFamily` compares that with the stored family
exactly, so the execution rewrites the queued ads whose family is the lower-case `g`
(`executeCommand_family_lowercased`), and none of those whose family has an upper-case
letter.  The family is taken of ASCII runes, on which the model lowers as Go does.

The match is Go's: `\d+` takes the whole priority, and the greedy `.+` stops at the last
` family`, which ends the text, so the group is the whole family even when it contains
` family` itself.  A family with a newline is not matched by `.+`, and is left out.
-/

namespace AdQueue

namespace MockCommandParser

open Text

/-- The text `Change priority to q for all ads in the g family`. -/
def familyCommandText (q : Int) (g : String) : String :=
  "Change priority to " ++ ⟨formatInt q⟩ ++ " for all ads in the " ++ g ++ " family"

/-- `Parse` lowers and trims the family text to its lower-case form. -/
theorem lowered_familyCommandText (q : Int) (g : String) :
    trimSpace (toLower (familyCommandText q g).data) =
      "change priority to ".data ++ (formatInt q ++ (" for all ads in the ".data ++
        (toLower g.data ++ " family".data))) := by
  have hlower : toLower (familyCommandText q g).data = "change priority to ".data ++
      (formatInt q ++ (" for all ads in the ".data ++ (toLower g.data ++ " family".data))) := by
    simp only [familyCommandText, String.data_append, toLower, List.map_append, List.append_assoc]
    rw [show List.map Char.toLower (formatInt q) = formatInt q from toLower_formatInt q]
    rfl
  rw [hlower]
  refine trimSpace_eq_self (by simp [isSpace_of_graphic]) ?_
  rw [List.getLast?_append_of_ne_nil _ (by simp), List.getLast?_append_of_ne_nil _ (by simp),
    List.getLast?_append_of_ne_nil _ (by simp), List.getLast?_append_of_ne_nil _ (by simp)]
  simp [isSpace_of_graphic]

/-- The family pattern on the lowered family text, for a positive priority and a family
without newlines: the whole priority and the whole family are its groups. -/
theorem matchHere_familyPattern (capture : Bool) {q : Int} (hq : 0 < q) {G : List Char}
    (hG : G ≠ []) (hGn : '\n' ∉ G) :
    matchHere (priorityByGameFamilyPattern capture) ("change priority to ".data ++
        (formatInt q ++ (" for all ads in the ".data ++ (G ++ " family".data)))) =
      some (if capture then [formatInt q, G] else []) := by
  obtain ⟨hne, hdig, -⟩ := formatNat_spec q.natAbs
  have hfmt : formatInt q = formatNat q.natAbs := by simp [formatInt, not_lt.mpr hq.le]
  have htail : matchHere (lits " for all ads in the " ++ Atom.dots capture :: lits " family")
      (" for all ads in the ".data ++ (G ++ " family".data)) = some (if capture then [G] else []) := by
    rw [lits, matchHere_lits]
    exact matchHere_dots_lits hG hGn (by decide)
  unfold priorityByGameFamilyPattern
  rw [List.append_assoc, List.cons_append, lits, matchHere_lits, hfmt,
    matchHere_digits hne hdig (by simp) htail]
  cases capture <;> rfl

/-- `Parse` of the family text: a command for the lower-case family. -/
theorem parse_familyCommandText {q : Int} (hq : 1 ≤ q ∧ q ≤ 5) {g : String} (hg : g.data ≠ [])
    (hnl : '\n' ∉ g.data) (hhead : ∀ c ∈ g.data.head?, isSpace c = false)
    (hlast : ∀ c ∈ g.data.getLast?, isSpace c = false) (id : CommandID) (created : Int) :
    parse (familyCommandText q g) id created = .ok (Command.new
      ⟨trimSpace (toLower (familyCommandText q g).data)⟩ .queueModification
      "change_priority_by_game_family" [("priority", .int q), ("gameFamily", .str ⟨toLower g.data⟩)]
      id created) := by
  have hG : toLower g.data ≠ [] := by simpa [toLower] using hg
  have hGn : '\n' ∉ toLower g.data := fun h => by
    obtain ⟨c, hc, he⟩ := List.mem_map.mp h
    have hnot : ¬ (c.toNat ≥ 65 ∧ c.toNat ≤ 90) := fun hu => by
      have := congrArg Char.toNat he
      rw [Char.toLower, if_pos hu, toNat_ofNat_of_lt (by omega)] at this
      exact absurd this (by simp)
    rw [Char.toLower, if_neg hnot] at he
    exact hnl (he ▸ hc)
  have hsub : ∀ capture, findSubmatch (priorityByGameFamilyPattern capture)
      (trimSpace (toLower (familyCommandText q g).data)) =
        some (if capture then [formatInt q, toLower g.data] else []) := fun capture => by
    rw [lowered_familyCommandText, List.cons_append, findSubmatch, ← List.cons_append,
      matchHere_familyPattern capture (by omega) hG hGn]
    rfl
  have hatoi := atoi_formatInt (n := q) (by norm_num; omega) (by norm_num; omega)
  unfold parse
  simp only [matchString, hsub false, Option.isSome_some, if_true]
  simp only [parsePriorityChangeByGameFamily, hsub true, if_true, hatoi]
  rw [if_neg (by simp; omega), trimSpace_toLower hhead hlast]

end MockCommandParser

namespace CommandService

open MockCommandParser MockCommandExecutor Text

/-- For every family `g` of ASCII runes without newlines and with no space at either end, and
every priority `q` from `1` to `5`, the family text through `ExecuteCommand` on the in-memory
store is executed, carries the lower-case `g`, and rewrites the queued ads whose stored
family is the lower-case `g`, counting those with a queue entry.  The text is then ASCII,
where `Text.toLower` is Go's `strings.ToLower`; on other runes Go consults Unicode's case
table, which the model does not carry. -/
theorem executeCommand_family_lowercased (commands : MemoryCommandRepository)
    (st : AdState MemoryAdRepository) {g : String} (_hascii : ∀ c ∈ g.data, c.toNat < 128)
    (hg : g.data ≠ []) (hnl : '\n' ∉ g.data)
    (hhead : ∀ c ∈ g.data.head?, isSpace c = false)
    (hlast : ∀ c ∈ g.data.getLast?, isSpace c = false) {q : Int} (hq : 1 ≤ q ∧ q ≤ 5)
    (id : CommandID) (created now stamp failNow : Int) :
    let run := executeCommand .mock MemoryAdRepository.repository commands st
      (familyCommandText q g) id created now stamp failNow
    run.response.status = CommandStatus.executed.value ∧
      ∃ n msg, run.response.result =
          some (.priorityChangeByGameFamily n ⟨toLower g.data⟩ q msg) ∧
        AdService.Rewrote st.manager (fun a => a.gameFamily = ⟨toLower g.data⟩) q st.store st.queue n
          run.state.store run.state.queue := by
  intro run
  have hparse := parse_familyCommandText hq hg hnl hhead hlast id created
  set cmd := Command.new ⟨trimSpace (toLower (familyCommandText q g).data)⟩ .queueModification
    "change_priority_by_game_family" [("priority", .int q), ("gameFamily", .str ⟨toLower g.data⟩)]
    id created
  have hexec : execute MemoryAdRepository.repository st cmd.startExecution now stamp =
      executePriorityChangeByGameFamily MemoryAdRepository.repository st cmd.startExecution stamp := by
    simp only [execute, cmd, Command.new, Command.startExecution]
  obtain ⟨n, store', db', hrun', hrew⟩ := @executePriorityChangeByGameFamily_memory st
    cmd.startExecution stamp q ⟨toLower g.data⟩
    (by simp [cmd, Command.getPriorityParameter, Command.getIntParameter, List.lookup, hq.1, hq.2])
    (by simp [cmd, Command.getStringParameter, List.lookup])
  have hcan : canExecute cmd = true := by simp [cmd, canExecute, supportedIntents]
  have hrun : run = executeParsed .mock MemoryAdRepository.repository commands st cmd now stamp
      failNow := by
    simp only [run, executeCommand, CommandParser.parse, hparse]
  rw [hrun, executeParsed]
  simp only [CommandParser.validateCommand, MockCommandParser.parse_validates hparse]
  rw [if_neg (by simp [hcan]), hexec, hrun']
  exact ⟨rfl, n, _, rfl, hrew⟩

/-- The family `RPG-Fantasy` at priority `5`, over one queued ad of that family: the
command is executed for `rpg-fantasy`, modifies no ad, and the ad keeps its priority. -/
theorem executeCommand_family_lowercased_at_sample :
    let qm : RedisQueueManager := ⟨⟨true, 300000000000, 2, 10, 60000000000⟩, 2⟩
    let ad : Ad := ⟨⟨"123e4567-e89b-12d3-a456-426614174000"⟩, "Summer sale", "RPG-Fantasy", ["all"],
      3, 300000000000, .queued, 0, none, none, none, 1⟩
    let st : AdState MemoryAdRepository :=
      ⟨⟨[ad], List.nodup_singleton _⟩, qm.enqueue Shards.empty ad.id 3 0, qm⟩
    let run := executeCommand .mock MemoryAdRepository.repository MemoryCommandRepository.empty st
      (familyCommandText 5 "RPG-Fantasy") ⟨"123e4567-e89b-12d3-a456-426614174001"⟩ 0 0 0 0
    run.response.status = CommandStatus.executed.value ∧ run.state.store.ads = [ad] ∧
      ∃ msg, run.response.result = some (.priorityChangeByGameFamily 0 "rpg-fantasy" 5 msg) := by
  intro qm ad st run
  obtain ⟨hstatus, n, msg, hres, hrew⟩ := executeCommand_family_lowercased
    MemoryCommandRepository.empty st (g := "RPG-Fantasy") (by decide) (by decide) (by decide)
    (by simp [isSpace_of_graphic]) (by simp [isSpace_of_graphic]) (q := 5) ⟨by decide, by decide⟩
    ⟨"123e4567-e89b-12d3-a456-426614174001"⟩ 0 0 0 0
  have hsel : (decide (ad.gameFamily = ⟨toLower "RPG-Fantasy".data⟩) && decide (ad.status = .queued)) =
      false := by decide
  have hn : n = 0 := by simpa [hsel, st] using hrew.count
  refine ⟨hstatus, ?_, msg, hn ▸ hres⟩
  rw [hrew.ads]
  simp only [st, List.map_cons, List.map_nil, MemoryAdRepository.bump, hsel]
  rfl

end CommandService

end AdQueue
