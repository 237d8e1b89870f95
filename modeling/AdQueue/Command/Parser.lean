import AdQueue.Command.Entity
import AdQueue.Text.Regexp

/-!
# The command parsers

`MockCommandParser` lowers the text, trims it, and tries seven patterns in order: five
regular expressions, a `strings.Contains`, and one more regular expression.  The first
that matches picks the `parseX` method, which runs the same expression with capture groups
and reads the numbers with `strconv.Atoi`.  Each pattern is one definition with a `capture`
flag: `false` is the expression `Parse` matches, `true` the one with groups that the
method runs.

`GoogleADKCommandParser` asks a remote model for a JSON object and builds the command from
its intent, type and parameter map; any failure on the way, the model's own refusal
included, falls back to the mock parser.  The HTTP call and the decoding are its input: the
decoded object, or an error.  Both parsers validate with the mock parser's
`ValidateCommand`.  `CommandParser` is the choice between the two.

`validateCommand_eq_ok` says what `ValidateCommand` accepts: for each intent, the
parameters it reads are present with the type its read asks for, the priority valid and
the count positive after `int(f)`; nothing else is checked.  `parse_eq_new` says that a
command either parser returns is a new command, built at the parse's clock with its
identifier.
-/

namespace AdQueue

namespace MockCommandParser

open Text

/-! ## The patterns -/

/-- `change priority to \d+ for all ads in the .+ family`; with `capture`,
`change priority to (\d+) for all ads in the (.+) family`. -/
def priorityByGameFamilyPattern (capture : Bool) : List Atom :=
  lits "change priority to " ++ .digits capture :: lits " for all ads in the " ++
    .dots capture :: lits " family"

/-- `set priority to \d+ for ads older than \d+ minutes?`, with the two numbers as groups
when `capture`. -/
def priorityByAgePattern (capture : Bool) : List Atom :=
  lits "set priority to " ++ .digits capture :: lits " for ads older than " ++
    .digits capture :: lits " minute" ++ [.opt 's']

/-- `show the next \d+ ads to be processed`, with the count as a group when `capture`. -/
def showNextAdsPattern (capture : Bool) : List Atom :=
  lits "show the next " ++ .digits capture :: lits " ads to be processed"

/-- `what.s the current queue distribution by priority`. -/
def queueDistributionPattern : List Atom :=
  lits "what" ++ .dot :: lits "s the current queue distribution by priority"

/-- `list all ads waiting longer than \d+ minutes?`, with the minutes as a group when
`capture`. -/
def waitingAdsPattern (capture : Bool) : List Atom :=
  lits "list all ads waiting longer than " ++ .digits capture :: lits " minute" ++ [.opt 's']

/-- `set maximum wait time to \d+ seconds?`, with the seconds as a group when `capture`. -/
def maxWaitTimePattern (capture : Bool) : List Atom :=
  lits "set maximum wait time to " ++ .digits capture :: lits " second" ++ [.opt 's']

/-! ## The methods of each pattern -/

/-- `parsePriorityChangeByGameFamily`. -/
def parsePriorityChangeByGameFamily (text : List Char) (id : CommandID) (now : Int) :
    Except String Command :=
  match findSubmatch (priorityByGameFamilyPattern true) text with
  | some [p, g] =>
    if (atoi p).2 = false ∨ (atoi p).1 < 1 ∨ 5 < (atoi p).1 then .error "invalid priority value"
    else .ok (Command.new ⟨text⟩ .queueModification "change_priority_by_game_family"
      [("priority", .int (atoi p).1), ("gameFamily", .str ⟨trimSpace g⟩)] id now)
  | _ => .error "invalid priority change command"

/-- `parsePriorityChangeByAge`. -/
def parsePriorityChangeByAge (text : List Char) (id : CommandID) (now : Int) :
    Except String Command :=
  match findSubmatch (priorityByAgePattern true) text with
  | some [p, m] =>
    if (atoi p).2 = false ∨ (atoi p).1 < 1 ∨ 5 < (atoi p).1 then .error "invalid priority value"
    else if (atoi m).2 = false then .error "invalid minutes value"
    else .ok (Command.new ⟨text⟩ .queueModification "change_priority_by_age"
      [("priority", .int (atoi p).1), ("minutes", .int (atoi m).1)] id now)
  | _ => .error "invalid priority change command"

/-- `parseShowNextAds`. -/
def parseShowNextAds (text : List Char) (id : CommandID) (now : Int) : Except String Command :=
  match findSubmatch (showNextAdsPattern true) text with
  | some [c] =>
    if (atoi c).2 = false ∨ (atoi c).1 ≤ 0 then .error "invalid count value"
    else .ok (Command.new ⟨text⟩ .statusQuery "show_next_ads" [("count", .int (atoi c).1)] id now)
  | _ => .error "invalid show next ads command"

/-- `parseQueueDistribution`. -/
def parseQueueDistribution (text : List Char) (id : CommandID) (now : Int) :
    Except String Command :=
  .ok (Command.new ⟨text⟩ .analytics "queue_distribution" [] id now)

/-- `parseWaitingAds`. -/
def parseWaitingAds (text : List Char) (id : CommandID) (now : Int) : Except String Command :=
  match findSubmatch (waitingAdsPattern true) text with
  | some [m] =>
    if (atoi m).2 = false then .error "invalid minutes value"
    else .ok (Command.new ⟨text⟩ .statusQuery "waiting_ads" [("minutes", .int (atoi m).1)] id now)
  | _ => .error "invalid waiting ads command"

/-- `parseEnableStarvationMode`. -/
def parseEnableStarvationMode (text : List Char) (id : CommandID) (now : Int) :
    Except String Command :=
  .ok (Command.new ⟨text⟩ .systemConfiguration "enable_starvation_mode" [] id now)

/-- `parseSetMaxWaitTime`. -/
def parseSetMaxWaitTime (text : List Char) (id : CommandID) (now : Int) :
    Except String Command :=
  match findSubmatch (maxWaitTimePattern true) text with
  | some [s] =>
    if (atoi s).2 = false then .error "invalid seconds value"
    else .ok (Command.new ⟨text⟩ .systemConfiguration "set_max_wait_time"
      [("seconds", .int (atoi s).1)] id now)
  | _ => .error "invalid max wait time command"

/-- `Parse`, with the fresh identifier and the clock of `NewCommand` as inputs. -/
def parse (text : String) (id : CommandID) (now : Int) : Except String Command :=
  let t := trimSpace (toLower text.data)
  if matchString (priorityByGameFamilyPattern false) t then parsePriorityChangeByGameFamily t id now
  else if matchString (priorityByAgePattern false) t then parsePriorityChangeByAge t id now
  else if matchString (showNextAdsPattern false) t then parseShowNextAds t id now
  else if matchString queueDistributionPattern t then parseQueueDistribution t id now
  else if matchString (waitingAdsPattern false) t then parseWaitingAds t id now
  else if contains t "enable starvation mode".data then parseEnableStarvationMode t id now
  else if matchString (maxWaitTimePattern false) t then parseSetMaxWaitTime t id now
  else .error ("unable to parse command: " ++ ⟨t⟩)

/-- `ValidateCommand`. -/
def validateCommand (cmd : Command) : Except String Unit :=
  match cmd.intent with
  | "change_priority_by_game_family" =>
    if (cmd.getPriorityParameter "priority").isNone then .error "missing or invalid priority parameter"
    else if (cmd.getStringParameter "gameFamily").isNone then .error "missing gameFamily parameter"
    else .ok ()
  | "change_priority_by_age" =>
    if (cmd.getPriorityParameter "priority").isNone then .error "missing or invalid priority parameter"
    else if (cmd.getIntParameter "minutes").isNone then .error "missing minutes parameter"
    else .ok ()
  | "show_next_ads" =>
    match cmd.getIntParameter "count" with
    | some count => if count ≤ 0 then .error "missing or invalid count parameter" else .ok ()
    | none => .error "missing or invalid count parameter"
  | "waiting_ads" =>
    if (cmd.getIntParameter "minutes").isNone then .error "missing minutes parameter" else .ok ()
  | "set_max_wait_time" =>
    if (cmd.getIntParameter "seconds").isNone then .error "missing seconds parameter" else .ok ()
  | _ => .ok ()

/-! ## What the methods return -/

theorem parsePriorityChangeByGameFamily_ok {t : List Char} {id : CommandID} {now : Int}
    {cmd : Command} (h : parsePriorityChangeByGameFamily t id now = .ok cmd) :
    ∃ p g, 1 ≤ p ∧ p ≤ 5 ∧ cmd = Command.new ⟨t⟩ .queueModification
      "change_priority_by_game_family" [("priority", .int p), ("gameFamily", .str g)] id now := by
  unfold parsePriorityChangeByGameFamily at h
  split at h
  · split_ifs at h with hp
    simp only [not_or, not_lt] at hp
    exact ⟨_, _, hp.2.1, hp.2.2, (Except.ok.inj h).symm⟩
  · cases h

theorem parsePriorityChangeByAge_ok {t : List Char} {id : CommandID} {now : Int} {cmd : Command}
    (h : parsePriorityChangeByAge t id now = .ok cmd) :
    ∃ p m, 1 ≤ p ∧ p ≤ 5 ∧ cmd = Command.new ⟨t⟩ .queueModification
      "change_priority_by_age" [("priority", .int p), ("minutes", .int m)] id now := by
  unfold parsePriorityChangeByAge at h
  split at h
  · split_ifs at h with hp
    simp only [not_or, not_lt] at hp
    exact ⟨_, _, hp.2.1, hp.2.2, (Except.ok.inj h).symm⟩
  · cases h

theorem parseShowNextAds_ok {t : List Char} {id : CommandID} {now : Int} {cmd : Command}
    (h : parseShowNextAds t id now = .ok cmd) :
    ∃ c, 0 < c ∧ cmd = Command.new ⟨t⟩ .statusQuery "show_next_ads" [("count", .int c)] id now := by
  unfold parseShowNextAds at h
  split at h
  · split_ifs at h with hc
    simp only [not_or, not_le] at hc
    exact ⟨_, hc.2, (Except.ok.inj h).symm⟩
  · cases h

theorem parseWaitingAds_ok {t : List Char} {id : CommandID} {now : Int} {cmd : Command}
    (h : parseWaitingAds t id now = .ok cmd) :
    ∃ m, cmd = Command.new ⟨t⟩ .statusQuery "waiting_ads" [("minutes", .int m)] id now := by
  unfold parseWaitingAds at h
  split at h
  · split_ifs at h
    exact ⟨_, (Except.ok.inj h).symm⟩
  · cases h

theorem parseSetMaxWaitTime_ok {t : List Char} {id : CommandID} {now : Int} {cmd : Command}
    (h : parseSetMaxWaitTime t id now = .ok cmd) :
    ∃ s, cmd = Command.new ⟨t⟩ .systemConfiguration "set_max_wait_time" [("seconds", .int s)]
      id now := by
  unfold parseSetMaxWaitTime at h
  split at h
  · split_ifs at h
    exact ⟨_, (Except.ok.inj h).symm⟩
  · cases h

/-- Everything `Parse` returns: a new command of the lowered, trimmed text, of one of the
seven intents, with the parameters of its method, the priority valid and the count
positive. -/
theorem parse_cases {text : String} {id : CommandID} {now : Int} {cmd : Command}
    (h : parse text id now = .ok cmd) :
    let t : String := ⟨trimSpace (toLower text.data)⟩
    (∃ p g, 1 ≤ p ∧ p ≤ 5 ∧ cmd = Command.new t .queueModification
      "change_priority_by_game_family" [("priority", .int p), ("gameFamily", .str g)] id now) ∨
    (∃ p m, 1 ≤ p ∧ p ≤ 5 ∧ cmd = Command.new t .queueModification
      "change_priority_by_age" [("priority", .int p), ("minutes", .int m)] id now) ∨
    (∃ c, 0 < c ∧ cmd = Command.new t .statusQuery "show_next_ads" [("count", .int c)] id now) ∨
    cmd = Command.new t .analytics "queue_distribution" [] id now ∨
    (∃ m, cmd = Command.new t .statusQuery "waiting_ads" [("minutes", .int m)] id now) ∨
    cmd = Command.new t .systemConfiguration "enable_starvation_mode" [] id now ∨
    (∃ s, cmd = Command.new t .systemConfiguration "set_max_wait_time" [("seconds", .int s)]
      id now) := by
  simp only [parse, ite_eq_iff] at h
  rcases h with ⟨-, h⟩ | ⟨-, ⟨-, h⟩ | ⟨-, ⟨-, h⟩ | ⟨-, ⟨-, h⟩ | ⟨-, ⟨-, h⟩ | ⟨-, ⟨-, h⟩ | ⟨-, ⟨-, h⟩ |
    ⟨-, ⟨⟩⟩⟩⟩⟩⟩⟩⟩
  · exact .inl (parsePriorityChangeByGameFamily_ok h)
  · exact .inr (.inl (parsePriorityChangeByAge_ok h))
  · exact .inr (.inr (.inl (parseShowNextAds_ok h)))
  · exact .inr (.inr (.inr (.inl (Except.ok.inj h).symm)))
  · exact .inr (.inr (.inr (.inr (.inl (parseWaitingAds_ok h)))))
  · exact .inr (.inr (.inr (.inr (.inr (.inl (Except.ok.inj h).symm)))))
  · exact .inr (.inr (.inr (.inr (.inr (.inr (parseSetMaxWaitTime_ok h))))))

/-- `Parse` returns a new command of the lowered, trimmed text, at its clock and with its
identifier. -/
theorem parse_eq_new {text : String} {id : CommandID} {now : Int} {cmd : Command}
    (h : parse text id now = .ok cmd) :
    ∃ ty intent params, cmd = Command.new ⟨trimSpace (toLower text.data)⟩ ty intent params id now := by
  rcases parse_cases h with ⟨_, _, -, -, rfl⟩ | ⟨_, _, -, -, rfl⟩ | ⟨_, -, rfl⟩ | rfl | ⟨_, rfl⟩ |
    rfl | ⟨_, rfl⟩ <;> exact ⟨_, _, _, rfl⟩

/-- What `ValidateCommand` accepts: for each intent, the parameters it reads present with
the type the read asks for, a valid priority, and a positive count. -/
theorem validateCommand_eq_ok (cmd : Command) :
    validateCommand cmd = .ok () ↔
      (cmd.intent = "change_priority_by_game_family" →
        cmd.getPriorityParameter "priority" ≠ none ∧ cmd.getStringParameter "gameFamily" ≠ none) ∧
      (cmd.intent = "change_priority_by_age" →
        cmd.getPriorityParameter "priority" ≠ none ∧ cmd.getIntParameter "minutes" ≠ none) ∧
      (cmd.intent = "show_next_ads" → ∃ count, cmd.getIntParameter "count" = some count ∧ 0 < count) ∧
      (cmd.intent = "waiting_ads" → cmd.getIntParameter "minutes" ≠ none) ∧
      (cmd.intent = "set_max_wait_time" → cmd.getIntParameter "seconds" ≠ none) := by
  unfold validateCommand
  split
  · split_ifs with h1 h2 <;> simp_all
  · split_ifs with h1 h2 <;> simp_all
  · split
    · split_ifs with h1 <;> simp_all
    · simp_all
  · split_ifs with h1 <;> simp_all
  · split_ifs with h1 <;> simp_all
  · simp_all

/-- The mock parser returns only commands its own validation accepts. -/
theorem parse_validates {text : String} {id : CommandID} {now : Int} {cmd : Command}
    (h : parse text id now = .ok cmd) : validateCommand cmd = .ok () := by
  rcases parse_cases h with ⟨_, _, h1, h5, rfl⟩ | ⟨_, _, h1, h5, rfl⟩ | ⟨_, hc, rfl⟩ | rfl |
    ⟨_, rfl⟩ | rfl | ⟨_, rfl⟩
  all_goals simp [validateCommand, Command.new, Command.getPriorityParameter,
    Command.getIntParameter, Command.getStringParameter, List.lookup, *]

end MockCommandParser

/-- The JSON object the remote model answers, decoded. -/
structure APICommand where
  intent : String
  type : String
  parameters : Params
  valid : Bool
  error : Option String
deriving DecidableEq, Repr

namespace GoogleADKCommandParser

/-- `parseCommandType`. -/
def parseCommandType : String → CommandType
  | "queue_modification" => .queueModification
  | "system_configuration" => .systemConfiguration
  | "status_query" => .statusQuery
  | "analytics" => .analytics
  | _ => .statusQuery

/-- `parseAPIResponse`, past the checks on the envelope. -/
def parseAPIResponse (originalText : String) (parsed : APICommand) (id : CommandID) (now : Int) :
    Except String Command :=
  if !parsed.valid then .error ("invalid command: " ++ parsed.error.getD "unknown error")
  else .ok (Command.new originalText (parseCommandType parsed.type) parsed.intent
    parsed.parameters id now)

/-- `Parse`: the command of the remote answer, or else the mock parser's. -/
def parse (response : Except String APICommand) (text : String) (id : CommandID) (now : Int) :
    Except String Command :=
  match response.bind fun parsed => parseAPIResponse text parsed id now with
  | .ok cmd => .ok cmd
  | .error _ => MockCommandParser.parse text id now

end GoogleADKCommandParser

/-- The parser a `CommandService` is built with: the mock parser, or the remote one with
the answer it gets. -/
inductive CommandParser where
  | mock
  | googleADK (response : Except String APICommand)

namespace CommandParser

/-- `Parser.Parse`. -/
def parse : CommandParser → String → CommandID → Int → Except String Command
  | .mock => MockCommandParser.parse
  | .googleADK response => GoogleADKCommandParser.parse response

/-- `Parser.ValidateCommand`: both validate as the mock parser does. -/
def validateCommand : CommandParser → Command → Except String Unit
  | .mock => MockCommandParser.validateCommand
  | .googleADK _ => MockCommandParser.validateCommand

/-- A command either parser returns is new: pending, with no result, error or stamp. -/
theorem parse_eq_new {p : CommandParser} {text : String} {id : CommandID} {now : Int}
    {cmd : Command} (h : p.parse text id now = .ok cmd) :
    ∃ text' ty intent params, cmd = Command.new text' ty intent params id now := by
  cases p with
  | mock =>
    obtain ⟨ty, intent, params, rfl⟩ := MockCommandParser.parse_eq_new h
    exact ⟨_, _, _, _, rfl⟩
  | googleADK response =>
    simp only [parse, GoogleADKCommandParser.parse] at h
    split at h
    · rename_i hres
      cases response with
      | error e => cases hres
      | ok parsed =>
        simp only [Except.bind, GoogleADKCommandParser.parseAPIResponse] at hres
        split_ifs at hres
        cases hres
        cases h
        exact ⟨_, _, _, _, rfl⟩
    · obtain ⟨ty, intent, params, rfl⟩ := MockCommandParser.parse_eq_new h
      exact ⟨_, _, _, _, rfl⟩

end CommandParser

end AdQueue
