import AdQueue.Text.Regexp

/-!
# Environment placeholders in the configuration

`config.Load` decodes the configuration file into a tree of maps, lists and scalars, then
`processEnvPatterns` replaces each string that holds a placeholder `{NAME-default}`, found by
the pattern `\{([A-Z_]+)-([^}]*)\}`, by the value of the environment variable `NAME`, or by
the default when the variable is unset or empty, converted by `convertValue` to a bool, an
int, a float or a string.

*Matching.*  `FindStringSubmatch` answers the groups of the leftmost match.  At one start the
matcher backtracks, `[A-Z_]+` from its longest run down and `[^}]*` from its longest run down
to the empty one (`envPatternHere`, over `Text.longestFirst`).  Every match has two groups,
and its default holds no `}` while the text does (`envPatternHere_some`).  In a text that
holds a placeholder after a prefix without `{`, the match is that placeholder, whatever
follows it (`findEnvPattern_placeholder`).

*Substitution.*  The whole string is replaced, not the placeholder in it, so the text around
the placeholder is dropped (`processValue_placeholder`).  Whether the value comes back typed
depends on the default.  With an empty default the environment's text stays a string; with
any other default a printed int or bool comes back as that int or bool
(`convertValue_printed`).  A default never holds a placeholder, as it has no `}`.  So when
no environment value holds one, one pass leaves no placeholder anywhere in the tree
(`processValue_resolves_all`).

`strconv.ParseFloat` is an input: which texts it reads without error (`parseFloatOk`); a
float is kept as the text it was read from.  `strings.ToLower` lowers ASCII letters only.
The only letters Go lowers into ASCII from outside it are `İ` and the Kelvin sign, which
become `i` and `k`, and neither letter is in `true` or `false`, so the two comparisons are
the ones Go makes.  Go updates the maps and lists in place; a decoded configuration shares
no subtree, so the model returns the updated tree.
-/

namespace AdQueue

namespace Config

/-- A value of the decoded configuration: the three kinds `processValue` switches on
(string, map, list) and the scalars `convertToType` produces.  A value of any other kind is
returned as it is, as these scalars are. -/
inductive ConfigValue where
  | str (s : String)
  | bool (b : Bool)
  | int (n : Int)
  | float (text : String)
  | map (entries : List (String × ConfigValue))
  | list (items : List ConfigValue)
deriving Repr

/-! ## The pattern -/

/-- `[A-Z_]`. -/
def isNameChar (c : Char) : Bool := ('A' ≤ c && c ≤ 'Z') || c = '_'

/-- The closing `\}` of the pattern. -/
def closeBrace : List Char → Option (List (List Char))
  | '}' :: _ => some []
  | _ => none

/-- The pattern after the name: `-`, then `([^}]*)` from its longest run down to the empty
one, then `\}`. -/
def valueHere : List Char → Option (List (List Char))
  | '-' :: t =>
    (Text.longestFirst true t closeBrace (t.takeWhile (· ≠ '}')).length).or
      ((closeBrace t).map ([] :: ·))
  | _ => none

/-- `\{([A-Z_]+)-([^}]*)\}` at the start of a text: the groups of the first match the
backtracking matcher finds. -/
def envPatternHere : List Char → Option (List (List Char))
  | '{' :: s => Text.longestFirst true s valueHere (s.takeWhile isNameChar).length
  | _ => none

/-- `FindStringSubmatch` of the pattern, without the whole match: the groups of the leftmost
match. -/
def findEnvPattern : List Char → Option (List (List Char))
  | [] => envPatternHere []
  | x :: xs => (envPatternHere (x :: xs)).or (findEnvPattern xs)

/-! ## Conversion and substitution -/

/-- `convertToType`, where `parseFloatOk` says which texts `strconv.ParseFloat` reads without
error. -/
def convertToType (parseFloatOk : List Char → Bool) (value : List Char) : ConfigValue :=
  if value = [] then .str ""
  else if Text.toLower value = "true".data then .bool true
  else if Text.toLower value = "false".data then .bool false
  else if (Text.atoi value).2 then .int (Text.atoi value).1
  else if parseFloatOk value then .float ⟨value⟩
  else .str ⟨value⟩

/-- `convertValue`: with an empty default the value as a string; otherwise the value, or the
default when the value is empty, converted. -/
def convertValue (parseFloatOk : List Char → Bool) (value defaultValue : List Char) :
    ConfigValue :=
  if defaultValue = [] then .str ⟨value⟩
  else if value = [] then convertToType parseFloatOk defaultValue
  else convertToType parseFloatOk value

mutual

/-- `processValue`, with `getenv` for `os.Getenv` (the empty text when a variable is
unset). -/
def processValue (parseFloatOk : List Char → Bool) (getenv : List Char → List Char) :
    ConfigValue → ConfigValue
  | .str v =>
    match findEnvPattern v.data with
    | some [envVar, defaultValue] =>
      if getenv envVar ≠ [] then convertValue parseFloatOk (getenv envVar) defaultValue
      else convertValue parseFloatOk defaultValue defaultValue
    | _ => .str v
  | .map entries => .map (processEnvPatterns parseFloatOk getenv entries)
  | .list items => .list (processItems parseFloatOk getenv items)
  | .bool b => .bool b
  | .int n => .int n
  | .float text => .float text

/-- `processEnvPatterns`: each value processed under its key. -/
def processEnvPatterns (parseFloatOk : List Char → Bool) (getenv : List Char → List Char) :
    List (String × ConfigValue) → List (String × ConfigValue)
  | [] => []
  | (key, value) :: rest =>
    (key, processValue parseFloatOk getenv value) :: processEnvPatterns parseFloatOk getenv rest

/-- The loop of `processValue` over a list: each item processed in its place. -/
def processItems (parseFloatOk : List Char → Bool) (getenv : List Char → List Char) :
    List ConfigValue → List ConfigValue
  | [] => []
  | item :: rest => processValue parseFloatOk getenv item :: processItems parseFloatOk getenv rest

end

mutual

/-- The strings of a configuration value, at every depth. -/
def ConfigValue.strings : ConfigValue → List String
  | .str s => [s]
  | .map entries => entriesStrings entries
  | .list items => itemsStrings items
  | .bool _ | .int _ | .float _ => []

/-- The strings of the values of a map. -/
def entriesStrings : List (String × ConfigValue) → List String
  | [] => []
  | (_, v) :: rest => v.strings ++ entriesStrings rest

/-- The strings of the items of a list. -/
def itemsStrings : List ConfigValue → List String
  | [] => []
  | v :: rest => v.strings ++ itemsStrings rest

end

/-! ## What a match is -/

/-- What the backtracking loop finds is a run of length at most `n` followed by a match of
the rest. -/
theorem longestFirst_eq_some {capture : Bool} {s : List Char}
    {rest : List Char → Option (List (List Char))} :
    ∀ {n : Nat} {cs : List (List Char)}, Text.longestFirst capture s rest n = some cs →
      ∃ k ≤ n, ∃ cs', rest (s.drop k) = some cs' ∧ cs = if capture then s.take k :: cs' else cs'
  | 0, _, h => by simp [Text.longestFirst] at h
  | n + 1, _, h => by
    rw [Text.longestFirst] at h
    split at h
    · exact ⟨n + 1, le_rfl, _, ‹_›, (Option.some.inj h).symm⟩
    · obtain ⟨k, hk, cs', h₁, h₂⟩ := longestFirst_eq_some h
      exact ⟨k, by omega, cs', h₁, h₂⟩

theorem closeBrace_eq_some {t : List Char} {cs : List (List Char)} (h : closeBrace t = some cs) :
    cs = [] ∧ '}' ∈ t := by
  unfold closeBrace at h
  split at h
  · exact ⟨(Option.some.inj h).symm, List.mem_cons_self _ _⟩
  · cases h

/-- A prefix of a text no longer than its run of characters `≠ '}'` has no `}`. -/
theorem not_mem_take_of_le {t : List Char} {k : Nat}
    (hk : k ≤ (t.takeWhile (· ≠ '}')).length) : '}' ∉ t.take k := by
  have hpre : t.take k = (t.takeWhile (· ≠ '}')).take k := by
    conv_lhs => rw [← List.takeWhile_append_dropWhile (· ≠ '}') t]
    rw [List.take_append_of_le_length hk]
  rw [hpre]
  intro hm
  simpa using List.mem_takeWhile_imp (List.mem_of_mem_take hm)

/-- The rest of a match after the name: one group, with no `}`, in a text that has one. -/
theorem valueHere_some {u : List Char} {cs : List (List Char)} (h : valueHere u = some cs) :
    ∃ d, cs = [d] ∧ '}' ∉ d ∧ '}' ∈ u := by
  unfold valueHere at h
  split at h
  · rename_i t
    cases hl : Text.longestFirst true t closeBrace (t.takeWhile (· ≠ '}')).length with
    | some cs₁ =>
      rw [hl, Option.or_some, Option.some.injEq] at h
      obtain ⟨k, hk, cs', h₁, h₂⟩ := longestFirst_eq_some hl
      obtain ⟨rfl, hb⟩ := closeBrace_eq_some h₁
      exact ⟨t.take k, by simp [← h, h₂], not_mem_take_of_le hk,
        List.mem_cons_of_mem _ (List.mem_of_mem_drop hb)⟩
    | none =>
      rw [hl, Option.none_or] at h
      obtain ⟨cs', h₁, h₂⟩ := Option.map_eq_some'.mp h
      obtain ⟨rfl, hb⟩ := closeBrace_eq_some h₁
      exact ⟨[], h₂.symm, List.not_mem_nil _, List.mem_cons_of_mem _ hb⟩
  · cases h

/-- Every match has the two groups `FindStringSubmatch` reports, a default without `}`, and a
`}` in the text. -/
theorem envPatternHere_some {t : List Char} {gs : List (List Char)} (h : envPatternHere t = some gs) :
    ∃ name d, gs = [name, d] ∧ '}' ∉ d ∧ '}' ∈ t := by
  unfold envPatternHere at h
  split at h
  · rename_i s
    obtain ⟨k, -, cs', h₁, h₂⟩ := longestFirst_eq_some h
    obtain ⟨d, rfl, hd, hb⟩ := valueHere_some h₁
    exact ⟨s.take k, d, by simpa using h₂, hd, List.mem_cons_of_mem _ (List.mem_of_mem_drop hb)⟩
  · cases h

theorem findEnvPattern_some : ∀ {t : List Char} {gs : List (List Char)}, findEnvPattern t = some gs →
    ∃ name d, gs = [name, d] ∧ '}' ∉ d ∧ '}' ∈ t
  | [], _, h => envPatternHere_some h
  | x :: xs, gs, h => by
    rw [findEnvPattern] at h
    cases hx : envPatternHere (x :: xs) with
    | some gs' =>
      rw [hx, Option.or_some, Option.some.injEq] at h
      exact h ▸ envPatternHere_some hx
    | none =>
      rw [hx, Option.none_or] at h
      obtain ⟨name, d, hgs, hd, hb⟩ := findEnvPattern_some h
      exact ⟨name, d, hgs, hd, List.mem_cons_of_mem _ hb⟩

/-- A text without `}` holds no placeholder. -/
theorem findEnvPattern_eq_none {t : List Char} (ht : '}' ∉ t) : findEnvPattern t = none := by
  cases h : findEnvPattern t with
  | none => rfl
  | some gs =>
    obtain ⟨-, -, -, -, hb⟩ := findEnvPattern_some h
    exact absurd hb ht

/-! ## The match on a placeholder -/

/-- A prefix without `{` starts no match. -/
theorem findEnvPattern_append {pre : List Char} (hpre : '{' ∉ pre) (s : List Char) :
    findEnvPattern (pre ++ s) = findEnvPattern s := by
  induction pre with
  | nil => rfl
  | cons x xs ih =>
    have hx : x ≠ '{' := fun e => hpre (e ▸ List.mem_cons_self _ _)
    rw [List.cons_append, findEnvPattern, ih fun h => hpre (List.mem_cons_of_mem _ h)]
    simp [envPatternHere, hx]

theorem valueHere_placeholder {d : List Char} (hd : '}' ∉ d) (post : List Char) :
    valueHere ('-' :: (d ++ '}' :: post)) = some [d] := by
  have hrun : ((d ++ '}' :: post).takeWhile (· ≠ '}')).length = d.length := by
    rw [List.takeWhile_append_of_pos fun c hc => by
      simp only [ne_eq, decide_eq_true_eq]
      rintro rfl
      exact hd hc]
    simp
  rw [valueHere, hrun]
  by_cases hne : d = []
  · subst hne
    rfl
  · have h := @Text.longestFirst_eq true (d ++ '}' :: post) closeBrace d.length []
      (by rw [List.drop_left]; rfl) (List.length_pos.mpr hne) d.length le_rfl
      (fun j hj hjn => absurd hjn (by omega))
    rw [h, List.take_left]
    rfl

/-- The match on `{NAME-default}`: the name and the default, whatever follows. -/
theorem envPatternHere_placeholder {name d : List Char} (hname : name ≠ [] ∧ name.all isNameChar)
    (hd : '}' ∉ d) (post : List Char) :
    envPatternHere ('{' :: (name ++ '-' :: (d ++ '}' :: post))) = some [name, d] := by
  have hrun : ((name ++ '-' :: (d ++ '}' :: post)).takeWhile isNameChar).length = name.length := by
    rw [List.takeWhile_append_of_pos (List.all_eq_true.mp hname.2)]
    simp [isNameChar]
  have h := @Text.longestFirst_eq true (name ++ '-' :: (d ++ '}' :: post)) valueHere name.length
    [d] (by rw [List.drop_left]; exact valueHere_placeholder hd post)
    (List.length_pos.mpr hname.1) name.length le_rfl (fun j hj hjn => absurd hjn (by omega))
  rw [envPatternHere, hrun, h, List.take_left]
  rfl

theorem findEnvPattern_placeholder {pre name d : List Char} (hpre : '{' ∉ pre)
    (hname : name ≠ [] ∧ name.all isNameChar) (hd : '}' ∉ d) (post : List Char) :
    findEnvPattern (pre ++ '{' :: (name ++ '-' :: (d ++ '}' :: post))) = some [name, d] := by
  rw [findEnvPattern_append hpre, findEnvPattern, envPatternHere_placeholder hname hd post,
    Option.or_some]

/-! ## Substitution -/

/-- A string holding `{NAME-default}` after a prefix without `{` is replaced, as a whole, by
the environment value of `NAME` converted, or by the default when the variable is unset or
empty: the text around the placeholder is dropped. -/
theorem processValue_placeholder (parseFloatOk : List Char → Bool) (getenv : List Char → List Char)
    {pre name d post : List Char} (hpre : '{' ∉ pre) (hname : name ≠ [] ∧ name.all isNameChar)
    (hd : '}' ∉ d) :
    processValue parseFloatOk getenv (.str ⟨pre ++ '{' :: (name ++ '-' :: (d ++ '}' :: post))⟩) =
      if getenv name ≠ [] then convertValue parseFloatOk (getenv name) d
      else convertValue parseFloatOk d d := by
  simp only [processValue, findEnvPattern_placeholder hpre hname hd post]

/-- `{DB_HOST-localhost}` inside a URL, the variable unset: the whole URL becomes the default. -/
theorem processValue_placeholder_at_sample :
    '{' ∉ "postgres://".data ∧ ("DB_HOST".data ≠ [] ∧ "DB_HOST".data.all isNameChar) ∧
      '}' ∉ "localhost".data ∧
    processValue (fun _ => false) (fun _ => [])
        (.str ⟨"postgres://".data ++ '{' :: ("DB_HOST".data ++ '-' :: ("localhost".data ++
          '}' :: ":5432".data))⟩) =
      convertValue (fun _ => false) "localhost".data "localhost".data := by
  refine ⟨by decide, ⟨by decide, by decide⟩, by decide, ?_⟩
  rw [processValue_placeholder _ _ (by decide) ⟨by decide, by decide⟩ (by decide)]
  rfl

/-- No printed `int` reads as a text `Atoi` refuses. -/
theorem formatInt_ne_of_atoi {n : Int} (h0 : -2 ^ 63 ≤ n) (h1 : n < 2 ^ 63) {w : List Char}
    (hw : (Text.atoi w).2 = false) : Text.formatInt n ≠ w := by
  rintro rfl
  rw [Text.atoi_formatInt h0 h1] at hw
  cases hw

/-- Whether a value comes back typed is decided by the default: an environment value that
prints an `int` or a `bool` comes back as that int or bool when the default is non-empty, and
as its text when the default is empty. -/
theorem convertValue_printed (parseFloatOk : List Char → Bool) (dflt : List Char) {n : Int}
    (h0 : -2 ^ 63 ≤ n) (h1 : n < 2 ^ 63) (b : Bool) :
    convertValue parseFloatOk (Text.formatInt n) dflt =
        (if dflt = [] then .str ⟨Text.formatInt n⟩ else .int n) ∧
      convertValue parseFloatOk (Text.formatBool b) dflt =
        (if dflt = [] then .str ⟨Text.formatBool b⟩ else .bool b) := by
  have hint : convertToType parseFloatOk (Text.formatInt n) = .int n := by
    rw [convertToType, Text.toLower_formatInt, if_neg (formatInt_ne_of_atoi (w := []) h0 h1 rfl),
      if_neg (formatInt_ne_of_atoi (w := "true".data) h0 h1 (by decide)),
      if_neg (formatInt_ne_of_atoi (w := "false".data) h0 h1 (by decide)), Text.atoi_formatInt h0 h1]
    rfl
  have hbool : convertToType parseFloatOk (Text.formatBool b) = .bool b := by
    cases b
    · have hl : Text.toLower "false".data = "false".data := by decide
      simp [convertToType, Text.formatBool, hl]
    · have hl : Text.toLower "true".data = "true".data := by decide
      simp [convertToType, Text.formatBool, hl]
  have hne : Text.formatInt n ≠ [] := formatInt_ne_of_atoi (w := []) h0 h1 rfl
  have hbne : Text.formatBool b ≠ [] := by cases b <;> decide
  unfold convertValue
  by_cases hd : dflt = []
  · simp only [hd, if_true, and_self]
  · simp only [hd, hne, hbne, hint, hbool, if_false, and_self]

/-- `PORT=8080` under `{PORT-}` and under `{PORT-80}`. -/
theorem convertValue_printed_at_sample :
    (-2 ^ 63 ≤ (8080 : Int) ∧ (8080 : Int) < 2 ^ 63) ∧
    convertValue (fun _ => false) (Text.formatInt 8080) [] = .str ⟨Text.formatInt 8080⟩ ∧
    convertValue (fun _ => false) (Text.formatInt 8080) "80".data = .int 8080 :=
  ⟨⟨by norm_num, by norm_num⟩,
    (convertValue_printed _ [] (by norm_num) (by norm_num) true).1,
    (convertValue_printed _ "80".data (by norm_num) (by norm_num) true).1⟩

section Resolve

variable (parseFloatOk : List Char → Bool) (getenv : List Char → List Char)

/-- The strings of a converted text: the text itself, or the empty text. -/
theorem strings_convertToType (value : List Char) :
    ∀ s ∈ (convertToType parseFloatOk value).strings, s.data = value ∨ s.data = [] := by
  intro s hs
  unfold convertToType at hs
  split_ifs at hs <;> simp only [ConfigValue.strings, List.mem_singleton, List.not_mem_nil] at hs <;>
    subst hs
  exacts [.inr rfl, .inl rfl]

/-- The strings of a converted value: the value's text, the default, or the empty text. -/
theorem strings_convertValue (value d : List Char) :
    ∀ s ∈ (convertValue parseFloatOk value d).strings, s.data = value ∨ s.data = d ∨ s.data = [] := by
  intro s hs
  unfold convertValue at hs
  split_ifs at hs
  · simp only [ConfigValue.strings, List.mem_singleton] at hs
    exact .inl (hs ▸ rfl)
  · exact .inr (strings_convertToType parseFloatOk d s hs)
  · exact (strings_convertToType parseFloatOk value s hs).imp_right .inr

/-- A processed string holds no placeholder when no environment value does. -/
theorem strings_processValue_str (henv : ∀ name, findEnvPattern (getenv name) = none) (v : String) :
    ∀ s ∈ (processValue parseFloatOk getenv (.str v)).strings, findEnvPattern s.data = none := by
  intro s hs
  simp only [processValue] at hs
  split at hs
  · rename_i envVar d hmatch
    obtain ⟨name, d', hgs, hd, -⟩ := findEnvPattern_some hmatch
    obtain ⟨-, rfl⟩ : envVar = name ∧ d = d' := by simpa using hgs
    have hres : ∀ value, (value = getenv envVar ∨ value = d) →
        ∀ s ∈ (convertValue parseFloatOk value d).strings, findEnvPattern s.data = none := by
      rintro value hv s hs
      rcases strings_convertValue parseFloatOk value _ s hs with h | h | h <;> rw [h]
      · rcases hv with rfl | rfl
        exacts [henv envVar, findEnvPattern_eq_none hd]
      · exact findEnvPattern_eq_none hd
      · rfl
    split_ifs at hs
    exacts [hres _ (.inl rfl) s hs, hres _ (.inr rfl) s hs]
  · rename_i hno
    simp only [ConfigValue.strings, List.mem_singleton] at hs
    subst hs
    cases h : findEnvPattern s.data with
    | none => rfl
    | some gs =>
      obtain ⟨name, d, rfl, -⟩ := findEnvPattern_some h
      exact absurd h (hno name d)

mutual

theorem strings_processValue (henv : ∀ name, findEnvPattern (getenv name) = none) :
    ∀ v : ConfigValue, ∀ s ∈ (processValue parseFloatOk getenv v).strings,
      findEnvPattern s.data = none
  | .str v => strings_processValue_str parseFloatOk getenv henv v
  | .map entries => by
    simpa only [processValue, ConfigValue.strings] using strings_processEnvPatterns henv entries
  | .list items => by
    simpa only [processValue, ConfigValue.strings] using strings_processItems henv items
  | .bool _ | .int _ | .float _ => by simp [processValue, ConfigValue.strings]

theorem strings_processEnvPatterns (henv : ∀ name, findEnvPattern (getenv name) = none) :
    ∀ es : List (String × ConfigValue), ∀ s ∈ entriesStrings (processEnvPatterns parseFloatOk getenv es),
      findEnvPattern s.data = none
  | [] => by simp [processEnvPatterns, entriesStrings]
  | (_, v) :: rest => by
    simp only [processEnvPatterns, entriesStrings, List.mem_append]
    rintro s (hs | hs)
    exacts [strings_processValue henv v s hs, strings_processEnvPatterns henv rest s hs]

theorem strings_processItems (henv : ∀ name, findEnvPattern (getenv name) = none) :
    ∀ vs : List ConfigValue, ∀ s ∈ itemsStrings (processItems parseFloatOk getenv vs),
      findEnvPattern s.data = none
  | [] => by simp [processItems, itemsStrings]
  | v :: rest => by
    simp only [processItems, itemsStrings, List.mem_append]
    rintro s (hs | hs)
    exacts [strings_processValue henv v s hs, strings_processItems henv rest s hs]

end

end Resolve

/-- When no environment value holds a placeholder, one pass of `processValue` leaves none in
any string of the tree, at any depth: every default lacks the closing `}`. -/
theorem processValue_resolves_all (parseFloatOk : List Char → Bool) (getenv : List Char → List Char)
    (henv : ∀ name, findEnvPattern (getenv name) = none) (v : ConfigValue) :
    ∀ s ∈ (processValue parseFloatOk getenv v).strings, findEnvPattern s.data = none :=
  strings_processValue parseFloatOk getenv henv v

/-- An empty environment, and a map whose nested list holds a placeholder. -/
theorem processValue_resolves_all_at_sample :
    (∀ name, findEnvPattern ((fun _ : List Char => ([] : List Char)) name) = none) ∧
    ∀ s ∈ (processValue (fun _ => false) (fun _ : List Char => ([] : List Char))
        (.map [("database", .list [.str "\x7bDB_HOST-\x7blocalhost\x7d", .int 5432])])).strings,
      findEnvPattern s.data = none :=
  ⟨fun _ => rfl, processValue_resolves_all (fun _ => false) (fun _ => []) (fun _ => rfl) _⟩

end Config

end AdQueue
