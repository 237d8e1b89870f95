import AdQueue.Text.Strings

/-!
# The regular expressions of the mock parser

The patterns `MockCommandParser` matches are literal text with `\d+`, `.+`, `.` and a
trailing `s?`, some of them in capture groups.  A pattern is a list of such atoms.  Go's
`regexp` is leftmost-first: of the matches starting leftmost it returns the one a
backtracking matcher finds first, where `\d+` and `.+` try their longest run first and
`s?` tries to take the `s` first.  `matchHere` is that backtracking matcher at one start,
`longestFirst` the loop over the lengths of a run, and `findSubmatch` the search over
starts, as `FindStringSubmatch` returns the groups; `matchString` is `MatchString`.  `\d`
is an ASCII digit and `.` any character but a newline, as in Go.

Each atom has the lemma that says what a match of a text of a known shape returns:
`matchHere_lits` for literal text, `matchHere_digits` for a maximal run of digits, and
`matchHere_dots_lits` for `.+` followed by the literal text that ends the pattern, where the
greedy run stops at the last occurrence of that text.
-/

namespace AdQueue

namespace Text

/-- An atom of a pattern. -/
inductive Atom where
  /-- A literal character. -/
  | lit (c : Char)
  /-- `.`: one character other than a newline. -/
  | dot
  /-- `\d+`, or `(\d+)` when `capture`. -/
  | digits (capture : Bool)
  /-- `.+`, or `(.+)` when `capture`. -/
  | dots (capture : Bool)
  /-- `c?`. -/
  | opt (c : Char)
deriving DecidableEq, Repr

/-- The literal atoms of a text. -/
def lits (w : String) : List Atom := w.data.map Atom.lit

/-- The run of a repeated atom over `s`, at the lengths `k, k - 1, ..., 1`, longest first,
until what follows matches; a captured run goes before the captures of what follows. -/
def longestFirst (capture : Bool) (s : List Char) (rest : List Char → Option (List (List Char))) :
    Nat → Option (List (List Char))
  | 0 => none
  | k + 1 =>
    match rest (s.drop (k + 1)) with
    | some cs => some (if capture then s.take (k + 1) :: cs else cs)
    | none => longestFirst capture s rest k

/-- The backtracking matcher at the start of `s`: the captures of the first match it finds. -/
def matchHere : List Atom → List Char → Option (List (List Char))
  | [], _ => some []
  | .lit c :: ps, s =>
    match s with
    | x :: xs => if x = c then matchHere ps xs else none
    | [] => none
  | .dot :: ps, s =>
    match s with
    | x :: xs => if x ≠ '\n' then matchHere ps xs else none
    | [] => none
  | .opt c :: ps, s =>
    match s with
    | x :: xs => if x = c then (matchHere ps xs).or (matchHere ps s) else matchHere ps s
    | [] => matchHere ps s
  | .digits capture :: ps, s =>
    longestFirst capture s (matchHere ps) (s.takeWhile Char.isDigit).length
  | .dots capture :: ps, s =>
    longestFirst capture s (matchHere ps) (s.takeWhile fun c => c ≠ '\n').length

/-- `FindStringSubmatch`, without the whole match: the groups of the leftmost match. -/
def findSubmatch (p : List Atom) : List Char → Option (List (List Char))
  | [] => matchHere p []
  | x :: xs => (matchHere p (x :: xs)).or (findSubmatch p xs)

/-- `MatchString`: some match starts somewhere. -/
def matchString (p : List Atom) (s : List Char) : Bool := (findSubmatch p s).isSome

/-! ## Matches of texts of a known shape -/

theorem matchHere_lits (w : List Char) (ps : List Atom) (s : List Char) :
    matchHere (w.map Atom.lit ++ ps) (w ++ s) = matchHere ps s := by
  induction w with
  | nil => rfl
  | cons c w ih => simp [matchHere, ih]

/-- Literal text fails on a text shorter than it. -/
theorem matchHere_lits_short (ps : List Atom) :
    ∀ (w s : List Char), s.length < w.length → matchHere (w.map Atom.lit ++ ps) s = none
  | [], s, h => absurd h (Nat.not_lt_zero _)
  | c :: w, [], _ => rfl
  | c :: w, x :: xs, h => by
    simp only [List.map_cons, List.cons_append, matchHere]
    split_ifs
    · exact matchHere_lits_short ps w xs (by simpa using h)
    · rfl

/-- The loop finds the longest length `m` at which what follows matches. -/
theorem longestFirst_eq {capture : Bool} {s : List Char} {rest : List Char → Option (List (List Char))}
    {m : Nat} {cs : List (List Char)} (hm : rest (s.drop m) = some cs) (hm1 : 1 ≤ m) :
    ∀ n, m ≤ n → (∀ j, m < j → j ≤ n → rest (s.drop j) = none) →
      longestFirst capture s rest n = some (if capture then s.take m :: cs else cs)
  | 0, h, _ => absurd h (by omega)
  | n + 1, h, hnone => by
    rcases Nat.lt_or_ge m (n + 1) with hlt | hge
    · rw [longestFirst, hnone (n + 1) hlt le_rfl]
      exact longestFirst_eq hm hm1 n (by omega) fun j hj hjn => hnone j hj (by omega)
    · obtain rfl : m = n + 1 := by omega
      rw [longestFirst, hm]

/-- `\d+` on a run of digits followed by a non-digit takes the whole run. -/
theorem matchHere_digits {capture : Bool} {ps : List Atom} {ds s : List Char} (hne : ds ≠ [])
    (hdig : ds.all Char.isDigit) (hs : ∀ c ∈ s.head?, c.isDigit = false)
    {cs : List (List Char)} (hrest : matchHere ps s = some cs) :
    matchHere (.digits capture :: ps) (ds ++ s) = some (if capture then ds :: cs else cs) := by
  have hrun : ((ds ++ s).takeWhile Char.isDigit).length = ds.length := by
    rw [List.takeWhile_append_of_pos (by simpa using hdig)]
    cases s with
    | nil => simp
    | cons c s => simp [List.takeWhile_cons, hs c rfl]
  have h : longestFirst capture (ds ++ s) (matchHere ps) ds.length =
      some (if capture then (ds ++ s).take ds.length :: cs else cs) :=
    longestFirst_eq (by rw [List.drop_left]; exact hrest) (List.length_pos.mpr hne) ds.length le_rfl
      (fun j hj hjn => absurd hjn (by omega))
  rw [List.take_left] at h
  rw [matchHere, hrun]
  exact h

/-- `.+` followed by the literal text `w` that ends the pattern, on a text `G ++ w ++ t`
without newlines before `t`: the run stops at the last occurrence of `w`, which is here
the one after `G` when `t` is empty. -/
theorem matchHere_dots_lits {capture : Bool} {G w : List Char} (hG : G ≠ []) (hGn : '\n' ∉ G)
    (hwn : '\n' ∉ w) :
    matchHere (.dots capture :: w.map Atom.lit) (G ++ w) =
      some (if capture then [G] else []) := by
  have hrun : ((G ++ w).takeWhile fun c => c ≠ '\n').length = G.length + w.length := by
    have hall : ∀ c ∈ G ++ w, decide (c ≠ '\n') = true := by
      simp only [List.mem_append, decide_eq_true_eq]
      rintro c (hc | hc) rfl <;> contradiction
    rw [List.takeWhile_eq_self_iff.mpr hall, List.length_append]
  have hm : matchHere (w.map Atom.lit) ((G ++ w).drop G.length) = some [] := by
    simpa using matchHere_lits w [] []
  have h : longestFirst capture (G ++ w) (matchHere (w.map Atom.lit)) (G.length + w.length) =
      some (if capture then (G ++ w).take G.length :: [] else []) :=
    longestFirst_eq hm (List.length_pos.mpr hG) (G.length + w.length) (by omega) fun j hj hjn => by
      rw [← List.append_nil (w.map Atom.lit)]
      exact matchHere_lits_short [] w _ (by simp; omega)
  rw [List.take_left] at h
  rw [matchHere, hrun]
  simpa using h

end Text

end AdQueue
