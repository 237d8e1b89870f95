import AdQueue.Domain.Ad

/-!
# Go's text functions

The functions of Go's `strings`, `strconv` and `fmt` packages that the repository calls on
texts, over `List Char` (a Go string of valid UTF-8 is the list of its runes).  Each comes
with the lemma its callers need about a text of a known shape: `atoi_formatInt` (a printed
`int` parses back), `parseBool_formatBool`, and `List.splitOn_intercalate` of the library
for `strings.Split` of a joined text.

`strings.ToLower` is modelled on ASCII runes, where Go lowers `A` to `Z` and keeps the rest;
Go maps every other rune by Unicode's case table (`É` to `é`, the Kelvin sign to `k`), which
the model does not carry, and the model keeps it.  A result that carries a lowered text of a
request through the program is therefore stated for ASCII texts, where the two agree.  A
comparison of a lowered text with `true` or `false` agrees on every text: the only other
runes Go lowers into ASCII are `İ` and the Kelvin sign, to `i` and `k`.

`unicode.IsSpace` is the Latin-1 spaces and the Unicode space separators, as Go defines it.
-/

namespace AdQueue

namespace Text

/-! ## strings -/

/-- `unicode.IsSpace`: the Unicode `White_Space` characters, by code point. -/
def isSpace (c : Char) : Bool :=
  c.toNat ∈ [0x09, 0x0a, 0x0b, 0x0c, 0x0d, 0x20, 0x85, 0xa0, 0x1680, 0x2028, 0x2029, 0x202f,
    0x205f, 0x3000] || (0x2000 ≤ c.toNat && c.toNat ≤ 0x200a)

/-- `strings.TrimSpace`. -/
def trimSpace (s : List Char) : List Char :=
  ((s.dropWhile isSpace).reverse.dropWhile isSpace).reverse

/-- `strings.ToLower` on ASCII runes: `A` to `Z` lowered, every other rune kept.  Go's is this
on a text of ASCII runes; it lowers other runes by Unicode's case table. -/
def toLower (s : List Char) : List Char := s.map Char.toLower

/-- `strings.Contains`. -/
def contains (s sub : List Char) : Bool :=
  (List.range (s.length + 1)).any fun i => sub.isPrefixOf (s.drop i)

/-- `strings.Split` on a one-character separator. -/
def split (s : List Char) (sep : Char) : List (List Char) := s.splitOn sep

/-! ## fmt -/

/-- The decimal digit of `d < 10`. -/
def digitChar (d : Nat) : Char := Char.ofNat (48 + d)

/-- `%d` of a natural number. -/
def formatNat (n : Nat) : List Char :=
  if n = 0 then ['0'] else (Nat.digits 10 n).reverse.map digitChar

/-- `%d` of an `int`. -/
def formatInt (n : Int) : List Char :=
  if n < 0 then '-' :: formatNat n.natAbs else formatNat n.natAbs

/-- `%t`. -/
def formatBool (b : Bool) : List Char := if b then "true".data else "false".data

/-! ## strconv -/

/-- The value of a text of decimal digits. -/
def digitsValue (ds : List Char) : Nat := ds.foldl (fun n c => 10 * n + (c.toNat - 48)) 0

/-- The sign `ParseInt` and `Atoi` read off the front of a text, and what follows it. -/
def signOf : List Char → Bool × List Char
  | c :: ds => if c = '-' then (true, ds) else if c = '+' then (false, ds) else (false, c :: ds)
  | [] => (false, [])

/-- `strconv.Atoi` for a 64-bit `int`: the value Go returns and whether its error is nil.  A
sign and at least one decimal digit; a value out of range comes back clamped with an error,
and any other text as `0` with an error. -/
def atoi (s : List Char) : Int × Bool :=
  let ds := (signOf s).2
  if ds ≠ [] ∧ ds.all Char.isDigit then
    let v : Int := if (signOf s).1 then -(digitsValue ds : Int) else digitsValue ds
    if v < -2 ^ 63 then (-2 ^ 63, false)
    else if 2 ^ 63 - 1 < v then (2 ^ 63 - 1, false)
    else (v, true)
  else (0, false)

/-- `strconv.ParseBool`: the value Go returns and whether its error is nil. -/
def parseBool (s : List Char) : Bool × Bool :=
  if s ∈ ["1", "t", "T", "TRUE", "true", "True"].map String.data then (true, true)
  else if s ∈ ["0", "f", "F", "FALSE", "false", "False"].map String.data then (false, true)
  else (false, false)

/-! ## Printed values parse back -/

theorem digitChar_isDigit {d : Nat} (h : d < 10) : (digitChar d).isDigit = true := by
  interval_cases d <;> rfl

theorem digitChar_value {d : Nat} (h : d < 10) : (digitChar d).toNat - 48 = d := by
  interval_cases d <;> rfl

/-- Digits printed most significant first read back as `Nat.ofDigits`. -/
theorem digitsValue_reverse_map : ∀ {L : List Nat}, (∀ d ∈ L, d < 10) →
    digitsValue (L.reverse.map digitChar) = Nat.ofDigits 10 L
  | [], _ => rfl
  | d :: L, h => by
    have ih := digitsValue_reverse_map fun e he => h e (List.mem_cons_of_mem _ he)
    simp only [digitsValue, List.reverse_cons, List.map_append, List.foldl_append] at ih ⊢
    rw [ih]
    simp [digitChar_value (h d (List.mem_cons_self _ _)), Nat.ofDigits_cons]
    ring

theorem formatNat_spec (n : Nat) :
    formatNat n ≠ [] ∧ (formatNat n).all Char.isDigit ∧ digitsValue (formatNat n) = n := by
  have hlt : ∀ d ∈ Nat.digits 10 n, d < 10 := fun d hd => Nat.digits_lt_base (by norm_num) hd
  unfold formatNat
  split_ifs with h
  · subst h
    exact ⟨List.cons_ne_nil _ _, rfl, rfl⟩
  · refine ⟨by simpa using Nat.digits_ne_nil_iff_ne_zero.mpr h, ?_,
      by rw [digitsValue_reverse_map hlt, Nat.ofDigits_digits]⟩
    simpa using fun d hd => digitChar_isDigit (hlt d hd)

/-- A sign and digits whose value is in the range of an `int` read back that value. -/
theorem atoi_of_digits {s ds : List Char} {neg : Bool} (hs : signOf s = (neg, ds)) (hne : ds ≠ [])
    (hdig : ds.all Char.isDigit) {v : Int}
    (hv : v = if neg then -(digitsValue ds : Int) else digitsValue ds)
    (h0 : -2 ^ 63 ≤ v) (h1 : v < 2 ^ 63) : atoi s = (v, true) := by
  unfold atoi
  simp only [hs, ne_eq, hne, not_false_eq_true, hdig, and_self, if_true, ← hv]
  rw [if_neg (by omega), if_neg (by omega)]

theorem signOf_formatNat (n : Nat) : signOf (formatNat n) = (false, formatNat n) := by
  obtain ⟨hne, hdig, -⟩ := formatNat_spec n
  cases h : formatNat n with
  | nil => exact absurd h hne
  | cons c ds =>
    have hc : c.isDigit = true := by rw [h] at hdig; simpa using (List.all_eq_true.mp hdig) c
    have h1 : c ≠ '-' := fun e => by subst e; simp at hc
    have h2 : c ≠ '+' := fun e => by subst e; simp at hc
    simp [signOf, h1, h2]

/-- `Atoi` of a printed `int` gives it back. -/
theorem atoi_formatInt {n : Int} (h0 : -2 ^ 63 ≤ n) (h1 : n < 2 ^ 63) :
    atoi (formatInt n) = (n, true) := by
  obtain ⟨hne, hdig, hval⟩ := formatNat_spec n.natAbs
  unfold formatInt
  split_ifs with hn
  · exact atoi_of_digits (show signOf ('-' :: formatNat n.natAbs) = (true, formatNat n.natAbs) by
      simp [signOf]) hne hdig (by simp only [hval, if_true]; omega) h0 h1
  · exact atoi_of_digits (signOf_formatNat _) hne hdig
      (by simp only [hval, Bool.false_eq_true, if_false]; omega) h0 h1

/-- `ParseBool` of a printed `bool` gives it back. -/
theorem parseBool_formatBool (b : Bool) : parseBool (formatBool b) = (b, true) := by
  cases b <;> decide

/-! ## Lower case and trimmed texts -/

theorem toNat_ofNat_of_lt {n : Nat} (h : n < 0xd800) : (Char.ofNat n).toNat = n := by
  have hv : n.isValidChar := Or.inl h
  simp only [Char.ofNat, hv, dif_pos, Char.ofNatAux, Char.toNat]
  show (UInt32.ofNat' n _).toNat = n
  simp [UInt32.ofNat', UInt32.toNat]

/-- The printable ASCII characters are not spaces. -/
theorem isSpace_of_graphic {c : Char} (h1 : 33 ≤ c.toNat) (h2 : c.toNat < 127) :
    isSpace c = false := by
  unfold isSpace
  simp
  omega

theorem isSpace_toLower (c : Char) : isSpace c.toLower = isSpace c := by
  simp only [Char.toLower]
  split_ifs with h
  · have h1 := toNat_ofNat_of_lt (n := c.toNat + 32) (by omega)
    rw [isSpace_of_graphic (by omega) (by omega), isSpace_of_graphic (by omega) (by omega)]
  · rfl

theorem toLower_of_isDigit {c : Char} (h : c.isDigit = true) : c.toLower = c := by
  simp only [Char.isDigit, Bool.and_eq_true, decide_eq_true_eq] at h
  have h' : 48 ≤ c.toNat ∧ c.toNat ≤ 57 := ⟨h.1, h.2⟩
  simp only [Char.toLower]
  rw [if_neg (by omega)]

/-- A printed `int` has no letter to lower. -/
theorem toLower_formatInt (n : Int) : toLower (formatInt n) = formatInt n := by
  have hnat : toLower (formatNat n.natAbs) = formatNat n.natAbs :=
    (List.map_congr_left fun c hc => toLower_of_isDigit
      (List.all_eq_true.mp (formatNat_spec n.natAbs).2.1 c hc)).trans (List.map_id _)
  unfold formatInt
  split_ifs
  · exact congrArg (List.cons '-') hnat
  · exact hnat

theorem dropWhile_of_head {p : Char → Bool} :
    ∀ {l : List Char}, (∀ c ∈ l.head?, p c = false) → l.dropWhile p = l
  | [], _ => rfl
  | c :: _, h => List.dropWhile_cons_of_neg (by simpa using h c rfl)

/-- `TrimSpace` leaves a text that starts and ends with a non-space. -/
theorem trimSpace_eq_self {s : List Char} (h1 : ∀ c ∈ s.head?, isSpace c = false)
    (h2 : ∀ c ∈ s.getLast?, isSpace c = false) : trimSpace s = s := by
  unfold trimSpace
  rw [dropWhile_of_head h1, dropWhile_of_head (by rwa [List.head?_reverse]), List.reverse_reverse]

/-- Lowering keeps the ends of a text non-spaces. -/
theorem trimSpace_toLower {s : List Char} (h1 : ∀ c ∈ s.head?, isSpace c = false)
    (h2 : ∀ c ∈ s.getLast?, isSpace c = false) : trimSpace (toLower s) = toLower s :=
  trimSpace_eq_self (by simpa [toLower, isSpace_toLower] using h1)
    (by simpa [toLower, isSpace_toLower] using h2)

end Text

end AdQueue
