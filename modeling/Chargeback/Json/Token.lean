/-!
# JSON tokens

The lexical grammar: brackets and separators, three words, numbers and strings, with blanks between
them. Numbers have no leading zeros and no sign but the minus, strings no control characters.
-/

namespace Chargeback.Json

/-- A lexical element. -/
inductive Token where
  | openArray
  | closeArray
  | openObject
  | closeObject
  | comma
  | colon
  | null
  | bool (b : Bool)
  | number (literal : String)
  /-- A string, or nothing if it holds half of a surrogate pair. -/
  | text (s : Option String)
  deriving DecidableEq, Repr

namespace Token

/-- The blanks between elements. -/
def isSpace (c : Char) : Bool := c == ' ' || c == '\n' || c == '\t' || c == '\r'

/-! ## Numbers -/

/-- The characters of which numbers are made. -/
def isNumeric (c : Char) : Bool :=
  c.isDigit || c == '-' || c == '+' || c == '.' || c == 'e' || c == 'E'

/-- What may follow the whole part of a number: an exponent with at least one digit, or nothing. -/
def isExponent : List Char → Bool
  | [] => true
  | c :: cs =>
    (c == 'e' || c == 'E') &&
      match cs with
      | '+' :: ds => !ds.isEmpty && ds.all Char.isDigit
      | '-' :: ds => !ds.isEmpty && ds.all Char.isDigit
      | ds => !ds.isEmpty && ds.all Char.isDigit

/-- A number without its sign: a zero or a row of digits that starts with none, then a fraction
with at least one digit, then an exponent. -/
def isMagnitude (cs : List Char) : Bool :=
  (match cs with
    | '0' :: c :: _ => !c.isDigit
    | c :: _ => c.isDigit
    | [] => false) &&
  match cs.dropWhile Char.isDigit with
  | '.' :: rest => !(rest.takeWhile Char.isDigit).isEmpty && isExponent (rest.dropWhile Char.isDigit)
  | rest => isExponent rest

/-- Whether a text is a number. -/
def isNumber : List Char → Bool
  | '-' :: cs => isMagnitude cs
  | cs => isMagnitude cs

/-! ## Strings -/

/-- The value of a hexadecimal digit. -/
def hexDigit? (c : Char) : Option Nat :=
  if c.isDigit then some (c.toNat - '0'.toNat)
  else if 'a' ≤ c ∧ c ≤ 'f' then some (c.toNat - 'a'.toNat + 10)
  else if 'A' ≤ c ∧ c ≤ 'F' then some (c.toNat - 'A'.toNat + 10)
  else none

/-- The value of four hexadecimal digits. -/
def hexQuad? (a b c d : Char) : Option Nat := do
  return 4096 * (← hexDigit? a) + 256 * (← hexDigit? b) + 16 * (← hexDigit? c) + (← hexDigit? d)

/-- The character that a short escape stands for. -/
def shortEscape? : Char → Option Char
  | '"' => some '"'
  | '\\' => some '\\'
  | '/' => some '/'
  | 'b' => some '\x08'
  | 'f' => some '\x0c'
  | 'n' => some '\n'
  | 'r' => some '\r'
  | 't' => some '\t'
  | _ => none

/-- Whether a 16-bit unit opens a surrogate pair. -/
def isHigh (n : Nat) : Bool := 0xd800 ≤ n && n < 0xdc00

/-- Whether a 16-bit unit closes a surrogate pair. -/
def isLow (n : Nat) : Bool := 0xdc00 ≤ n && n < 0xe000

/-- The character of a surrogate pair. -/
def ofPair (high low : Nat) : Char :=
  Char.ofNat (0x10000 + (high - 0xd800) * 0x400 + (low - 0xdc00))

/-- A 16-bit unit on its own; a surrogate is no character. -/
def ofUnit? (n : Nat) : Option Char := if isHigh n || isLow n then none else some (Char.ofNat n)

/-- The rest of a string up to its closing quote: its characters, latest first, and what follows. A
half of a surrogate pair gives nothing in the place of its character. -/
def string? (acc : List (Option Char)) : List Char → Option (List (Option Char) × List Char)
  | [] => none
  | '"' :: rest => some (acc, rest)
  | '\\' :: 'u' :: a :: b :: c :: d :: '\\' :: 'u' :: a' :: b' :: c' :: d' :: rest =>
    match hexQuad? a b c d, hexQuad? a' b' c' d' with
    | some n, some m =>
      if isHigh n && isLow m then string? (some (ofPair n m) :: acc) rest
      else string? (ofUnit? n :: acc) ('\\' :: 'u' :: a' :: b' :: c' :: d' :: rest)
    | _, _ => none
  | '\\' :: 'u' :: a :: b :: c :: d :: rest =>
    match hexQuad? a b c d with
    | some n => string? (ofUnit? n :: acc) rest
    | none => none
  | '\\' :: e :: rest =>
    match shortEscape? e with
    | some c => string? (some c :: acc) rest
    | none => none
  | c :: rest => if c.toNat < 0x20 then none else string? (some c :: acc) rest

/-- The string of characters that are all there, given latest first. -/
def wholeString? (acc : List (Option Char)) : Option String :=
  (acc.foldl (fun cs c => do return (← c) :: (← cs)) (some [])).map String.ofList

theorem length_string? {acc : List (Option Char)} {cs : List Char}
    {r : List (Option Char) × List Char} (h : string? acc cs = some r) :
    r.2.length < cs.length := by
  fun_induction string? acc cs with
  | case2 => cases h; simp
  | _ => simp_all <;> omega

/-! ## All elements -/

/-- The word of three that starts a text. -/
def word? (cs : List Char) : Option (Token × List Char) :=
  match cs with
  | 't' :: 'r' :: 'u' :: 'e' :: rest => some (.bool true, rest)
  | 'f' :: 'a' :: 'l' :: 's' :: 'e' :: rest => some (.bool false, rest)
  | 'n' :: 'u' :: 'l' :: 'l' :: rest => some (.null, rest)
  | _ => none

/-- The element that starts a text, and what follows it. -/
def next? : List Char → Option (Token × List Char)
  | '[' :: rest => some (.openArray, rest)
  | ']' :: rest => some (.closeArray, rest)
  | '\x7b' :: rest => some (.openObject, rest)
  | '\x7d' :: rest => some (.closeObject, rest)
  | ',' :: rest => some (.comma, rest)
  | ':' :: rest => some (.colon, rest)
  | '"' :: rest => (string? [] rest).map fun (s, rest) => (.text (wholeString? s), rest)
  | cs =>
    if (cs.takeWhile isNumeric).isEmpty || !isNumber (cs.takeWhile isNumeric) then word? cs
    else some (.number (String.ofList (cs.takeWhile isNumeric)), cs.dropWhile isNumeric)

end Token

end Chargeback.Json
