import Chargeback.Json.Token
import Chargeback.Settings.Setting

/-!
# Words of a TOML document

Strings on one line or over several ones, numbers and truth values. Digits may be grouped by
underscores, each of them between two digits. A decimal number has the grammar of JSON and may have
a plus in front.
-/

namespace Chargeback.Toml

/-! ## Strings -/

/-- Whether a character must not stand in a string or a comment. -/
def isControl (c : Char) : Bool := (c.toNat < 0x20 && c != '\t') || c.toNat == 0x7f

/-- The character of a code point, unless it is a surrogate or too large. -/
def scalar? (n : Nat) : Option Char := if n.isValidChar then some (Char.ofNat n) else none

/-- The character that a short escape stands for. -/
def shortEscape? (c : Char) : Option Char := if c = '/' then none else Json.Token.shortEscape? c

/-- Whether a character is a blank within a line. -/
def isSpace (c : Char) : Bool := c == ' ' || c == '\t'

/-- Whether a text starts with the end of a line, after blanks. -/
def endsLine (cs : List Char) : Bool :=
  match cs.dropWhile isSpace with
  | '\n' :: _ | '\r' :: '\n' :: _ => true
  | _ => false

/-- A text without an end of line at its start. -/
def withoutLineEnd : List Char → List Char
  | '\n' :: rest => rest
  | '\r' :: '\n' :: rest => rest
  | rest => rest

/-- The end of a string over several lines, of whose closing quotes one has been read, and what
follows it. Three quotes close the string; up to two more in front of them belong to it. -/
def closed? (quote : Char) (acc : List Char) (cs : List Char) : Option (String × List Char) :=
  let more := (cs.takeWhile (· == quote)).length
  if more < 2 then none
  else
    let inside := min 2 (more - 2)
    some (String.ofList (acc.reverse ++ List.replicate inside quote), cs.drop (2 + inside))

/-- The rest of a string in double quotes, and what follows it. The string may go over several
lines if `lines` holds. A backslash at the end of a line joins it with what follows the blanks and
ends of lines after it: they are skipped while `skip` holds. -/
def basic? (lines skip : Bool) (acc : List Char) : List Char → Option (String × List Char)
  | [] => none
  | '"' :: rest =>
    if lines then
      match closed? '"' acc rest with
      | some r => some r
      | none => basic? lines false ('"' :: acc) rest
    else some (String.ofList acc.reverse, rest)
  | '\\' :: 'u' :: a :: b :: c :: d :: rest =>
    match (Json.Token.hexQuad? a b c d).bind scalar? with
    | some e => basic? lines false (e :: acc) rest
    | none => none
  | '\\' :: 'U' :: a :: b :: c :: d :: a' :: b' :: c' :: d' :: rest =>
    match Json.Token.hexQuad? a b c d, Json.Token.hexQuad? a' b' c' d' with
    | some high, some low =>
      match scalar? (65536 * high + low) with
      | some e => basic? lines false (e :: acc) rest
      | none => none
    | _, _ => none
  | '\\' :: e :: rest =>
    if lines && endsLine (e :: rest) then basic? lines true acc rest
    else
      match shortEscape? e with
      | some e => basic? lines false (e :: acc) rest
      | none => none
  | '\r' :: '\n' :: rest =>
    if lines then basic? lines skip (if skip then acc else '\n' :: acc) rest else none
  | c :: rest =>
    if lines && c = '\n' then basic? lines skip (if skip then acc else c :: acc) rest
    else if isControl c then none
    else if skip && isSpace c then basic? lines skip acc rest
    else basic? lines false (c :: acc) rest

/-- The rest of a string in single quotes, in which nothing is escaped, and what follows it. The
string may go over several lines if `lines` holds. -/
def literal? (lines : Bool) (acc : List Char) : List Char → Option (String × List Char)
  | [] => none
  | '\'' :: rest =>
    if lines then
      match closed? '\'' acc rest with
      | some r => some r
      | none => literal? lines ('\'' :: acc) rest
    else some (String.ofList acc.reverse, rest)
  | '\r' :: '\n' :: rest => if lines then literal? lines ('\n' :: acc) rest else none
  | c :: rest =>
    if (lines && c = '\n') || !isControl c then literal? lines (c :: acc) rest else none

/-- A string, and what follows it. Three quotes begin one over several lines, without an end of line
that follows them at once. -/
def string? : List Char → Option (String × List Char)
  | '"' :: '"' :: '"' :: rest => basic? true false [] (withoutLineEnd rest)
  | '"' :: rest => basic? false false [] rest
  | '\'' :: '\'' :: '\'' :: rest => literal? true [] (withoutLineEnd rest)
  | '\'' :: rest => literal? false [] rest
  | _ => none

/-! ## Numbers and truth values -/

/-- Takes out the underscores between digits; any other is refused. -/
def ungrouped? (isDigit : Char → Bool) : List Char → Option (List Char)
  | '_' :: _ => none
  | c :: '_' :: d :: cs =>
    if isDigit c && isDigit d then (ungrouped? isDigit (d :: cs)).map (c :: ·) else none
  | c :: cs => (ungrouped? isDigit cs).map (c :: ·)
  | [] => some []

/-- A row of digits to a base. -/
def inBase? (base : Nat) (cs : List Char) : Option Int := do
  let digits ← (← ungrouped? (fun c => (Json.Token.hexDigit? c).isSome) cs).mapM
    Json.Token.hexDigit?
  if digits.isEmpty || digits.any (base ≤ ·) then none
  else
    let n := digits.foldl (fun n d => base * n + d) 0
    if fitsSigned n then some (Int.ofNat n) else none

/-- A decimal number without its sign. One that is too large is refused, one that is too small is
infinite. -/
def decimal? (negative : Bool) (cs : List Char) : Option Setting := do
  let cs ← ungrouped? Char.isDigit cs
  if cs = ['i', 'n', 'f'] then return .real (Binary64.ofNumeral (.infinite negative))
  else if cs = ['n', 'a', 'n'] then return .real (Binary64.ofNumeral .notANumber)
  else if !Json.Token.isMagnitude cs then none
  else if cs.all Char.isDigit then
    let n : Int := if negative then -Numeral.ofDigits cs else Numeral.ofDigits cs
    if fitsSigned n then return .whole n else none
  else
    let numeral ← (Numeral.read (String.ofList (if negative then '-' :: cs else cs))).toOption
    let x := Binary64.ofNumeral numeral
    if negative || x.isFinite then return .real x else none

/-- A word without quotes. -/
def word? (cs : List Char) : Option Setting :=
  match cs with
  | ['t', 'r', 'u', 'e'] => some (.bool true)
  | ['f', 'a', 'l', 's', 'e'] => some (.bool false)
  | '0' :: 'x' :: ds => (inBase? 16 ds).map .whole
  | '0' :: 'o' :: ds => (inBase? 8 ds).map .whole
  | '0' :: 'b' :: ds => (inBase? 2 ds).map .whole
  | '-' :: cs => decimal? true cs
  | '+' :: cs => decimal? false cs
  | cs => decimal? false cs

/-- The characters of words without quotes. -/
def isWordPart (c : Char) : Bool := c.isAlphanum || c == '_' || c == '-' || c == '+' || c == '.'

end Chargeback.Toml
