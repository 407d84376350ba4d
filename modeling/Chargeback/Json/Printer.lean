import Chargeback.Decimal.Shortest
import Chargeback.Json.Value

/-!
# Writing JSON

A value is written either on one line or with every item and member on a line of its own, indented
by two spaces. Strings escape the quote, the backslash and controls only. A floating-point number is
written with the fewest digits that read back, an even last digit in a tie: in full while its
leading digit is between `10 ^ -5` and `10 ^ 15`, with at least one decimal place, and with an
exponent otherwise.
-/

namespace Chargeback

/-- The text of a finite number, nothing for infinities and not-a-number. -/
def jsonNumber? (x : Float) : Option String :=
  match Binary64.ofFloat x with
  | .finite negative m q =>
    let magnitude := if m = 0 then "0.0" else
      let d := Decimal.shortest .even m q
      if -5 ≤ d.magnitude ∧ d.magnitude < 16 then
        match d.positional with
        | (whole, "") => whole ++ ".0"
        | (whole, fraction) => whole ++ "." ++ fraction
      else d.scientific
    some (if negative then "-" ++ magnitude else magnitude)
  | _ => none

namespace Json

/-- A number as a value. Numbers that are not finite have no literal and become null. -/
def ofFloat (x : Float) : Json := ((jsonNumber? x).map .number).getD .null

/-- The written form of a character inside a string. -/
def escaped (c : Char) : List Char :=
  match c with
  | '"' => ['\\', '"']
  | '\\' => ['\\', '\\']
  | '\x08' => ['\\', 'b']
  | '\x0c' => ['\\', 'f']
  | '\n' => ['\\', 'n']
  | '\r' => ['\\', 'r']
  | '\t' => ['\\', 't']
  | c =>
    if c.toNat < 0x20 then
      ['\\', 'u', '0', '0', Nat.digitChar (c.toNat / 16), Nat.digitChar (c.toNat % 16)]
    else [c]

/-- A string in quotes. -/
def quote (s : String) : String := String.ofList ('"' :: s.toList.flatMap escaped ++ ['"'])

mutual

/-- A value on one line, without blanks. A broken string is written as null. -/
def compact : Json → String
  | .null | .broken => "null"
  | .bool b => if b then "true" else "false"
  | .number literal => literal
  | .string s => quote s
  | .array items => "[" ++ ",".intercalate (compactItems items) ++ "]"
  | .object members => "\x7b" ++ ",".intercalate (compactMembers members) ++ "\x7d"

/-- The items of an array, each on one line. -/
def compactItems : List Json → List String
  | [] => []
  | v :: vs => v.compact :: compactItems vs

/-- The members of an object, each on one line. -/
def compactMembers : List (String × Json) → List String
  | [] => []
  | (k, v) :: ms => (quote k ++ ":" ++ v.compact) :: compactMembers ms

end

/-- A line break and the indentation of a level. -/
def newLine (level : Nat) : String := String.ofList ('\n' :: List.replicate (2 * level) ' ')

/-- Items between brackets, one a line; none at all stay within the brackets. -/
def block (opening closing : String) (level : Nat) (items : List String) : String :=
  if items.isEmpty then opening ++ closing
  else
    opening ++ newLine (level + 1) ++ ("," ++ newLine (level + 1)).intercalate items ++
      newLine level ++ closing

mutual

/-- A value over several lines, at a level of indentation. -/
def pretty (level : Nat) : Json → String
  | .null | .broken => "null"
  | .bool b => if b then "true" else "false"
  | .number literal => literal
  | .string s => quote s
  | .array items => block "[" "]" level (prettyItems (level + 1) items)
  | .object members => block "\x7b" "\x7d" level (prettyMembers (level + 1) members)

/-- The items of an array at a level of indentation. -/
def prettyItems (level : Nat) : List Json → List String
  | [] => []
  | v :: vs => v.pretty level :: prettyItems level vs

/-- The members of an object at a level of indentation. -/
def prettyMembers (level : Nat) : List (String × Json) → List String
  | [] => []
  | (k, v) :: ms => (quote k ++ ": " ++ v.pretty level) :: prettyMembers level ms

end

end Json

end Chargeback
