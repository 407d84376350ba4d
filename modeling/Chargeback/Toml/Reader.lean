import Chargeback.Toml.Date
import Chargeback.Toml.Table
import Chargeback.Toml.Word

/-!
# Reading TOML

A document is a row of lines, each a header, a key with its value, or blank; a value may go on over
several lines. `Toml.parse?` reads a document, in which dates and times are texts.
-/

namespace Chargeback.Toml

/-- Skips blanks, ends of lines and comments. A control character ends a comment. -/
def skipFiller (comment : Bool) : List Char → List Char
  | [] => []
  | '\n' :: cs => skipFiller false cs
  | '\r' :: '\n' :: cs => skipFiller false cs
  | c :: cs =>
    if comment then
      if isControl c then c :: cs else skipFiller true cs
    else if isSpace c then skipFiller false cs
    else if c = '#' then skipFiller true cs
    else c :: cs

/-- What follows the end of a line; a comment is left to be skipped. -/
def endOfLine? (cs : List Char) : Option (List Char) :=
  match cs.dropWhile isSpace with
  | [] => some []
  | '\n' :: rest => some rest
  | '\r' :: '\n' :: rest => some rest
  | '#' :: rest => some ('#' :: rest)
  | _ => none

/-! ## Keys -/

/-- One part of a key. -/
def keyPart? : List Char → Option (String × List Char)
  | '"' :: rest => basic? false false [] rest
  | '\'' :: rest => literal? false [] rest
  | cs =>
    let isBare (c : Char) : Bool := c.isAlphanum || c == '_' || c == '-'
    let bare := cs.takeWhile isBare
    if bare.isEmpty then none else some (String.ofList bare, cs.dropWhile isBare)

/-- A key of at most so many parts, with points between them. What follows it starts with no
blank. -/
def keyOf? (most : Nat) (cs : List Char) : Option (List String × List Char) :=
  match most with
  | 0 => none
  | most + 1 => do
    let (part, rest) ← keyPart? (cs.dropWhile isSpace)
    match rest.dropWhile isSpace with
    | '.' :: rest =>
      let (parts, rest) ← keyOf? most rest
      return (part :: parts, rest)
    | rest => return ([part], rest)

/-- How deeply values are nested at most, and how many parts a key has. -/
def maxDepth : Nat := 79

/-- A key, and what follows it. -/
def key? (cs : List Char) : Option (List String × List Char) := keyOf? maxDepth cs

/-- Defines a value under a key. -/
def define (key : List String) (v : Setting) (members : Members) : Option Members :=
  match key.reverse with
  | [] => none
  | name :: path => assign path.reverse name v members

/-! ## Values -/

mutual

/-- A value in which others are nested so deeply at most, and what follows it. -/
def value? (fuel depth : Nat) (cs : List Char) : Option (Setting × List Char) :=
  match fuel with
  | 0 => none
  | fuel + 1 =>
    match cs with
    | '"' :: _ | '\'' :: _ => (string? cs).map fun r => (.text r.1, r.2)
    | '[' :: rest =>
      if depth = 0 then none
      else (items? fuel (depth - 1) [] (skipFiller false rest)).map fun r => (.list r.1, r.2)
    | '\x7b' :: rest =>
      if depth = 0 then none
      else
        match rest.dropWhile isSpace with
        | '\x7d' :: rest => some (.table [], rest)
        | rest => (pairs? fuel (depth - 1) [] rest).map fun r => (.table (settings r.1), r.2)
    | cs =>
      match moment? cs with
      | some (moment, rest) => some (.text moment, rest)
      | none => (word? (cs.takeWhile isWordPart)).map (·, cs.dropWhile isWordPart)

/-- The items of an array up to its end, after those in `acc`, latest first. -/
def items? (fuel depth : Nat) (acc : List Setting) (cs : List Char) :
    Option (List Setting × List Char) :=
  match fuel with
  | 0 => none
  | fuel + 1 =>
    match cs with
    | ']' :: rest => some (acc.reverse, rest)
    | cs => do
      let (v, rest) ← value? fuel depth cs
      match skipFiller false rest with
      | ',' :: rest => items? fuel depth (v :: acc) (skipFiller false rest)
      | ']' :: rest => return ((v :: acc).reverse, rest)
      | _ => none

/-- The members of a table in braces up to its end, of which some have been read. -/
def pairs? (fuel depth : Nat) (members : Members) (cs : List Char) :
    Option (Members × List Char) :=
  match fuel with
  | 0 => none
  | fuel + 1 => do
    let (key, rest) ← key? cs
    match rest with
    | '=' :: rest =>
      let (v, rest) ← value? fuel depth (rest.dropWhile isSpace)
      let members ← define key v members
      match rest.dropWhile isSpace with
      | ',' :: rest => pairs? fuel depth members rest
      | '\x7d' :: rest => return (members, rest)
      | _ => none
    | _ => none

end

/-! ## Documents -/

/-- What follows the closing brackets of a header and the end of its line. -/
def endOfHeader? (brackets : Nat) (cs : List Char) : Option (List Char) :=
  if (cs.take brackets) = List.replicate brackets ']' then endOfLine? (cs.drop brackets) else none

/-- The lines of a document, in which `path` is the latest header. -/
def lines? (fuel : Nat) (path : List String) (members : Members) (cs : List Char) :
    Option Members :=
  match fuel with
  | 0 => none
  | fuel + 1 =>
    match skipFiller false cs with
    | [] => some members
    | '[' :: '[' :: rest => do
      let (path, rest) ← key? rest
      lines? fuel path (← declare extendedTables path members) (← endOfHeader? 2 rest)
    | '[' :: rest => do
      let (path, rest) ← key? rest
      lines? fuel path (← declare declaredTable path members) (← endOfHeader? 1 rest)
    | cs => do
      let (key, rest) ← key? cs
      match rest with
      | '=' :: rest =>
        let (v, rest) ← value? fuel maxDepth (rest.dropWhile isSpace)
        lines? fuel path (← within path (define key v) members) (← endOfLine? rest)
      | _ => none

/-- The characters of a document without the mark of its byte order. -/
def withoutMark : List Char → List Char
  | '\ufeff' :: cs => cs
  | cs => cs

/-- Reads a document. Of two steps, one at least takes a character. -/
def parse? (text : String) : Option (List (String × Setting)) :=
  (lines? (2 * text.length + 2) [] [] (withoutMark text.toList)).map settings

end Chargeback.Toml
