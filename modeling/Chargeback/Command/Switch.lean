import Chargeback.Assoc
import Chargeback.Text.Quoted
import Chargeback.Text.Split

/-!
# Options on a command line

An option has a long name and possibly a letter. Its value follows an equals sign or is the next
argument; after a letter it may also follow at once. Letters of options without values can be put
together. Two dashes end the options. An option that takes one value or none is given once at most,
one that takes a list may be given several times, and its values are separated by commas.
-/

namespace Chargeback.Command

/-- What an option takes. -/
inductive Takes where
  | nothing
  | value
  | values
  deriving DecidableEq, Repr

/-- An option. -/
structure Switch where
  name : String
  letter : Option Char := none
  takes : Takes := .value
  deriving DecidableEq, Repr

/-- Why a command line is refused. -/
inductive Misuse where
  | unexpected (argument : String)
  | missingValue (option : String)
  | needlessValue (option : String)
  | repeated (option : String)
  | invalidValue (option value : String)
  | missingOption (option : String)
  | missingCommand
  deriving DecidableEq, Repr

/-- The wording of a misuse. -/
def Misuse.message : Misuse → String
  | .unexpected argument => s!"unexpected argument {quoted argument}"
  | .missingValue option => s!"option --{option} needs a value"
  | .needlessValue option => s!"option --{option} takes no value"
  | .repeated option => s!"option --{option} is given more than once"
  | .invalidValue option value => s!"invalid value {quoted value} of option --{option}"
  | .missingOption option => s!"option --{option} is missing"
  | .missingCommand => "a command is missing"

/-! ## Arguments -/

/-- What an argument looks like. -/
inductive Argument where
  | plain (s : String)
  /-- Two dashes. -/
  | separator
  | long (name : String) (value : Option String)
  | letters (cs : List Char)
  deriving DecidableEq, Repr

/-- What an argument looks like. One dash alone is plain. -/
def Argument.ofString (s : String) : Argument :=
  match s.toList with
  | ['-', '-'] => .separator
  | '-' :: '-' :: cs =>
    match cut? '=' (String.ofList cs) with
    | some (name, value) => .long name (some value)
    | none => .long (String.ofList cs) none
  | ['-'] => .plain s
  | '-' :: cs => .letters cs
  | _ => .plain s

/-! ## Options that have been given -/

/-- The values of the options that have been given, by name. -/
abbrev Given := Assoc (List String)

namespace Given

/-- Takes note of an option and its value. -/
def add (given : Given) (s : Switch) (value : String) : Except Misuse Given :=
  match s.takes, given.get? s.name with
  | .values, earlier => .ok (given.insert s.name (earlier.getD [] ++ pieces ',' value))
  | _, none => .ok (given.insert s.name [value])
  | _, some _ => .error (.repeated s.name)

/-- Takes note of options without values by their letters, up to one that takes a value: that
follows, unless the letters end there. -/
def addLetters (switches : List Switch) (given : Given) :
    List Char → Except Misuse (Given × Option Switch)
  | [] => .ok (given, none)
  | c :: cs =>
    match switches.find? (·.letter == some c) with
    | none => .error (.unexpected (String.ofList ['-', c]))
    | some s =>
      if s.takes = .nothing then (given.add s "").bind fun given => addLetters switches given cs
      else
        match cs with
        | [] => .ok (given, some s)
        | '=' :: value => (given.add s (String.ofList value)).map (·, none)
        | value => (given.add s (String.ofList value)).map (·, none)

/-- Takes note of an argument. The result names the option whose value is to come, if any. -/
def addArgument (switches : List Switch) (given : Given) :
    Argument → Except Misuse (Given × Option Switch)
  | .long name value =>
    match switches.find? (·.name == name), value with
    | none, _ => .error (.unexpected ("--" ++ name))
    | some s, none =>
      if s.takes = .nothing then (given.add s "").map (·, none) else .ok (given, some s)
    | some s, some value =>
      if s.takes = .nothing then .error (.needlessValue s.name) else (given.add s value).map (·, none)
  | .letters cs => given.addLetters switches cs
  | .plain s => .error (.unexpected s)
  | .separator => .error (.unexpected "--")

/-- Reads options up to the name of a command, which is left in front of the rest. -/
def scan (switches : List Switch) (commands : List String) (given : Given) :
    List String → Except Misuse (Given × List String)
  | [] => .ok (given, [])
  | argument :: rest =>
    match Argument.ofString argument with
    | .plain s =>
      if commands.contains s then .ok (given, argument :: rest) else .error (.unexpected argument)
    | .separator =>
      match rest with
      | [] => .ok (given, [])
      | argument :: _ => .error (.unexpected argument)
    | a =>
      match given.addArgument switches a with
      | .error e => .error e
      | .ok (given, none) => scan switches commands given rest
      | .ok (given, some s) =>
        match rest with
        | [] => .error (.missingValue s.name)
        | value :: rest =>
          match Argument.ofString value with
          | .plain _ => (given.add s value).bind fun given => scan switches commands given rest
          | _ => .error (.missingValue s.name)

/-! ## Values of options -/

/-- Whether an option has been given. -/
def flag (given : Given) (name : String) : Bool := (given.get? name).isSome

/-- The values of an option. -/
def values (given : Given) (name : String) : List String := (given.get? name).getD []

/-- The value of an option, if it has been given. -/
def value? (given : Given) (name : String) : Option String := (values given name).head?

/-- The value of an option that has to be given. -/
def required (given : Given) (name : String) : Except Misuse String :=
  match given.value? name with
  | some value => .ok value
  | none => .error (.missingOption name)

/-- The value of an option, read as something else. -/
def parsed? {β : Type} (given : Given) (name : String) (read? : String → Option β) :
    Except Misuse (Option β) :=
  match given.value? name with
  | none => .ok none
  | some value =>
    match read? value with
    | some b => .ok (some b)
    | none => .error (.invalidValue name value)

end Given

end Chargeback.Command
