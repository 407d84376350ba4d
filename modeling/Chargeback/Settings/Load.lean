import Chargeback.Json.Reader
import Chargeback.Settings.Decode
import Chargeback.Settings.Environment
import Chargeback.Surroundings
import Chargeback.Toml.Reader

/-!
# Loading settings

The configuration is read by a library (`Settings.Library`). It is told where a file is looked for:
one that is asked for has to exist, the default one in the home directory is optional. Whatever it
makes of the file and of the environment, settings are loaded only if their own discount is one
(`Settings.load`).

For a library it matters which formats of files it knows. One that knows given formats is
`Library.ofFormats`: there are two layers, a file and the environment on top of it. The format of a
file is told by its extension, which may be left out of the path. `Library.standard` knows the
formats that there are readers for here, TOML and JSON; a library that reads YAML too has it in its
list of formats. What holds of a command holds of it with any library.
-/

namespace Chargeback

namespace Settings

/-! ## Libraries -/

/-- Where a configuration file is looked for. -/
structure Location where
  path : String
  /-- Whether there has to be a file. -/
  required : Bool
  deriving DecidableEq, Repr

/-- What comes of reading a configuration. -/
inductive Reading where
  /-- A file is missing, of no known format, or malformed. -/
  | unreadable
  /-- A setting cannot be taken for what it should be. -/
  | unsuitable
  | read (settings : Settings)
  deriving Repr

/-- What reads a configuration: the file at a location, if one is looked for, and the environment on
top of it. -/
abbrev Library := Surroundings → Option Location → Reading

/-! ## Formats -/

/-- A format of configuration files. -/
structure Format where
  /-- The extensions of its files. -/
  extensions : List String
  /-- Reads the settings of a file. -/
  parse? : String → Option (List (String × Setting))

namespace Format

def toml : Format where
  extensions := ["toml"]
  parse? := Toml.parse?

/-- How deeply a JSON configuration may be nested. -/
def maxDepth : Nat := 127

def json : Format where
  extensions := ["json"]
  parse? text := do
    let v ← Json.parse? text
    if v.depth ≤ maxDepth then
      match ← Setting.ofJson? v with
      | .table members => some members
      | _ => none
    else none

/-- The formats that there are readers for. -/
def standard : List Format := [toml, json]

/-- The extension of the last part of a path. A point at the start does not begin one. -/
def extension? (path : String) : Option String :=
  match (pieces '.' ((pieces '/' path).getLastD "")).reverse with
  | ext :: stem :: rest => if stem = "" ∧ rest = [] then none else some ext
  | _ => none

end Format

section Files

variable (formats : List Format)

/-- The format of the file at a path. -/
def formatOf? (path : String) : Option Format :=
  (Format.extension? path).bind fun ext => formats.find? (·.extensions.contains ext)

/-- The path up to its last name, to which an extension can be added. A path that goes up last has
none. -/
def named? (path : String) : Option String :=
  match (pieces '/' path).reverse.dropWhile fun part => part == "" || part == "." with
  | [] => none
  | part :: parts => if part = ".." then none else some ("/".intercalate (part :: parts).reverse)

/-- The paths with the extension of a format added, each with the format. -/
def completions (path : String) : List (String × Format) :=
  (named? path).toList.flatMap fun path =>
    formats.flatMap fun f => f.extensions.map fun ext => (path ++ "." ++ ext, f)

/-- The file that a path names, with its format: the path itself, or else the path with an
extension. A path that exists and has no known extension names none. -/
def locate (s : Surroundings) (path : String) : Option (String × Format) :=
  if (s.file path).isSome then (formatOf? formats path).map (path, ·)
  else (completions formats path).find? fun c => (s.file c.1).isSome

/-- All paths at which a file may be looked for. -/
def candidates (path : String) : List String := path :: (completions formats path).map Prod.fst

/-- The layer of the file at a location. -/
def fileLayer? (s : Surroundings) (l : Location) : Option (List (String × Setting)) :=
  match locate formats s l.path with
  | none => if l.required then none else some []
  | some (path, format) => (s.file path).bind format.parse?

/-- All layers of the configuration in one tree. -/
def tree? (s : Surroundings) (location? : Option Location) : Option Setting := do
  let base ← match location? with
    | some l => fileLayer? formats s l
    | none => some []
  return ((Setting.table []).overlay base).overlay (Environment.layer s.environment)

/-- A library of the formats. -/
def Library.ofFormats : Library := fun s location? =>
  match tree? formats s location? with
  | none => .unreadable
  | some tree =>
    match ofSetting? tree with
    | none => .unsuitable
    | some settings => .read settings

end Files

/-- The library of the formats that there are readers for. -/
def Library.standard : Library := .ofFormats Format.standard

/-! ## Loading -/

/-- The path of the default file, without its extension. -/
def defaultPath (home : String) : String := home ++ "/.config/kcost/config"

/-- The file that is looked for: that of the path, if there is one, else the default. -/
def location? (s : Surroundings) (path : Option String) : Option Location :=
  match path, s.home with
  | some path, _ => some { path, required := true }
  | none, some home => some { path := defaultPath home, required := false }
  | none, none => none

/-- Settings that have been read, if they are valid. -/
def Reading.validated : Reading → Except Failure Settings
  | .unreadable => .error .unreadableSettings
  | .unsuitable => .error .unsuitableSettings
  | .read settings => settings.validated

/-- Loads the configuration. -/
def load (s : Surroundings) (path : Option String) (library : Library := .standard) :
    Except Failure Settings :=
  (library s (location? s path)).validated

end Settings

end Chargeback
