import CsrCensus.Command.Run
import CsrCensus.Listing.Address

/-!
# Command-line arguments

Arguments are read from left to right. Options that belong to all commands may
stand before and after the name of the command; where both places give a log
level, the later one counts. An option may be given once in each place.
-/

namespace CsrCensus.Command

/-- How the options of one place are spelled. -/
structure OptionSpec where
  long : String
  short : Option Char
  takesValue : Bool
deriving DecidableEq, Repr

/-- An argument that was read. -/
inductive Item where
  | flag (long : String)
  | value (long value : String)
  | positional (text : String)
deriving DecidableEq, Repr

def sharedSpecs : List OptionSpec :=
  [⟨"log-level", none, true⟩, ⟨"verbose", some 'v', false⟩]

/-- The letter of the version option. Letters after it do not count. -/
def versionLetter : Char := 'V'

def topSpecs : List OptionSpec :=
  ⟨"version", some versionLetter, false⟩ :: sharedSpecs

def surveySpecs : List OptionSpec :=
  [ ⟨"output", some 'o', true⟩, ⟨"format", some 'f', true⟩,
    ⟨"config", some 'c', true⟩,
    ⟨"little-endian", none, false⟩, ⟨"csr-names", none, false⟩ ] ++ sharedSpecs

def listingSpecs : List OptionSpec :=
  [ ⟨"base", some 'b', true⟩, ⟨"format", some 'f', true⟩,
    ⟨"big-endian", none, false⟩,
    ⟨"output", some 'o', true⟩, ⟨"config", some 'c', true⟩ ] ++ sharedSpecs

/-- What an argument can be taken for. -/
inductive Shape where
  /-- Two dashes: only positional arguments follow. -/
  | separator
  /-- A long option and its attached value. -/
  | long (name : String) (value : Option String)
  /-- Letters after one dash. -/
  | short (letters : List Char)
  | plain
deriving DecidableEq, Repr

/-- The shape of an argument. A single dash is plain. -/
def shapeOf (argument : String) : Shape :=
  match argument.toList with
  | ['-', '-'] => .separator
  | '-' :: '-' :: rest =>
      let name := String.ofList (rest.takeWhile (· != '='))
      match rest.dropWhile (· != '=') with
      | [] => .long name none
      | _ :: value => .long name (some (String.ofList value))
  | '-' :: first :: rest => .short (first :: rest)
  | _ => .plain

def isValue (argument : String) : Bool :=
  shapeOf argument = .plain

/-- The items of the letters after one dash, and the option that still needs a
value. A value may be attached to its letter, with or without an equals sign. -/
def readLetters (specs : List OptionSpec) :
    List Char → Option (List Item × Option String)
  | [] => some ([], none)
  | letter :: rest => do
      let spec ← specs.find? fun spec => spec.short = some letter
      if spec.takesValue then
        match rest with
        | [] => return ([], some spec.long)
        | '=' :: value =>
            return ([.value spec.long (String.ofList value)], none)
        | value => return ([.value spec.long (String.ofList value)], none)
      else
        let (items, pending) ← readLetters specs rest
        return (.flag spec.long :: items, pending)

/-- The item of a long option, or the option that still needs a value. -/
def readLong (specs : List OptionSpec) (name : String) (value : Option String) :
    Option (List Item × Option String) := do
  let spec ← specs.find? fun spec => spec.long = name
  match spec.takesValue, value with
  | true, some value => return ([.value spec.long value], none)
  | true, none => return ([], some spec.long)
  | false, none => return ([.flag spec.long], none)
  | false, some _ => none

/-- The items of arguments. Absent if an option is not known, or lacks its
value, or has one it does not take. -/
def readItems (specs : List OptionSpec) :
    Option String → List String → Option (List Item)
  | some _, [] => none
  | none, [] => some []
  | some long, argument :: rest =>
      if isValue argument then
        (readItems specs none rest).map (.value long argument :: ·)
      else none
  | none, argument :: rest =>
      match shapeOf argument with
      | .separator => some (rest.map .positional)
      | .plain => (readItems specs none rest).map (.positional argument :: ·)
      | .long name value => do
          let (items, pending) ← readLong specs name value
          return items ++ (← readItems specs pending rest)
      | .short letters => do
          let (items, pending) ← readLetters specs letters
          return items ++ (← readItems specs pending rest)

/-- The values given for an option. -/
def valuesOf (items : List Item) (long : String) : List String :=
  items.filterMap fun item =>
    match item with
    | .value name value => if name = long then some value else none
    | _ => none

/-- How often a flag is given. -/
def flagCount (items : List Item) (long : String) : Nat :=
  items.countP fun item => item = .flag long

def positionals (items : List Item) : List String :=
  items.filterMap fun item =>
    match item with
    | .positional text => some text
    | _ => none

/-- An option that may be given once. The outer option is absent if it is given
more often, or if its value is not valid. -/
def single
    {value : Type} (items : List Item) (long : String)
    (read : String → Option value) :
    Option (Option value) :=
  match valuesOf items long with
  | [] => some none
  | [text] => (read text).map some
  | _ => none

/-- A flag that may be given once. -/
def flag (items : List Item) (long : String) : Option Bool :=
  match flagCount items long with
  | 0 => some false
  | 1 => some true
  | _ => none

/-- A path, which must not be empty. -/
def readPath (text : String) : Option String :=
  if text.isEmpty then none else some text

def readFormat (text : String) : Option Image.FormatChoice :=
  if text = "auto" then some .auto
  else if text = "raw" then some (.only .raw)
  else if text = "elf" then some (.only .elf)
  else none

def readLevel (text : String) : Option Log.Level :=
  if text = "error" then some .error
  else if text = "warn" then some .warn
  else if text = "info" then some .info
  else if text = "debug" then some .debug
  else if text = "trace" then some .trace
  else none

def readAddress (text : String) : Option UInt64 :=
  (Address.parse text).toOption

/-- The only positional argument, a path. -/
def imagePath (items : List Item) : Option String :=
  match positionals items with
  | [path] => readPath path
  | _ => none

/-! ## Invocations -/

/-- Options of all commands, as given in one place. -/
structure Shared where
  level : Option Log.Level
  verbose : Bool
deriving DecidableEq, Repr

/-- A command and the least important level that it logs. -/
structure Invocation where
  request : Request
  level : Log.Level
deriving DecidableEq, Repr

/-- What a command line asks for. -/
inductive Demand where
  | version
  | run (invocation : Invocation)
deriving DecidableEq, Repr

def readShared (items : List Item) : Option Shared := do
  return ⟨← single items "log-level" readLevel, ← flag items "verbose"⟩

/-- The level logged with options before and after the name of the command. -/
def effectiveLevel (before after : Shared) : Log.Level :=
  if before.verbose || after.verbose then .debug
  else after.level.getD (before.level.getD .warn)

def readSurvey (items : List Item) : Option SurveyRequest := do
  return {
    image := ← imagePath items
    output := ← single items "output" readPath
    format := (← single items "format" readFormat).getD .auto
    settings := ← single items "config" readPath
    littleEndian := ← flag items "little-endian"
    showNames := ← flag items "csr-names" }

def readListing (items : List Item) : Option ListingRequest := do
  return {
    image := ← imagePath items
    base := ← single items "base" readAddress
    format := (← single items "format" readFormat).getD .auto
    bigEndian := ← flag items "big-endian"
    output := (← single items "output" readPath).getD standardOutputPath
    settings := ← single items "config" readPath }

def readCommand (before : Shared) (name : String) (arguments : List String) :
    Option Invocation := do
  if name = "scan" then
    let items ← readItems surveySpecs none arguments
    let after ← readShared items
    return ⟨.survey (← readSurvey items), effectiveLevel before after⟩
  else if name = "listing" then
    let items ← readItems listingSpecs none arguments
    let after ← readShared items
    return ⟨.listing (← readListing items), effectiveLevel before after⟩
  else none

/-- Letters up to the one that asks for the version. -/
def cutLetters (letters : List Char) : List Char :=
  letters.takeWhile (· != versionLetter) ++
    (if letters.contains versionLetter then [versionLetter] else [])

/-- Whether the version is asked for among items of which the ones before are
valid. -/
def asksVersion (items : List Item) : Bool :=
  items.contains (.flag "version") &&
    (readShared (items.takeWhile (· != .flag "version"))).isSome

/-- Reads options up to the name of the command. The items read so far are
given, and the option that still needs a value. -/
def readTop (read : List Item) : Option String → List String → Option Demand
  | _, [] => none
  | some long, argument :: rest =>
      if isValue argument then
        readTop (read ++ [.value long argument]) none rest
      else none
  | none, argument :: rest =>
      match shapeOf argument with
      | .separator => none
      | .plain => do
          return .run (← readCommand (← readShared read) argument rest)
      | .long name value => do
          let (items, pending) ← readLong topSpecs name value
          if asksVersion (read ++ items) then return .version
          readTop (read ++ items) pending rest
      | .short letters => do
          let (items, pending) ← readLetters topSpecs (cutLetters letters)
          if asksVersion (read ++ items) then return .version
          readTop (read ++ items) pending rest

/-- The answer to a question for the version. -/
def versionText : String := "csrscan 0.3.0\n"

/-- What a command line asks for; absent if it is not valid. -/
def readArguments (arguments : List String) : Option Demand :=
  readTop [] none arguments

end CsrCensus.Command
