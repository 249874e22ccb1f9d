import CsrCensus.Json.Skip

/-!
# Reading records

A record with named fields is written as an object, or as a list of its leading
fields. Fields that are missing keep their values, and members of other names
are skipped.
-/

namespace CsrCensus.Json

/-- Reads a value of another type than the wanted one. -/
def readFound (first : Char) : Reader Found := do
  if first = 'n' then
    readLiteral "null".toList
    return .null
  else if first = 't' then
    readLiteral "true".toList
    return .boolean true
  else if first = 'f' then
    readLiteral "false".toList
    return .boolean false
  else if first = '-' ∨ isDigit first then return (← readNumber).found
  else if first = '"' then
    skipChar
    return .text (← readText)
  else if first = '[' then return .sequence
  else if first = '\x7b' then return .map
  else failNext .expectedValue

/-- Fails because of a value of another type. -/
def failType {result : Type} (wanted : String) (first : Char) :
    Reader result := do
  let found ← readFound first
  failHere (.invalidType found wanted)

def readBoolean : Reader Bool := do
  match ← peekToken with
  | none => failNext .endInValue
  | some first =>
      if first = 't' then
        readLiteral "true".toList
        return true
      else if first = 'f' then
        readLiteral "false".toList
        return false
      else failType "a boolean" first

def readString (wanted : String) : Reader String := do
  match ← peekToken with
  | none => failNext .endInValue
  | some first =>
      if first = '"' then
        skipChar
        readText
      else failType wanted first

/-- Reads an integer below `2 ^ 64`. -/
def readUInt64 : Reader UInt64 := do
  match ← peekToken with
  | none => failNext .endInValue
  | some first =>
      if first = '-' ∨ isDigit first then
        match ← readNumber with
        | .natural value => return UInt64.ofNat value
        | .negative magnitude =>
            failHere (.invalidValue (.negative magnitude) "u64")
        | .floating value =>
            failHere (.invalidType (Number.floating value).found "u64")
      else failType "u64" first

def readNull : Reader Unit := do
  match ← peekToken with
  | none => failNext .endInValue
  | some first =>
      if first = 'n' then readLiteral "null".toList else failType "unit" first

/-- A choice between two named alternatives. -/
structure Choice (alternative : Type) where
  firstName : String
  first : alternative
  secondName : String
  second : alternative

/-- Reads the name of an alternative after its opening quote. -/
def readAlternative {alternative : Type} (choice : Choice alternative) :
    Reader alternative := do
  let name ← readText
  if name = choice.firstName then return choice.first
  else if name = choice.secondName then return choice.second
  else failHere (.unknownVariant name choice.firstName choice.secondName)

/-- Reads a choice in the form of an object: the name of the alternative, and
null. -/
def readTagged {alternative : Type} (choice : Choice alternative) :
    Reader alternative := do
  match ← peekToken with
  | none => failNext .endInObject
  | some next =>
      if next = '"' then
        skipChar
        let chosen ← readAlternative choice
        readColon
        readNull
        match ← peekToken with
        | none => failHere .endInObject
        | some closing =>
            if closing = '\x7d' then
              skipChar
              return chosen
            else failHere .expectedValue
      else if next = '\x7d' then failNext .expectedValue
      else failNext .keyNotText

/-- Reads a choice: the name of the alternative, alone or in an object. -/
def readChoice {alternative : Type} (choice : Choice alternative) :
    Reader alternative := do
  match ← peekToken with
  | none => failNext .endInValue
  | some first =>
      if first = '"' then
        skipChar
        readAlternative choice
      else if first = '\x7b' then
        skipChar
        readTagged choice
      else failNext .expectedValue

/-! ## Records -/

/-- A field of a record: its name, and how its value is read into the record. -/
structure Field (record : Type) where
  name : String
  read : record → Reader record

/-- Fails because a field is named twice. The closing brace is consumed if it
comes next. -/
def failDuplicate {result : Type} (name : String) : Reader result := do
  if (← peekToken) = some '\x7d' then skipChar
  failHere (.duplicateField name)

/-- Reads the value of a named member into a record. The names of the fields
read are kept. -/
def readMember
    {record : Type} (fields : List (Field record)) (seen : List String)
    (name : String) (current : record) : Reader (List String × record) := do
  match fields.find? fun field => field.name = name with
  | some field =>
      if seen.contains name then failDuplicate name
      readColon
      return (name :: seen, ← field.read current)
  | none =>
      readColon
      skipValue
      return (seen, current)

/-- Reads a member after the quote that opens its key. -/
def readKeyed
    {record : Type} (fields : List (Field record)) (seen : List String)
    (current : record) : Reader (List String × record) := do
  let name ← readText
  readMember fields seen name current

/-- Reads the members after the first one. The first argument bounds their
number. -/
def readMembers {record : Type} (fields : List (Field record)) :
    Nat → List String → record → Reader record
  | 0, _, _ => failNext .endInObject
  | bound + 1, seen, current => do
      match ← peekToken with
      | none => failNext .endInObject
      | some next =>
          if next = '\x7d' then
            skipChar
            return current
          else if next = ',' then
            skipChar
            match ← peekToken with
            | none => failNext .endInValue
            | some quote =>
                if quote = '"' then
                  skipChar
                  let (seen, current) ← readKeyed fields seen current
                  readMembers fields bound seen current
                else if quote = '\x7d' then failNext .trailingComma
                else failNext .keyNotText
          else failNext .expectedCommaOrBrace

/-- Reads an object after its opening brace. -/
def readObject
    {record : Type} (fields : List (Field record)) (current : record) :
    Reader record := do
  match ← peekToken with
  | none => failNext .endInObject
  | some next =>
      if next = '\x7d' then
        skipChar
        return current
      else if next = '"' then
        skipChar
        let (seen, current) ← readKeyed fields [] current
        readMembers fields ((← remaining) + 1) seen current
      else failNext .keyNotText

def readListEnd : Reader Unit := do
  match ← peekToken with
  | none => failNext .endInList
  | some next =>
      if next = ']' then skipChar
      else if next = ',' then
        skipChar
        if (← peekToken) = some ']' then failNext .trailingComma
        else failNext .trailingCharacters
      else failNext .trailingCharacters

def readElements {record : Type} : List (Field record) → record → Reader record
  | [], current => do
      readListEnd
      return current
  | field :: rest, current => do
      match ← peekToken with
      | none => failNext .endInList
      | some next =>
          if next = ']' then
            skipChar
            return current
          else if next = ',' then
            skipChar
            match ← peekToken with
            | none => failNext .endInValue
            | some following =>
                if following = ']' then failNext .trailingComma
                else readElements rest (← field.read current)
          else failNext .expectedCommaOrBracket

/-- Reads a list of leading fields after its opening bracket. -/
def readList {record : Type} (fields : List (Field record)) (current : record) :
    Reader record := do
  match fields with
  | [] =>
      readListEnd
      return current
  | field :: rest =>
      match ← peekToken with
      | none => failNext .endInList
      | some next =>
          if next = ']' then
            skipChar
            return current
          else readElements rest (← field.read current)

/-- Reads a record over the values it has already. -/
def readRecord {record : Type} (wanted : String) (fields : List (Field record))
    (current : record) : Reader record := do
  match ← peekToken with
  | none => failNext .endInValue
  | some first =>
      if first = '\x7b' then
        skipChar
        readObject fields current
      else if first = '[' then
        skipChar
        readList fields current
      else failType wanted first

/-- Reads a whole document, after which only white space may follow. -/
def readDocument {result : Type} (reader : Reader result) (document : String) :
    Except Fault result :=
  let whole : Reader result := do
    let value ← reader
    match ← peekToken with
    | none => return value
    | some _ => failNext .trailingCharacters
  Prod.fst <$> whole (Cursor.start document)

end CsrCensus.Json
