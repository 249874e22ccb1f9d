import CsrCensus.Log.Record

/-!
# Directives

A directive says which records of some sources are shown. Of several directives
about one record the most specific decides.
-/

namespace CsrCensus.Log

/-- What a directive is about. -/
inductive Subject where
  | records
  /-- Only the records that have a value of this name. -/
  | recordsWith (name : String)
  /-- What happens inside certain spans. No record is made inside a span. -/
  | spans
deriving DecidableEq, Repr

/-- What is shown of the sources whose name begins with `target`. -/
structure Directive where
  target : String
  subject : Subject
  /-- The least important level that is shown; none shows nothing. -/
  level : Option Level
deriving DecidableEq, Repr

namespace Directive

def concerns (directive : Directive) (record : Record) : Bool :=
  directive.target.toList.isPrefixOf record.source.name.toList &&
    match directive.subject with
    | .records => true
    | .recordsWith name => record.hasValue name
    | .spans => false

def shows (directive : Directive) (record : Record) : Bool :=
  directive.level.any fun level => record.level.rank ≤ level.rank

/-- The name of the value that a directive asks for; empty if it asks for
none. -/
def valueName (directive : Directive) : String :=
  match directive.subject with
  | .recordsWith name => name
  | _ => ""

def asksValue (directive : Directive) : Bool :=
  match directive.subject with
  | .recordsWith _ => true
  | _ => false

/-- Whether one of two directives about the same record goes before the other:
the one with the longer target, then the one that asks for a value, then the one
whose value has the later name. -/
def isBefore (left right : Directive) : Bool :=
  if left.target.length ≠ right.target.length then
    right.target.length < left.target.length
  else if left.asksValue ≠ right.asksValue then left.asksValue
  else right.valueName < left.valueName

end Directive

end CsrCensus.Log
