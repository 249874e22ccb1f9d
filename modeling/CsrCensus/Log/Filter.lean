import CsrCensus.Log.DirectiveText

/-!
# Log filters

A filter is a list of directives. Of the directives about a record the one that
goes before all others decides whether the record is shown; a record that no
directive is about is not shown.
-/

namespace CsrCensus.Log

/-- A list of directives; of two that differ in their level only the later one
counts. -/
abbrev Filter := List Directive

namespace Filter

/-- The filter that shows a level, and everything more important, of all
sources. -/
def ofLevel (level : Level) : Filter := [⟨"", .records, some level⟩]

def decisive? (filter : Filter) (record : Record) : Option Directive :=
  filter.foldl
    (fun best directive =>
      if !directive.concerns record || best.any (·.isBefore directive) then best
      else some directive)
    none

def shows (filter : Filter) (record : Record) : Bool :=
  (filter.decisive? record).any (·.shows record)

/-- Reads a filter: directives between commas. Without any directive only errors
are shown. -/
def ofText? (text : String) : Option Filter := do
  let directives ← (Text.splitNonempty ',' text.toList).mapM readDirective
  return if directives.isEmpty then ofLevel .error else directives

end Filter

end CsrCensus.Log
