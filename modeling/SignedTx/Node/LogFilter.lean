import SignedTx.Node.LogFilter.Directive

/-!
# Log filters

A filter is a list of directives between commas. A directive about a span needs the spans of a
running program; the others do not, and neither does one whose only condition is that a span has a
field, so such a directive is kept twice. Directives are kept from the most specific to the least,
and of several for the same things the last one wins.
-/

set_option autoImplicit false

namespace SignedTx

/-- Directives that need no running program, and directives about spans. -/
structure LogFilter where
  targets : List LogFilter.Directive := []
  spans : List LogFilter.Directive := []
deriving DecidableEq, Repr

namespace LogFilter

def Directive.isAboutSpans (directive : Directive) : Bool :=
  directive.span.isSome || directive.field.isSome

/-- Whether a directive can be decided without a running program. -/
def Directive.isFixed (directive : Directive) : Bool :=
  directive.span.isNone && directive.field.all (·.value.isNone)

def insert (filter : LogFilter) (directive : Directive) : LogFilter where
  targets := if directive.isFixed then directive.insert filter.targets else filter.targets
  spans := if directive.isAboutSpans then directive.insert filter.spans else filter.spans

/-- Reads the directives between commas; nothing between two commas is no directive. -/
def parse (text : String) : Except Failure LogFilter := do
  let parts := (text.toList.splitOn ',').filter (!·.isEmpty)
  let directives ← parts.mapM Directive.parse
  return directives.foldl insert {}

def display (filter : LogFilter) : String :=
  String.intercalate "," ((filter.targets ++ filter.spans).map Directive.display)

/--
The filter that a text denotes, or the one for the level `info` if it denotes none; nothing if a
part of the text is cut inside a character.
-/
def orInfo? (text : String) : Option LogFilter :=
  match parse text with
  | .ok filter => some filter
  | .error (.refused _) => some (({} : LogFilter).insert { level := .info })
  | .error .brokenCharacter => none

end LogFilter
end SignedTx
