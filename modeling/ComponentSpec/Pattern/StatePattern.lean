import ComponentSpec.Pattern.Reading

/-!
# ComponentSpec.Pattern.StatePattern

Patterns for the names of states. The text of a pattern is enclosed so that the pattern as a whole
stands between the two ends of a name.
-/

namespace ComponentSpec

open Pattern (SizeLimit)

def wholePattern (pattern : String) : List Char := Pattern.enclose pattern.toList

/-- The test that the pattern of a state puts names to, if patterns may not be too large. -/
def statePatternWithin? (limit : SizeLimit) (pattern : String) : Option (String → Bool) :=
  (Pattern.Expr.ofChars? limit (wholePattern pattern)).map fun e name => e.isFoundIn name.toList

/-- The test that the pattern of a state puts names to. -/
def statePattern? : String → Option (String → Bool) := statePatternWithin? .unlimited

end ComponentSpec
