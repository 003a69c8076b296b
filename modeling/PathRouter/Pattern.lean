/-!
Route patterns. A pattern is a list of segments, each a literal or a variable; a variable that may stand
for several path segments is quantified.
-/

namespace PathRouter

inductive Quantifier where
  | plus
  | star
  deriving Repr, DecidableEq

inductive Segment where
  | literal (text : String)
  | var (name : String) (quantifier : Option Quantifier)
  deriving Repr, DecidableEq

namespace Segment

def isVariable : Segment → Bool
  | .literal _ => false
  | .var _ _ => true

def isStar : Segment → Bool
  | .var _ (some .star) => true
  | _ => false

def isQuantified : Segment → Bool
  | .var _ (some _) => true
  | _ => false

end Segment

structure Pattern where
  segments : List Segment
  source : String
  deriving Repr, DecidableEq

namespace Pattern

def hasVariables (p : Pattern) : Bool :=
  p.segments.any Segment.isVariable

/-- In a template braces mark variables and literals are percent-encoded; verbatim, every character is
data. -/
inductive Mode where
  | template
  | verbatim
  deriving Repr, DecidableEq

inductive Cause where
  | missingLeadingSlash
  | trailingSlash
  | emptySegment
  | illegalToken (token : Char)
  | malformedEscape
  | unclosedVariable
  | emptyVariableName
  | misplacedQuantifier
  | duplicateVariable (name : String)
  deriving Repr, DecidableEq

def Cause.reason : Cause → String
  | .missingLeadingSlash => "Routes must start with \"/\""
  | .trailingSlash => "Routes with trailing \"/\" not supported"
  | .emptySegment => "Routes with empty segments not supported"
  | .illegalToken token => "Route contains illegal token \"" ++ token.toString ++ "\""
  | .malformedEscape => "Route contains malformed percent-encodings"
  | .unclosedVariable => "Route variable is missing a matching \"\x7d\""
  | .emptyVariableName => "Route variable name must not be empty"
  | .misplacedQuantifier => "Quantified route variables must be the last segment"
  | .duplicateVariable name => "Route contains duplicate variable \"" ++ name ++ "\""

structure Fault where
  cause : Cause
  offset : Nat
  deriving Repr, DecidableEq

def Fault.shift (start : Nat) (fault : Fault) : Fault :=
  { fault with offset := start + fault.offset }

structure SyntaxError where
  cause : Cause
  offset : Nat
  source : String
  deriving Repr, DecidableEq

def SyntaxError.message (e : SyntaxError) : String :=
  e.cause.reason ++ " at offset " ++ toString e.offset ++ " in \"" ++ e.source ++ "\""

end Pattern

end PathRouter
