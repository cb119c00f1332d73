import PostFilter.Pattern.Fault
import PostFilter.Replacement.Basic
import PostFilter.Spell.Argument
import PostFilter.Spell.Kind
import PostFilter.Text.Position

/-!
# Documents — faults

What can be wrong with the text of a rule list. `Cause` has one constructor for each thing that can
be wrong; `Cause.kind` sorts the causes into classes that a caller may react to, and `Cause.message`
words them. A `SourceFault` is a cause at a position.
-/

namespace PostFilter

open Text

/-- What is wrong inside an argument. -/
inductive ArgumentFault where
  | numberExpected (found : String)
  | numberTooLarge (found : String)
  | rangeReversed (range : NumberRange)
  | sizeExpected (found : String)
  | dimensionTooLarge (value : UInt64)
  | sizeReversed (range : SizeRange)
  | comparisonExpected
  | boundExpected
  | rangeNeedsEqual
  | checkUnknown (word : String)
  | hashTooLarge (found : String)
  | hashInvalid (found : String)
  deriving DecidableEq

/-- Classes of causes. -/
inductive FaultKind where
  | missingOperator
  | unknownSpell
  | missingArgument
  | unexpectedArgument
  | invalidArgument
  | invalidScope
  | unbalancedParenthesis
  | invalidRegex
  | replacementWhereOperatorExpected
  | replacementInExpression
  | replacementInGroup
  | operatorAfterReplacement
  | unexpectedToken
  | unexpectedEnd
  | limitExceeded
  deriving DecidableEq, Repr

/-- What is wrong with the text of a rule list. A `found` is the character that stands in the way,
or nothing at the end of the text. -/
inductive Cause where
  | sourceTooLarge (size limit : Nat)
  | nestedTooDeep (limit : Nat)
  | strayClose
  | operandMissing
  | operandExpected (found : Char)
  | replacementInGroup
  | replacementInExpression
  | groupEmpty
  | groupUnclosed
  | replacementForJoiner
  | joinerMissing
  | joinerExpected (found : Char)
  | wordMissing
  | spellUnknown (word : String)
  | argumentUnexpected (kind : Kind)
  | argumentMissing (kind : Kind)
  | argumentEmpty (kind : Kind)
  | argumentUnclosed
  | argumentInvalid (kind : Kind) (fault : ArgumentFault)
  | closeExpected (found : Char)
  | scopeUnclosed
  | boardInvalid (board : String)
  | threadInvalid (thread : String)
  | patternExpected
  | patternUnclosed
  | patternEmpty
  | patternInvalid (source flags : String) (fault : Pattern.Fault)
  | replacementNeedsPattern (direction : Direction)
  | lineEndExpected (found : Char)
  | joinerAfterReplacement
  deriving DecidableEq

/-- The wording of a fault in an argument. -/
def ArgumentFault.message : ArgumentFault → String
  | .numberExpected found => "expected a number, found '" ++ found ++ "'"
  | .numberTooLarge found => "number '" ++ found ++ "' is too large"
  | .rangeReversed r =>
    "range " ++ decimal r.min.toNat ++ "-" ++ decimal r.max.toNat ++ " is reversed"
  | .sizeExpected found => "expected WxH, found '" ++ found ++ "'"
  | .dimensionTooLarge value => "dimension " ++ decimal value.toNat ++ " is too large"
  | .sizeReversed r => "size range " ++ r.min.text ++ "-" ++ r.max.text ++ " is reversed"
  | .comparisonExpected => "expected '<', '=' or '>'"
  | .boundExpected => "expected a weight or '@WxH'"
  | .rangeNeedsEqual => "ranges are only allowed with '='"
  | .checkUnknown word => "unknown check '" ++ word ++ "'"
  | .hashTooLarge found => "hash '" ++ found ++ "' is too large"
  | .hashInvalid found => "invalid hexadecimal hash '" ++ found ++ "'"

/-- The wording of a class. -/
def FaultKind.text : FaultKind → String
  | .missingOperator => "missing operator"
  | .unknownSpell => "unknown spell"
  | .missingArgument => "missing argument"
  | .unexpectedArgument => "unexpected argument"
  | .invalidArgument => "invalid argument"
  | .invalidScope => "invalid scope"
  | .unbalancedParenthesis => "unbalanced parenthesis"
  | .invalidRegex => "invalid regular expression"
  | .replacementWhereOperatorExpected => "replacement where operator expected"
  | .replacementInExpression => "replacement inside expression"
  | .replacementInGroup => "replacement inside group"
  | .operatorAfterReplacement => "operator after replacement"
  | .unexpectedToken => "unexpected token"
  | .unexpectedEnd => "unexpected end of input"
  | .limitExceeded => "limit exceeded"

namespace Cause

/-- The class of a cause. -/
def kind : Cause → FaultKind
  | sourceTooLarge .. | nestedTooDeep _ => .limitExceeded
  | strayClose | groupUnclosed | argumentUnclosed => .unbalancedParenthesis
  | operandMissing => .unexpectedEnd
  | operandExpected _ | groupEmpty | joinerExpected _ | wordMissing | lineEndExpected _ =>
    .unexpectedToken
  | replacementInGroup => .replacementInGroup
  | replacementInExpression => .replacementInExpression
  | replacementForJoiner => .replacementWhereOperatorExpected
  | joinerMissing => .missingOperator
  | spellUnknown _ => .unknownSpell
  | argumentUnexpected _ => .unexpectedArgument
  | argumentMissing _ | argumentEmpty _ | replacementNeedsPattern _ => .missingArgument
  | argumentInvalid .. | closeExpected _ => .invalidArgument
  | scopeUnclosed | boardInvalid _ | threadInvalid _ => .invalidScope
  | patternExpected | patternUnclosed | patternEmpty | patternInvalid .. => .invalidRegex
  | joinerAfterReplacement => .operatorAfterReplacement

/-- A character in the way, in words. -/
def describe (found : Char) : String :=
  if found == '\n' then "end of line" else "'" ++ found.toString ++ "'"

/-- The wording of a cause. -/
def message : Cause → String
  | sourceTooLarge size limit =>
    "source is " ++ decimal size ++ " bytes, the limit is " ++ decimal limit
  | nestedTooDeep limit => "groups are nested deeper than " ++ decimal limit
  | strayClose => "unmatched ')'"
  | operandMissing => "expected a spell or '('"
  | operandExpected found => "expected a spell or '(', found " ++ describe found
  | replacementInGroup => "replacements are not allowed inside parentheses"
  | replacementInExpression => "replacements cannot be combined with spells"
  | groupEmpty => "empty group"
  | groupUnclosed => "'(' is never closed"
  | replacementForJoiner =>
    "expected '&' or '|' before replacement; replacements need a line of their own"
  | joinerMissing => "expected '&' or '|' between operands"
  | joinerExpected found => "expected '&' or '|', found " ++ describe found
  | wordMissing => "expected a spell name after '#'"
  | spellUnknown word => "unknown spell '#" ++ word ++ "'"
  | argumentUnexpected kind => kind.text ++ " takes no argument"
  | argumentMissing kind => kind.text ++ " requires an argument"
  | argumentEmpty kind => kind.text ++ " requires a non-empty argument"
  | argumentUnclosed => "argument is never closed"
  | argumentInvalid kind fault =>
    "invalid argument for " ++ kind.text ++ ": " ++ fault.message
  | closeExpected found => "expected ')', found " ++ describe found
  | scopeUnclosed => "scope is never closed"
  | boardInvalid board => "invalid board name '" ++ board ++ "'"
  | threadInvalid thread =>
    "invalid thread '" ++ thread ++ "', expected a number or '-'"
  | patternExpected => "expected a /regex/ literal"
  | patternUnclosed => "regex literal is never closed"
  | patternEmpty => "empty regex literal"
  | patternInvalid source flags fault =>
    "invalid regex /" ++ source ++ "/" ++ flags ++ ": " ++ fault.message
  | replacementNeedsPattern direction => "#" ++ direction.word ++ " requires (/regex/,text)"
  | lineEndExpected found => "expected end of line after replacement, found " ++ describe found
  | joinerAfterReplacement => "replacements cannot be combined with '&' or '|'"

end Cause

/-- What is wrong with the text of a rule list, and where. -/
structure SourceFault where
  cause : Cause
  position : Position
  deriving DecidableEq

namespace SourceFault

/-- The fault in one line. -/
def text (f : SourceFault) : String :=
  "Error at " ++ f.position.text ++ ": " ++ f.cause.message

/-- The fault, the line it is in, and a mark under its column. -/
def excerpt (f : SourceFault) (source : String) : String :=
  f.text ++ "\n" ++ lineAt source f.position.offset ++ "\n" ++
    String.ofList (List.replicate (f.position.column - 1) ' ') ++ "^"

end SourceFault

end PostFilter
