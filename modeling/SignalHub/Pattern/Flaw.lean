/-!
# Flaws

What can be wrong with a pattern.
-/

namespace SignalHub.Pattern

/-- The greatest depth of groups and classes in one another. -/
def depthLimit : Nat := 250

inductive Flaw where
  -- classes
  | classEscape
  | classRangeOrder
  | classRangeEnd
  | classUnclosed
  -- numbers and escapes
  | decimalEmpty
  | decimalTooLarge
  | hexadecimalEmpty
  | hexadecimalNoCharacter
  | hexadecimalDigit
  | escapeUnfinished
  | escapeUnknown
  | backreference
  | propertyName
  -- flags and groups
  | flagDanglingNegation
  | flagRepeated
  | flagNegationRepeated
  | flagUnfinished
  | flagUnknown
  | nameRepeated
  | nameEmpty
  | nameCharacter
  | nameUnfinished
  | groupUnclosed
  | groupUnopened
  | lookAround
  | tooDeep
  -- repetitions and boundaries
  | countOrder
  | countEmpty
  | countUnclosed
  | nothingRepeated
  | boundaryUnclosed
  | boundaryUnknown
  | boundaryUnfinished
  -- what cannot be searched for
  | beyondBytes
  | brokenText
  | propertyMissing
  | propertyValueMissing
  | wordClassMissing
  | foldingMissing
deriving DecidableEq, Repr

namespace Flaw

def text : Flaw → String
  | classEscape => "invalid escape sequence found in character class"
  | classRangeOrder =>
      "invalid character class range, the start must be <= the end"
  | classRangeEnd => "invalid range boundary, must be a literal"
  | classUnclosed => "unclosed character class"
  | decimalEmpty => "decimal literal empty"
  | decimalTooLarge => "decimal literal invalid"
  | hexadecimalEmpty => "hexadecimal literal empty"
  | hexadecimalNoCharacter =>
      "hexadecimal literal is not a Unicode scalar value"
  | hexadecimalDigit => "invalid hexadecimal digit"
  | escapeUnfinished =>
      "incomplete escape sequence, reached end of pattern prematurely"
  | escapeUnknown => "unrecognized escape sequence"
  | backreference => "backreferences are not supported"
  | propertyName => "invalid Unicode character class"
  | flagDanglingNegation => "dangling flag negation operator"
  | flagRepeated => "duplicate flag"
  | flagNegationRepeated => "flag negation operator repeated"
  | flagUnfinished => "expected flag but got end of regex"
  | flagUnknown => "unrecognized flag"
  | nameRepeated => "duplicate capture group name"
  | nameEmpty => "empty capture group name"
  | nameCharacter => "invalid capture group character"
  | nameUnfinished => "unclosed capture group name"
  | groupUnclosed => "unclosed group"
  | groupUnopened => "unopened group"
  | lookAround =>
      "look-around, including look-ahead and look-behind, is not supported"
  | tooDeep =>
      "exceed the maximum number of nested parentheses/brackets (" ++
        toString depthLimit ++ ")"
  | countOrder =>
      "invalid repetition count range, the start must be <= the end"
  | countEmpty => "repetition quantifier expects a valid decimal"
  | countUnclosed => "unclosed counted repetition"
  | nothingRepeated => "repetition operator missing expression"
  | boundaryUnclosed =>
      "special word boundary assertion is either unclosed or " ++
        "contains an invalid character"
  | boundaryUnknown =>
      "unrecognized special word boundary assertion, valid choices are: " ++
        "start, end, start-half or end-half"
  | boundaryUnfinished =>
      "found either the beginning of a special word boundary or a bounded " ++
        "repetition on a \\b with an opening brace, but no closing brace"
  | beyondBytes => "Unicode not allowed here"
  | brokenText => "pattern can match invalid UTF-8"
  | propertyMissing => "Unicode property not found"
  | propertyValueMissing => "Unicode property value not found"
  | wordClassMissing =>
      "Unicode-aware Perl class not found " ++
        "(make sure the unicode-perl feature is enabled)"
  | foldingMissing =>
      "Unicode-aware case insensitivity matching is not available " ++
        "(make sure the unicode-case feature is enabled)"

end Flaw

end SignalHub.Pattern
