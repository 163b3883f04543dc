import PolicyGate.Value.Quoted
import PolicyGate.Number.Written
import PolicyGate.Regex.Node

/-!
# What can be wrong with a regular expression

A problem in the text of an expression is reported with the position where it was noticed, and with
line and column if the text has several lines. Problems found in the finished tree have no position.
-/

namespace PolicyGate.Regex

/-- What is wrong with an expression. -/
inductive Problem where
  | danglingEscape
  | badEscape (escape : String)
  | incompleteEscape (escape : String)
  | octalTooLarge (escape : String)
  | missingBrace
  | missingName (what : String)
  | unterminatedName (terminator : Char)
  | unknownCharacterName (name : String)
  | openGroup
  | sameLookbehind
  | invalidReference (group : Nat)
  | unterminatedSet
  | badRange (low high : String)
  | boundsReversed
  | nothingToRepeat
  | repeatedRepetition
  | unexpectedEnd
  | badGroupName (name : String)
  | unknownGroupName (name : String)
  | badGroupNumber
  | redefinedGroup (name : String) (group earlier : Nat)
  | unknownExtension (text : String)
  | unterminatedComment
  | unterminatedGroup
  | tooManyBranches
  | unbalanced
  | flagsNotAtStart
  | localeFlag
  | incompatibleFlags
  | missingFlagEnd
  | unknownFlag
  | globalFlagOn
  | missingFlag
  | characterSetOff
  | missingColon
  | globalFlagOff
  | flagOnAndOff
  | lookbehindTooWide
  | lookbehindNotFixed
  | repetitionInTemplate (greed : Greed)
  /-- The reader was not given enough steps. -/
  | unfinished
deriving DecidableEq, Repr

/-- The problem in words. -/
def Problem.message : Problem → String
  | .danglingEscape => "bad escape (end of pattern)"
  | .badEscape escape => "bad escape " ++ escape
  | .incompleteEscape escape => "incomplete escape " ++ escape
  | .octalTooLarge escape => "octal escape value " ++ escape ++ " outside of range 0-0o377"
  | .missingBrace => "missing \x7b"
  | .missingName what => "missing " ++ what
  | .unterminatedName terminator => "missing " ++ terminator.toString ++ ", unterminated name"
  | .unknownCharacterName name => "undefined character name " ++ Quoted.text name
  | .openGroup => "cannot refer to an open group"
  | .sameLookbehind => "cannot refer to group defined in the same lookbehind subpattern"
  | .invalidReference group => "invalid group reference " ++ toString group
  | .unterminatedSet => "unterminated character set"
  | .badRange low high => "bad character range " ++ low ++ "-" ++ high
  | .boundsReversed => "min repeat greater than max repeat"
  | .nothingToRepeat => "nothing to repeat"
  | .repeatedRepetition => "multiple repeat"
  | .unexpectedEnd => "unexpected end of pattern"
  | .badGroupName name => "bad character in group name " ++ Quoted.text name
  | .unknownGroupName name => "unknown group name " ++ Quoted.text name
  | .badGroupNumber => "bad group number"
  | .redefinedGroup name group earlier =>
    "redefinition of group name " ++ Quoted.text name ++ " as group " ++ toString group
      ++ "; was group " ++ toString earlier
  | .unknownExtension text => "unknown extension " ++ text
  | .unterminatedComment => "missing ), unterminated comment"
  | .unterminatedGroup => "missing ), unterminated subpattern"
  | .tooManyBranches => "conditional backref with more than two branches"
  | .unbalanced => "unbalanced parenthesis"
  | .flagsNotAtStart => "global flags not at the start of the expression"
  | .localeFlag => "bad inline flags: cannot use 'L' flag with a str pattern"
  | .incompatibleFlags => "bad inline flags: flags 'a', 'u' and 'L' are incompatible"
  | .missingFlagEnd => "missing -, : or )"
  | .unknownFlag => "unknown flag"
  | .globalFlagOn => "bad inline flags: cannot turn on global flag"
  | .missingFlag => "missing flag"
  | .characterSetOff => "bad inline flags: cannot turn off flags 'a', 'u' and 'L'"
  | .missingColon => "missing :"
  | .globalFlagOff => "bad inline flags: cannot turn off global flag"
  | .flagOnAndOff => "bad inline flags: flag turned on and off"
  | .lookbehindTooWide => "looks too much behind"
  | .lookbehindNotFixed => "look-behind requires fixed-width pattern"
  | .repetitionInTemplate .greedy => "internal: unsupported template operator MAX_REPEAT"
  | .repetitionInTemplate .reluctant => "internal: unsupported template operator MIN_REPEAT"
  | .repetitionInTemplate .possessive => "internal: unsupported template operator POSSESSIVE_REPEAT"
  | .unfinished => "the expression was not read to its end"

/-- Why an expression cannot be used. -/
inductive Fault where
  /-- The expression is malformed, as noticed at a position of its text. -/
  | malformed (problem : Problem) (position : Nat)
  /-- The expression is well formed and has no use. -/
  | unusable (problem : Problem)
  /-- A repetition count exceeds every possible text. -/
  | countTooLarge
  /-- A repetition count is written with more digits than a number may have. -/
  | countTooLong (digits : Nat)
  /-- The whole expression asks for the characters of ASCII and of Unicode. -/
  | twoCharacterSets
deriving DecidableEq, Repr

/-- The line and column, from 1 on, of a position. -/
def lineAndColumn (text : List Char) (position : Nat) : Nat × Nat :=
  let before := text.take position
  (before.count '\n' + 1, (before.reverse.takeWhile (· ≠ '\n')).length + 1)

/-- The fault in words, for an expression of the given text. -/
def Fault.message (text : String) : Fault → String
  | .malformed problem position =>
    let place := problem.message ++ " at position " ++ toString position
    if text.toList.contains '\n' then
      let (line, column) := lineAndColumn text.toList position
      place ++ " (line " ++ toString line ++ ", column " ++ toString column ++ ")"
    else place
  | .unusable problem => problem.message
  | .countTooLarge => "the repetition number is too large"
  | .countTooLong digits => tooManyDigitsMessage (some digits)
  | .twoCharacterSets => "ASCII and UNICODE flags are incompatible"

end PolicyGate.Regex
