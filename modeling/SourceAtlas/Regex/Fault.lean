import SourceAtlas.Regex.Basic
import SourceAtlas.Text.Quoted

/-!
What is wrong with a text that is no regular expression.
-/

namespace SourceAtlas.Regex

/-- A fault at a place of the pattern. -/
inductive Cause where
  | endsInBackslash
  | badEscape (escape : Text)
  | incompleteEscape (escape : Text)
  | noBrace
  | undefinedCharacter (name : Text)
  | octalTooLarge (escape : Text)
  | openGroup
  | groupOfLookbehind
  | invalidGroup (index : Nat)
  | unterminatedSet
  | badRange (low high : Text)
  | leastAboveMost
  | nothingToRepeat
  | multipleRepeat
  | unexpectedEnd
  | noName (what : Text)
  | unterminatedName (terminator : CodePoint)
  | badGroupName (name : Text)
  | unknownGroupName (name : Text)
  | unknownExtension (extension : Text)
  | unterminatedComment
  | unterminatedGroup
  | zeroGroup
  | thirdBranch
  | lateGlobalFlags
  | redefinition (name : Text) (index earlier : Nat)
  | localeFlag
  | clashingFlags
  | noFlagEnd
  | unknownFlag
  | globalFlagOn
  | globalFlagOff
  | noFlag
  | kindFlagOff
  | noColon
  | flagOnAndOff
  | unbalanced
deriving DecidableEq, Repr

/-- A fault of a pattern: one with a place, a look-behind of no fixed width, a repetition under the template flag, a
count that is too large, or two global flags that exclude each other. -/
inductive Fault where
  | located (cause : Cause) (position : Nat)
  | looseLookbehind
  | templateRepetition (greed : Greed)
  | countTooLarge
  | globalFlagsClash
deriving DecidableEq, Repr

/-- The wording of a fault without its place. -/
def Cause.message : Cause → Text
  | .endsInBackslash => "bad escape (end of pattern)"
  | .badEscape escape => "bad escape " ++ escape
  | .incompleteEscape escape => "incomplete escape " ++ escape
  | .noBrace => "missing \x7b"
  | .undefinedCharacter name => "undefined character name " ++ Text.quoted name
  | .octalTooLarge escape => "octal escape value " ++ escape ++ " outside of range 0-0o377"
  | .openGroup => "cannot refer to an open group"
  | .groupOfLookbehind => "cannot refer to group defined in the same lookbehind subpattern"
  | .invalidGroup index => "invalid group reference " ++ Text.ofNat index
  | .unterminatedSet => "unterminated character set"
  | .badRange low high => "bad character range " ++ low ++ "-" ++ high
  | .leastAboveMost => "min repeat greater than max repeat"
  | .nothingToRepeat => "nothing to repeat"
  | .multipleRepeat => "multiple repeat"
  | .unexpectedEnd => "unexpected end of pattern"
  | .noName what => "missing " ++ what
  | .unterminatedName terminator => "missing " ++ [terminator] ++ ", unterminated name"
  | .badGroupName name => "bad character in group name " ++ Text.quoted name
  | .unknownGroupName name => "unknown group name " ++ Text.quoted name
  | .unknownExtension extension => "unknown extension " ++ extension
  | .unterminatedComment => "missing ), unterminated comment"
  | .unterminatedGroup => "missing ), unterminated subpattern"
  | .zeroGroup => "bad group number"
  | .thirdBranch => "conditional backref with more than two branches"
  | .lateGlobalFlags => "global flags not at the start of the expression"
  | .redefinition name index earlier => "redefinition of group name " ++ Text.quoted name ++ " as group "
      ++ Text.ofNat index ++ "; was group " ++ Text.ofNat earlier
  | .localeFlag => "bad inline flags: cannot use 'L' flag with a str pattern"
  | .clashingFlags => "bad inline flags: flags 'a', 'u' and 'L' are incompatible"
  | .noFlagEnd => "missing -, : or )"
  | .unknownFlag => "unknown flag"
  | .globalFlagOn => "bad inline flags: cannot turn on global flag"
  | .globalFlagOff => "bad inline flags: cannot turn off global flag"
  | .noFlag => "missing flag"
  | .kindFlagOff => "bad inline flags: cannot turn off flags 'a', 'u' and 'L'"
  | .noColon => "missing :"
  | .flagOnAndOff => "bad inline flags: flag turned on and off"
  | .unbalanced => "unbalanced parenthesis"

/-- The name of the operator that a repetition is compiled to. -/
def operatorName : Greed → Text
  | .greedy => "MAX_REPEAT"
  | .lazy => "MIN_REPEAT"
  | .possessive => "POSSESSIVE_REPEAT"

/-- The wording of a fault in a pattern. A pattern of several lines gets line and column as well. -/
def Fault.message (pattern : Text) : Fault → Text
  | .located cause position =>
    let place := cause.message ++ " at position " ++ Text.ofNat position
    if pattern.contains ('\n' : CodePoint) then
      let before := pattern.take position
      let column := (before.reverse.takeWhile fun c : CodePoint => c != '\n').length + 1
      place ++ " (line " ++ Text.ofNat (before.count ('\n' : CodePoint) + 1) ++ ", column "
        ++ Text.ofNat column ++ ")"
    else place
  | .looseLookbehind => "look-behind requires fixed-width pattern"
  | .templateRepetition greed => "internal: unsupported template operator " ++ operatorName greed
  | .countTooLarge => "the repetition number is too large"
  | .globalFlagsClash => "ASCII and UNICODE flags are incompatible"

/-- Does a fault lie in how the pattern is written, rather than in what it asks for? -/
def Fault.isPatternError : Fault → Bool
  | .located .. | .looseLookbehind | .templateRepetition _ => true
  | .countTooLarge | .globalFlagsClash => false

end SourceAtlas.Regex
