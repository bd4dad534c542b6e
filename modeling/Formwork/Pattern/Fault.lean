import Formwork.Data.Display
/-!
Faults of patterns: what is wrong, and at which character. Apart from them stands what breaks the
reader off although it has not found a fault of the pattern.
-/
namespace Formwork.Pattern

inductive Complaint where
  | escapeAtEnd
  | badEscape (escape : String)
  | incompleteEscape (escape : String)
  | largeOctal (escape : String)
  | missingBrace
  | missingName (what : String)
  | unterminatedName (terminator : String)
  | unknownCharacterName (name : String)
  | openGroup
  | groupInLookBehind
  | unknownGroup (number : Nat)
  | unknownGroupName (name : String)
  | badGroupNumber
  | badGroupName (name : String)
  | repeatedGroupName (name : String) (number earlier : Nat)
  | unterminatedSet
  | badRange (first last : String)
  | repeatBounds
  | nothingToRepeat
  | multipleRepeat
  | unexpectedEnd
  | unknownExtension (text : String)
  | unterminatedComment
  | unterminatedGroup
  | manyBranches
  | lateFlags
  | localeFlag
  | mixedFlags
  | flagsEnd
  | unknownFlag
  | globalFlagOn
  | globalFlagOff
  | missingFlag
  | missingColon
  | charsetFlagOff
  | flagOnAndOff
  | unbalanced
  deriving DecidableEq

def Complaint.message : Complaint → String
  | escapeAtEnd => "bad escape (end of pattern)"
  | badEscape escape => "bad escape " ++ escape
  | incompleteEscape escape => "incomplete escape " ++ escape
  | largeOctal escape => "octal escape value " ++ escape ++ " outside of range 0-0o377"
  | missingBrace => "missing \x7b"
  | missingName what => "missing " ++ what
  | unterminatedName terminator => "missing " ++ terminator ++ ", unterminated name"
  | unknownCharacterName name => "undefined character name " ++ Text.quoted name
  | openGroup => "cannot refer to an open group"
  | groupInLookBehind => "cannot refer to group defined in the same lookbehind subpattern"
  | unknownGroup number => s!"invalid group reference {number}"
  | unknownGroupName name => "unknown group name " ++ Text.quoted name
  | badGroupNumber => "bad group number"
  | badGroupName name => "bad character in group name " ++ Text.quoted name
  | repeatedGroupName name number earlier =>
    "redefinition of group name " ++ Text.quoted name ++ s!" as group {number}; was group {earlier}"
  | unterminatedSet => "unterminated character set"
  | badRange first last => "bad character range " ++ first ++ "-" ++ last
  | repeatBounds => "min repeat greater than max repeat"
  | nothingToRepeat => "nothing to repeat"
  | multipleRepeat => "multiple repeat"
  | unexpectedEnd => "unexpected end of pattern"
  | unknownExtension text => "unknown extension " ++ text
  | unterminatedComment => "missing ), unterminated comment"
  | unterminatedGroup => "missing ), unterminated subpattern"
  | manyBranches => "conditional backref with more than two branches"
  | lateFlags => "global flags not at the start of the expression"
  | localeFlag => "bad inline flags: cannot use 'L' flag with a str pattern"
  | mixedFlags => "bad inline flags: flags 'a', 'u' and 'L' are incompatible"
  | flagsEnd => "missing -, : or )"
  | unknownFlag => "unknown flag"
  | globalFlagOn => "bad inline flags: cannot turn on global flag"
  | globalFlagOff => "bad inline flags: cannot turn off global flag"
  | missingFlag => "missing flag"
  | missingColon => "missing :"
  | charsetFlagOff => "bad inline flags: cannot turn off flags 'a', 'u' and 'L'"
  | flagOnAndOff => "bad inline flags: flag turned on and off"
  | unbalanced => "unbalanced parenthesis"

/-- What breaks the reader off. -/
inductive Breach where
  /-- More repetitions than are counted. -/
  | tooManyRepetitions
  /-- A count with more digits than a whole number may have. -/
  | tooManyDigits (count : Nat)
  /-- Flags for the whole pattern that ask for ASCII alone and for all characters. -/
  | incompatibleFlags
  /-- Groups inside one another beyond the room for them. -/
  | tooDeep
  deriving DecidableEq

def Breach.message : Breach → String
  | tooManyRepetitions => "the repetition number is too large"
  | tooManyDigits count => Text.digitComplaint count
  | incompatibleFlags => "ASCII and UNICODE flags are incompatible"
  | tooDeep => "maximum recursion depth exceeded"

inductive Fault where
  | bad (complaint : Complaint) (position : Nat)
  /-- A pattern to look behind for matches whole texts of one width only. -/
  | unevenLookBehind
  /-- The width of a pattern to look behind for has a limit. -/
  | farLookBehind
  | breach (breach : Breach)
  deriving DecidableEq

/-- The message of a fault in a pattern; in a pattern of several lines it names the line. -/
def Fault.message (pattern : String) : Fault → String
  | unevenLookBehind => "look-behind requires fixed-width pattern"
  | farLookBehind => "looks too much behind"
  | breach b => b.message
  | bad complaint position =>
    let cs := pattern.toList
    let before := cs.take position
    let line := (before.filter (· = '\n')).length + 1
    let column := (before.reverse.takeWhile (· ≠ '\n')).length + 1
    complaint.message ++ s!" at position {position}" ++
      if '\n' ∈ cs then s!" (line {line}, column {column})" else ""

end Formwork.Pattern
