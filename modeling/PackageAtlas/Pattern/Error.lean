import PackageAtlas.Pattern.Expr
import PackageAtlas.Text.Quoted

namespace PackageAtlas.Pattern

/-!
# Faults of patterns

* `Fault`: what is wrong at a place in a pattern, with its wording `Fault.text`;
* `Error`: why a pattern cannot be used;
* `Error.message`: the wording of an error, which tells the place by line and column too if the
  pattern has several lines.
-/

/-- What is wrong at a place in a pattern. -/
inductive Fault where
  | danglingEscape
  | badEscape (escape : String)
  | incompleteEscape (escape : String)
  | octalOutOfRange (escape : String)
  | missing (what : String)
  | unterminatedName (closing : String)
  | undefinedCharacter (name : String)
  | openGroup
  | lookBehindGroup
  | invalidGroup (index : Nat)
  | unterminatedSet
  | badRange (lo hi : String)
  | minAboveMax
  | nothingToRepeat
  | multipleRepeat
  | unexpectedEnd
  | badGroupName (name : String)
  | unknownGroup (name : String)
  | badGroupNumber
  | redefinedGroup (name : String) (index before : Nat)
  | unknownExtension (text : String)
  | unterminatedComment
  | unterminatedGroup
  | unbalanced
  | tooManyBranches
  | flagsNotFirst
  | unknownFlag
  | localeFlag
  | incompatibleFlags
  | globalOn
  | globalOff
  | scriptOff
  | onAndOff
deriving Repr, DecidableEq

/-- The wording of a fault. -/
def Fault.text : Fault → String
  | .danglingEscape => "bad escape (end of pattern)"
  | .badEscape e => s!"bad escape {e}"
  | .incompleteEscape e => s!"incomplete escape {e}"
  | .octalOutOfRange e => s!"octal escape value {e} outside of range 0-0o377"
  | .missing what => s!"missing {what}"
  | .unterminatedName closing => s!"missing {closing}, unterminated name"
  | .undefinedCharacter name => s!"undefined character name {Text.quoted name}"
  | .openGroup => "cannot refer to an open group"
  | .lookBehindGroup => "cannot refer to group defined in the same lookbehind subpattern"
  | .invalidGroup n => s!"invalid group reference {n}"
  | .unterminatedSet => "unterminated character set"
  | .badRange lo hi => s!"bad character range {lo}-{hi}"
  | .minAboveMax => "min repeat greater than max repeat"
  | .nothingToRepeat => "nothing to repeat"
  | .multipleRepeat => "multiple repeat"
  | .unexpectedEnd => "unexpected end of pattern"
  | .badGroupName name => s!"bad character in group name {Text.quoted name}"
  | .unknownGroup name => s!"unknown group name {Text.quoted name}"
  | .badGroupNumber => "bad group number"
  | .redefinedGroup name n m =>
    s!"redefinition of group name {Text.quoted name} as group {n}; was group {m}"
  | .unknownExtension text => s!"unknown extension ?{text}"
  | .unterminatedComment => "missing ), unterminated comment"
  | .unterminatedGroup => "missing ), unterminated subpattern"
  | .unbalanced => "unbalanced parenthesis"
  | .tooManyBranches => "conditional backref with more than two branches"
  | .flagsNotFirst => "global flags not at the start of the expression"
  | .unknownFlag => "unknown flag"
  | .localeFlag => "bad inline flags: cannot use 'L' flag with a str pattern"
  | .incompatibleFlags => "bad inline flags: flags 'a', 'u' and 'L' are incompatible"
  | .globalOn => "bad inline flags: cannot turn on global flag"
  | .globalOff => "bad inline flags: cannot turn off global flag"
  | .scriptOff => "bad inline flags: cannot turn off flags 'a', 'u' and 'L'"
  | .onAndOff => "bad inline flags: flag turned on and off"

/-- Why a pattern cannot be used. -/
inductive Error where
  /-- Something is wrong at a place, which counts characters. -/
  | at (fault : Fault) (place : Nat)
  /-- What is looked for behind a place has no fixed width. -/
  | variableLookBehind
  /-- What is looked for behind a place is so wide that it cannot be looked for. -/
  | overlongLook
  /-- A repetition where repetition is forbidden. -/
  | repetition (greed : Greed)
  /-- A flag that does not exist, in a list of flags. -/
  | badFlags (flags : String)
  /-- Both scripts were asked for. -/
  | bothScripts
  /-- A number of repetitions beyond all bounds. -/
  | countTooLarge
  /-- A number of so many digits that it is not read. -/
  | countTooLong (digits : Nat)
deriving Repr, DecidableEq

/-- The line and column of a place, both from one. -/
def lineAndColumn (cs : List Char) (place : Nat) : Nat × Nat :=
  let before := cs.take place
  (before.count '\n' + 1, (before.reverse.takeWhile (· != '\n')).length + 1)

/-- The name of a kind of repetition. -/
def Greed.name : Greed → String
  | .greedy => "MAX_REPEAT"
  | .lazy => "MIN_REPEAT"
  | .possessive => "POSSESSIVE_REPEAT"

/-- The wording of an error in a pattern. -/
def Error.message (pattern : String) : Error → String
  | .at fault place =>
    let cs := pattern.toList
    let head := s!"{fault.text} at position {place}"
    if cs.contains '\n' then
      let (line, column) := lineAndColumn cs place
      s!"{head} (line {line}, column {column})"
    else head
  | .variableLookBehind => "look-behind requires fixed-width pattern"
  | .overlongLook => "invalid SRE code"
  | .repetition greed => s!"internal: unsupported template operator {greed.name}"
  | .badFlags flags => s!"Invalid flags supplied to RegExp constructor '{flags}'"
  | .bothScripts => "ASCII and UNICODE flags are incompatible"
  | .countTooLarge => "the repetition number is too large"
  | .countTooLong digits =>
    s!"Exceeds the limit (4300 digits) for integer string conversion: value has {digits} digits; use sys.set_int_max_str_digits() to increase the limit"

end PackageAtlas.Pattern
