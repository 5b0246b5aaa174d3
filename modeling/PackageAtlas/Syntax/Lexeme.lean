import PackageAtlas.Syntax.Source

namespace PackageAtlas.Syntax

/-!
# Lexemes

The tokens that are no fixed texts, each with a function that tells where the one at a place
stops. All of them take as much as they can.

* `isBlank`, `isNameStart`, `isNamePart`: classes of characters;
* `nameStop?`, `numberStop?`, `commentStop?`: tokens that may follow white space;
* `textStop?`, `escapeStop?`, `patternStop?`: parts of strings and regular expressions;
* `referenceStop?`, `dashedNameStop?`, `valueStop?`: parts of elements.

The character zero is part of no lexeme.
-/

/-- Whether a code is that of a character of a text. -/
def isOneOf (text : String) (code : Nat) : Bool := text.toList.any (fun c => c.toNat == code)

/-! ### Classes of characters -/

/-- Spaces of every width. -/
def isSpaceSeparator (n : Nat) : Bool :=
  n == 0x20 || n == 0xA0 || n == 0x1680 || (0x2000 ≤ n && n ≤ 0x200A) || n == 0x202F ||
    n == 0x205F || n == 0x3000

/-- White space between tokens: besides spaces and line ends, characters without a width. -/
def isBlank (n : Nat) : Bool :=
  (9 ≤ n && n ≤ 13) || isSpaceSeparator n || n == 0xFEFF || n == 0x2028 || n == 0x2029 ||
    n == 0x2060 || n == 0x200B

/-- Digits. -/
def isDigit (n : Nat) : Bool := 0x30 ≤ n && n ≤ 0x39

/-- Digits to the base sixteen. -/
def isHexDigit (n : Nat) : Bool :=
  isDigit n || (0x61 ≤ n && n ≤ 0x66) || (0x41 ≤ n && n ≤ 0x46)

/-- Small letters of the basic alphabet. -/
def isSmall (n : Nat) : Bool := 0x61 ≤ n && n ≤ 0x7A

/-- Letters of the basic alphabet. -/
def isBasicLetter (n : Nat) : Bool := isSmall n || (0x41 ≤ n && n ≤ 0x5A)

/-- Characters that end a name, besides blanks. -/
def punctuation : String := ":;`\"'@#.,|^&<=>+-*/\\%?!~()[]\x7b\x7d"

/-- Characters that a name may go on with: all but controls, blanks and punctuation. -/
def isNamePart (n : Nat) : Bool :=
  0x20 < n && n < brokenCode && !isBlank n && !isOneOf punctuation n

/-- Characters that a name may start with. -/
def isNameStart (n : Nat) : Bool := isNamePart n && !isDigit n

/-- Characters of the names of elements. -/
def isTagPart (n : Nat) : Bool := isBasicLetter n || isDigit n || n == 0x5F || n == 0x24

/-- The place behind the character at `i` if it is one of a text. -/
def passOneOf? (s : Source) (text : String) (i : Nat) : Option Nat :=
  if isOneOf text (s.code i) && i < s.size then some (s.glyph i).stop else none

/-- The place behind at least `least` and at most `most` characters of a class. -/
def passSome? (s : Source) (p : Nat → Bool) (least : Nat) : Nat → Nat → Option Nat
  | 0, i => if least = 0 then some i else none
  | most + 1, i =>
    if i < s.size && p (s.code i) then passSome? s p (least - 1) most (s.glyph i).stop
    else if least = 0 then some i else none

/-! ### Names -/

/-- The end of an escape in a name, behind the backslash. -/
def nameEscapeStop? (s : Source) (i : Nat) : Option Nat := do
  let i ← passOneOf? s "u" i
  match passOneOf? s "\x7b" i with
  | some j => do
    let k := s.skipWhile isHexDigit j
    if j < k then passOneOf? s "\x7d" k else none
  | none => passSome? s isHexDigit 4 4 i

/-- The end of a character or an escape of a name. -/
def nameCharStop? (s : Source) (p : Nat → Bool) (i : Nat) : Option Nat :=
  if i < s.size then
    if p (s.code i) then some (s.glyph i).stop
    else if s.code i == 0x5C then nameEscapeStop? s (i + 1)
    else none
  else none

/-- The end of what follows in a name. -/
def nameRest (s : Source) : Nat → Nat → Nat
  | 0, i => i
  | fuel + 1, i =>
    match nameCharStop? s isNamePart i with
    | some j => nameRest s fuel j
    | none => i

/-- The end of a name. -/
def nameStop? (s : Source) (i : Nat) : Option Nat :=
  (nameCharStop? s isNameStart i).map (nameRest s s.size)

/-- The end of a name that is private to its class. -/
def secretNameStop? (s : Source) (i : Nat) : Option Nat := do
  nameStop? s (← passOneOf? s "#" i)

/-! ### Numbers -/

/-- The end of what follows a digit: digits, each of which may have a low line before it. -/
def digitsRest (s : Source) (p : Nat → Bool) : Nat → Nat → Nat
  | 0, i => i
  | fuel + 1, i =>
    if p (s.code i) then digitsRest s p fuel (i + 1)
    else if s.code i == 0x5F && p (s.code (i + 1)) then digitsRest s p fuel (i + 2)
    else i

/-- The end of digits of a class. -/
def digitsStop? (s : Source) (p : Nat → Bool) (i : Nat) : Option Nat :=
  if p (s.code i) then some (digitsRest s p s.size (i + 1)) else none

/-- The place behind a mark for large integers, if there is one. -/
def passLarge (s : Source) (i : Nat) : Nat := (passOneOf? s "n" i).getD i

/-- The end of a number to a base that its second character tells. -/
def basedStop? (s : Source) (marks : String) (p : Nat → Bool) (i : Nat) : Option Nat := do
  let j ← passOneOf? s "0" i
  let j ← passOneOf? s marks j
  return passLarge s (← digitsStop? s p j)

/-- The end of an exponent. -/
def exponentStop? (s : Source) (i : Nat) : Option Nat := do
  let j ← passOneOf? s "eE" i
  digitsStop? s isDigit ((passOneOf? s "+-" j).getD j)

/-- The end of an integer that a point may follow: it has at most one leading zero. -/
def wholeStop? (s : Source) (i : Nat) : Option Nat :=
  let significant (j : Nat) : Option Nat := do
    let k ← passOneOf? s "123456789" j
    let next := (passOneOf? s "_" k).getD k
    return (digitsStop? s isDigit next).getD k
  match significant i with
  | some j => some j
  | none => do
    let j ← passOneOf? s "0" i
    return (significant j).getD j

/-- The end of a number with a point or an exponent. -/
def fractionStop? (s : Source) (i : Nat) : Option Nat :=
  match wholeStop? s i with
  | some j =>
    match passOneOf? s "." j with
    | some k =>
      let k := (digitsStop? s isDigit k).getD k
      some ((exponentStop? s k).getD k)
    | none => exponentStop? s j
  | none => do
    let k ← digitsStop? s isDigit (← passOneOf? s "." i)
    return (exponentStop? s k).getD k

/-- The later of two ends. -/
def laterStop : Option Nat → Option Nat → Option Nat
  | some i, some j => some (max i j)
  | some i, none => some i
  | none, o => o

/-- The end of a number. -/
def numberStop? (s : Source) (i : Nat) : Option Nat :=
  [basedStop? s "xX" isHexDigit i,
    basedStop? s "bB" (fun n => n == 0x30 || n == 0x31) i,
    basedStop? s "oO" (fun n => 0x30 ≤ n && n ≤ 0x37) i,
    (digitsStop? s isDigit i).map (passLarge s),
    fractionStop? s i].foldl laterStop none

/-! ### Comments -/

/-- Whether a comment that goes up to the end of its line ends before a character. -/
def endsComment (n : Nat) : Bool :=
  n == 0 || n == 0x0A || n == 0x0D || n == 0x2028 || n == 0x2029

/-- The place behind the next star with a slash behind it. -/
def blockStop? (s : Source) (i : Nat) : Option Nat :=
  if i < s.size then
    if s.byte i == 0 then none
    else if s.byte i == 0x2A && s.byte (i + 1) == 0x2F then some (i + 2)
    else blockStop? s (i + 1)
  else none
  termination_by s.size - i

/-- The end of a comment. -/
def commentStop? (s : Source) (i : Nat) : Option Nat := do
  let i ← passOneOf? s "/" i
  match passOneOf? s "/" i with
  | some j => some (s.skipWhile (fun n => !endsComment n) j)
  | none => blockStop? s (← passOneOf? s "*" i)

/-- The end of a first line that names the program to run. -/
def hashBangStop? (s : Source) (i : Nat) : Option Nat := do
  let j ← passOneOf? s "!" (← passOneOf? s "#" i)
  return s.skipWhile (fun n => n != 0 && n != 0x0A) j

/-! ### Strings and regular expressions -/

/-- The end of a run of characters of a class, which is not empty. -/
def runStop? (s : Source) (p : Nat → Bool) (i : Nat) : Option Nat :=
  let j := s.skipWhile p i
  if i < j then some j else none

/-- The end of the text of a string up to its quote, an escape or the end of the line. -/
def textStop? (s : Source) (quote : Nat) (i : Nat) : Option Nat :=
  runStop? s (fun n => n != 0 && n != quote && n != 0x5C && n != 0x0A && n != 0x0D) i

/-- The end of an escape in a string. -/
def escapeStop? (s : Source) (i : Nat) : Option Nat := do
  let i ← passOneOf? s "\\" i
  let n := s.code i
  if n == 0x78 then passSome? s isHexDigit 2 2 (i + 1)
  else if n == 0x75 then nameEscapeStop? s i
  else if 0x30 ≤ n && n ≤ 0x37 then passSome? s (fun n => 0x30 ≤ n && n ≤ 0x37) 1 3 i
  else if n == 0 then none
  else
    let j := (s.glyph i).stop
    let m := s.code j
    if (n == 0x0D || n == 0x3F) && (m == 0x0A || m == 0x2028 || m == 0x2029) then
      some (s.glyph j).stop
    else some j

/-- The end of a character behind a backslash in a regular expression. -/
def quotedCharStop? (s : Source) (i : Nat) : Option Nat :=
  if s.code i == 0 || s.code i == 0x0A then none else some (s.glyph i).stop

/-- The end of the characters in brackets of a regular expression, behind the opening bracket. -/
def bracketStop? (s : Source) : Nat → Nat → Option Nat
  | 0, _ => none
  | fuel + 1, i =>
    let n := s.code i
    if n == 0x5D then some (i + 1)
    else if n == 0x5C then (quotedCharStop? s (i + 1)).bind (bracketStop? s fuel)
    else (quotedCharStop? s i).bind (bracketStop? s fuel)

/-- The end of a part of a regular expression. -/
def patternPartStop? (s : Source) (i : Nat) : Option Nat :=
  let n := s.code i
  if n == 0x2F then none
  else if n == 0x5C then quotedCharStop? s (i + 1)
  else if n == 0x5B then bracketStop? s s.size (i + 1)
  else quotedCharStop? s i

/-- The end of the parts of a regular expression that follow. -/
def patternRest (s : Source) : Nat → Nat → Nat
  | 0, i => i
  | fuel + 1, i =>
    match patternPartStop? s i with
    | some j => patternRest s fuel j
    | none => i

/-- The end of a regular expression between its slashes. -/
def patternStop? (s : Source) (i : Nat) : Option Nat :=
  (patternPartStop? s i).map (patternRest s s.size)

/-! ### Elements -/

/-- The end of a character that is written by its name or its number. -/
def referenceStop? (s : Source) (i : Nat) : Option Nat := do
  let i ← passOneOf? s "&" i
  let j ← match passOneOf? s "#" i with
    | some k =>
      match passOneOf? s "xX" k with
      | some m => passSome? s isHexDigit 1 6 m
      | none => passSome? s isDigit 1 5 k
    | none => passSome? s isBasicLetter 1 30 i
  passOneOf? s ";" j

/-- The end of a name that holds a dash. -/
def dashedNameStop? (s : Source) (i : Nat) : Option Nat :=
  if isTagPart (s.code i) && !isDigit (s.code i) then
    (passOneOf? s "-" (s.skipWhile isTagPart i)).map
      (s.skipWhile (fun n => isTagPart n || n == 0x2D))
  else none

/-- The end of the value of an attribute up to its quote or a reference; an ampersand that starts
    no reference takes the next character with it. -/
def valueRest (s : Source) (quote : Nat) : Nat → Nat → Nat
  | 0, i => i
  | fuel + 1, i =>
    let n := s.code i
    if n == 0 || n == quote then i
    else if n == 0x26 then
      let m := s.code (i + 1)
      if m == 0 || m == 0x23 || isBasicLetter m then i
      else valueRest s quote fuel (s.glyph (i + 1)).stop
    else valueRest s quote fuel (s.glyph i).stop

/-- The end of a part of the value of an attribute. -/
def valueStop? (s : Source) (quote : Nat) (i : Nat) : Option Nat :=
  let j := valueRest s quote s.size i
  if i < j then some j else none

end PackageAtlas.Syntax
