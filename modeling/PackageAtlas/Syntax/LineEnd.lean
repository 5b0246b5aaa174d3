import PackageAtlas.Syntax.Lexeme
import PackageAtlas.Text.Classes

namespace PackageAtlas.Syntax

/-!
# Ends of lines and other late lexemes

Some tokens are not told by their own characters: whether a line end ends a statement depends on
what the next line starts with, and a question mark may belong to a choice, to a chain or to a
parameter.

* `impliedEnd`: whether a statement ends at a place although no semicolon is written;
* `choiceMark?`: the question mark of a choice;
* `templateTextStop?`, `elementTextStop?`: text between marks;
* `pageComment?`: comments in the form that web pages use.
-/

/-- White space between lines: spaces and line ends, but none that forbid a line break and none
    without a width. -/
def isLineSpace (n : Nat) : Bool :=
  (9 ≤ n && n ≤ 13) || n == 0x20 || n == 0x1680 || (0x2000 ≤ n && n ≤ 0x2006) ||
    (0x2008 ≤ n && n ≤ 0x200A) || n == 0x2028 || n == 0x2029 || n == 0x205F || n == 0x3000

/-- Letters of every script. -/
def isScriptLetter (n : Nat) : Bool := n < brokenCode && Text.letters.contains n

/-! ### Implied ends -/

/-- The result of looking for an implied end. -/
structure LineEnd where
  /-- Whether a statement ends. -/
  implied : Bool
  /-- The place of the character that decided. -/
  place : Nat
  /-- Whether a comment that ends with its line has been passed over. -/
  passedComment : Bool
deriving Repr, DecidableEq

/-- The place behind the white space and the comments at a place, or the place behind a slash that
    starts no comment; the last flag tells which. -/
def passComments (s : Source) : Nat → Nat → Bool → Nat × Bool × Bool
  | 0, i, seen => (i, seen, true)
  | fuel + 1, i, seen =>
    let j := s.skipWhile isLineSpace i
    if s.code j == 0x2F then
      if s.code (j + 1) == 0x2F then
        let stop := s.skipWhile (fun n => n != 0 && n != 0x0A && n != 0x2028 && n != 0x2029) (j + 2)
        passComments s fuel stop true
      else if s.code (j + 1) == 0x2A then
        match blockStop? s (j + 2) with
        | some k => passComments s fuel k seen
        | none => (s.skipWhile (· != 0) (j + 2), seen, true)
      else (j + 1, seen, false)
    else (j, seen, true)

/-- What the grammar expects besides an implied end. -/
structure Expectation where
  /-- Whether it may be the end of the head of a function. -/
  head : Bool
  /-- Whether an operator may follow, as it does behind a value but not behind a type. -/
  operator : Bool
deriving Repr, DecidableEq

/-- Whether the first word of a line joins it to the line before: `in` or `instanceof`. A letter
    must not follow. -/
def joinsLines (s : Source) (i : Nat) : Bool :=
  let isWord (text : String) : Bool :=
    s.isAt i text.toUTF8.toList && !isScriptLetter (s.code (i + text.utf8ByteSize))
  isWord "in" || isWord "instanceof"

/-- Whether a statement ends before a line that starts with the character at `i`. -/
def endsBefore (s : Source) (e : Expectation) (i : Nat) : Bool :=
  let n := s.code i
  if isOneOf "`,.;*%><=?^|&/:" n then false
  else if n == 0x7B then !e.head
  else if isOneOf "([" n then !e.operator
  else if n == 0x2B then s.code (i + 1) == 0x2B
  else if n == 0x2D then s.code (i + 1) == 0x2D
  else if n == 0x21 then s.code (i + 1) != 0x3D
  else !joinsLines s i

/-- Looks for an implied end: the source or the block ends, or the line does and the next one does
    not go on with the statement. A closing brace with a colon behind it ends a pattern, unless an
    operator may stand there. -/
def impliedEnd (s : Source) (e : Expectation) (i : Nat) : LineEnd :=
  let j := s.skipWhile (fun n => isLineSpace n && n != 0x0A) i
  let n := s.code j
  if n == 0 then ⟨true, j, false⟩
  else if n == 0x7D then
    let k := s.skipWhile isLineSpace (j + 1)
    ⟨s.code k != 0x3A || e.operator, k, false⟩
  else if n == 0x0A then
    let (k, seen, clear) := passComments s s.size (j + 1) false
    ⟨clear && endsBefore s e k, k, seen⟩
  else ⟨false, j, false⟩

/-! ### Question marks -/

/-- The question mark of a choice at or after a place: its start and its stop. A second question
    mark, a point without a digit, or what ends a parameter must not follow. -/
def choiceMark? (s : Source) (i : Nat) : Option (Nat × Nat) :=
  let j := s.skipWhile isLineSpace i
  if s.code j == 0x3F && s.code (j + 1) != 0x3F then
    let k := s.skipWhile isLineSpace (j + 1)
    if isOneOf ":)," (s.code k) then none
    else if s.code k == 0x2E && !isDigit (s.code (k + 1)) then none
    else some (j, j + 1)
  else none

/-! ### Text between marks -/

/-- The next backquote, backslash or start of a hole. -/
def templateBound? (s : Source) (i : Nat) : Option Nat :=
  if i < s.size then
    let b := s.byte i
    if b == 0 then none
    else if b == 0x60 || b == 0x5C || (b == 0x24 && s.byte (i + 1) == 0x7B) then some i
    else templateBound? s (i + 1)
  else none
  termination_by s.size - i

/-- The end of text of a template. -/
def templateTextStop? (s : Source) (i : Nat) : Option Nat :=
  match templateBound? s i with
  | some j => if i < j then some j else none
  | none => none

/-- The end of text between tags, and whether it is more than line ends and the white space at the
    starts of lines. -/
def elementTextStop (s : Source) (i : Nat) : Nat × Bool :=
  let stop := s.skipWhile (fun n => n != 0 && !isOneOf "<>\x7b\x7d&" n) i
  (stop, hasText s s.size i stop false)
where
  /-- Whether there is text between two places; `fresh` tells that only white space has been read
      since the last line end. -/
  hasText (s : Source) : Nat → Nat → Nat → Bool → Bool
    | 0, _, _, _ => false
    | fuel + 1, i, stop, fresh =>
      if stop ≤ i then false
      else if s.code i == 0x0A then hasText s fuel (i + 1) stop true
      else if fresh && isLineSpace (s.code i) then hasText s fuel (s.glyph i).stop stop true
      else true

/-- A comment of a web page at or after a place: its start and its stop. -/
def pageComment? (s : Source) (i : Nat) : Option (Nat × Nat) :=
  let j := s.skipWhile isLineSpace i
  if s.isAt j [0x3C, 0x21, 0x2D, 0x2D] || s.isAt j [0x2D, 0x2D, 0x3E] then
    some (j, s.skipWhile (fun n => n != 0 && n != 0x0A && n != 0x2028 && n != 0x2029) (j + 3))
  else none

end PackageAtlas.Syntax
