import PackageAtlas.Syntax.LineEnd
import PackageAtlas.Syntax.Tables

namespace PackageAtlas.Syntax

/-!
# Tokens at a place

Which token stands at a place depends on those that are expected there: the longest expected one
is taken. Where none is found that is expected, any token will do.

* `Lexicon`: a grammar with its literals sorted by their first bytes;
* `Found`: a token that was found;
* `lateToken?`: tokens that are not told by their own characters;
* `innerToken?`: parts of strings and regular expressions, which follow without white space;
* `plainToken?`: all others;
* `freeToken?`: tokens that their characters tell, whatever is expected;
* `strayStop`: the end of what is no token.
-/

/-- A grammar with its literals in the form in which they are looked up. -/
structure Lexicon where
  tables : Tables
  /-- Literals that are no words, by their first byte, longer ones first. -/
  marks : Array (List (List UInt8 × Nat))
  /-- Literals that are words. -/
  words : Std.HashMap String Nat
deriving Inhabited

/-- Whether a literal is a word. -/
def isWordLiteral (text : String) : Bool := text.toList.all (fun c => isBasicLetter c.toNat)

/-- The literals of a grammar with their numbers. -/
def Tables.literals (t : Tables) : List (String × Nat) :=
  (t.terminals.toList.zipIdx).filterMap (fun p => match p.1 with
    | .literal text => some (text, p.2)
    | _ => none)

/-- The lexicon of a grammar. -/
def Lexicon.ofGrammar (g : Grammar) : Lexicon :=
  let t := Tables.ofGrammar g
  let marks := ((t.literals.filter (fun p => !isWordLiteral p.1)).map (fun p =>
    (p.1.toUTF8.toList, p.2))).mergeSort (fun a b => b.1.length ≤ a.1.length)
  { tables := t
    marks := ((List.range 256).map (fun b =>
      marks.filter (fun m => m.1.head? == some b.toUInt8))).toArray
    words := (t.literals.filter (fun p => isWordLiteral p.1)).foldl
      (fun (m : Std.HashMap String Nat) p => m.insert p.1 p.2) {} }

/-- A token in a source. -/
structure Found where
  token : Nat
  start : Nat
  stop : Nat
  /-- Whether it is a literal that is a word. -/
  isWord : Bool
deriving Repr, DecidableEq

/-- The tokens that are expected at a place. -/
abbrev Expected := Nat → Bool

namespace Lexicon

/-- The number of a lexeme. -/
def lexemeId (l : Lexicon) (kind : Lexeme) : Nat := l.tables.idOf (.lexeme kind)

/-- Whether a lexeme is expected. -/
def expects (l : Lexicon) (expected : Expected) (kind : Lexeme) : Bool :=
  expected (l.lexemeId kind)

/-- The token of a lexeme. -/
def found (l : Lexicon) (kind : Lexeme) (start stop : Nat) : Found :=
  ⟨l.lexemeId kind, start, stop, false⟩

/-! ### Late tokens -/

/-- A late token at a place. Text of a template is expected together with an implied end only by
    a reading that has lost its way. -/
def lateToken? (l : Lexicon) (s : Source) (expected : Expected) (i : Nat) : Option Found :=
  let wants := l.expects expected
  if wants .templateText then
    if wants .impliedEnd then none
    else (templateTextStop? s i).map (l.found .templateText i)
  else if wants .elementText && (elementTextStop s i).2 then
    some (l.found .elementText i (elementTextStop s i).1)
  else
    let place := if wants .elementText then (elementTextStop s i).1 else i
    let operator := expected (l.tables.idOf (.literal "||"))
    if wants .impliedEnd || wants .impliedHeadEnd then
      let line := impliedEnd s ⟨wants .impliedHeadEnd, operator⟩ place
      if line.implied then some (l.found .impliedEnd i i)
      else if !line.passedComment && wants .choiceMark && s.code line.place == 0x3F then
        mark? (choiceMark? s line.place) .choiceMark
      else none
    else if wants .choiceMark then mark? (choiceMark? s place) .choiceMark
    else if wants .pageComment && !operator && !wants .escape && !wants .pattern then
      mark? (pageComment? s place) .pageComment
    else none
where
  /-- A lexeme between two places. -/
  mark? (places : Option (Nat × Nat)) (kind : Lexeme) : Option Found :=
    places.map (fun p => l.found kind p.1 p.2)

/-! ### Inner tokens -/

/-- The lexemes that follow without white space, with where they stop. -/
def innerStops (s : Source) : List (Lexeme × (Nat → Option Nat)) :=
  [(.doubleText, textStop? s 0x22), (.singleText, textStop? s 0x27),
    (.doubleValue, valueStop? s 0x22), (.singleValue, valueStop? s 0x27),
    (.escape, escapeStop? s), (.pattern, patternStop? s),
    (.patternEnd, fun i => passOneOf? s "/" i), (.patternFlags, runStop? s isSmall)]

/-- A part of a string or a regular expression at a place. -/
def innerToken? (l : Lexicon) (s : Source) (expected : Expected) (i : Nat) : Option Found :=
  (innerStops s).findSome? (fun p =>
    if l.expects expected p.1 then (p.2 i).map (l.found p.1 i) else none)

/-! ### Plain tokens -/

/-- The longer of two tokens, the first if both are as long. -/
def longer : Option Found → Option Found → Option Found
  | some a, some b => if a.stop < b.stop then some b else some a
  | some a, none => some a
  | none, o => o

/-- The longest expected mark at a place. -/
def markAt? (l : Lexicon) (s : Source) (expected : Expected) (i : Nat) : Option Found :=
  ((l.marks.getD (s.byte i).toNat []).find? (fun m => expected m.2 && s.isAt i m.1)).map
    (fun m => ⟨m.2, i, i + m.1.length, false⟩)

/-- The word at a place. It is a literal if `known` tells that the literal may stand there. -/
def wordAt? (l : Lexicon) (s : Source) (expected known : Expected) (i : Nat) : Option Found :=
  if l.expects expected .name || l.words.any (fun _ id => expected id) then
    (nameStop? s i).map (fun stop =>
      match l.words[s.slice i stop]? with
      | some id => ⟨if known id then id else l.lexemeId .name, i, stop, true⟩
      | none => l.found .name i stop)
  else none

/-- The plain lexemes besides words and marks, with where they stop. -/
def plainStops (s : Source) : List (Lexeme × (Nat → Option Nat)) :=
  [(.number, numberStop? s), (.secretName, secretNameStop? s), (.hashBang, hashBangStop? s),
    (.dashedName, dashedNameStop? s), (.reference, referenceStop? s)]

/-- The longest expected token behind the white space at a place. Comments are always expected. -/
def plainToken? (l : Lexicon) (s : Source) (expected known : Expected) (i : Nat) :
    Option Found :=
  let j := s.skipWhile isBlank i
  if s.size ≤ j then
    let finish := l.tables.idOf .finish
    if expected finish then some ⟨finish, s.size, s.size, false⟩ else none
  else
    let comment := (commentStop? s j).map (l.found .comment j)
    (plainStops s).foldl (fun best p =>
      if l.expects expected p.1 then longer best ((p.2 j).map (l.found p.1 j)) else best)
      (longer (longer comment (l.markAt? s expected j)) (l.wordAt? s expected known j))

/-! ### Tokens of a reading that has lost its way -/

/-- Lexemes that only a grammar can tell. -/
def guidedLexemes : List Lexeme :=
  [.doubleText, .singleText, .pattern, .patternFlags, .doubleValue, .singleValue, .templateText,
    .impliedEnd, .choiceMark, .impliedHeadEnd, .pageComment, .elementText, .reference, .dashedName]

/-- Marks that only a grammar can tell from a shorter mark and what follows it. -/
def guidedMarks : List String := ["?:", "/=", "/>"]

/-- Every token that its characters tell. -/
def anyToken (l : Lexicon) : Expected := fun id =>
  match l.tables.terminals[id]? with
  | some (.lexeme kind) => !guidedLexemes.contains kind
  | some (.literal text) => !guidedMarks.contains text
  | some .finish => true
  | none => false

/-- The token at a place that its characters tell; a word is a literal if `known` tells that the
    literal may stand there. Where no white space precedes them, an escape and the end of a regular
    expression are such tokens too, unless a longer one is there. -/
def freeToken? (l : Lexicon) (s : Source) (known : Expected) (i : Nat) : Option Found :=
  longer (l.innerToken? s l.anyToken i) (l.plainToken? s l.anyToken known i)

/-- Where reading an escape breaks off that is not complete. Only an escape of a string may give a
    byte by its number. -/
def escapeBreak (s : Source) (ofString : Bool) (i : Nat) : Nat :=
  let n := s.code (i + 1)
  if ofString && n == 0x78 then s.skipWhile isHexDigit (i + 2)
  else if n != 0x75 then i + 1
  else if s.code (i + 2) == 0x7B then s.skipWhile isHexDigit (i + 3)
  else s.skipWhile isHexDigit (i + 2)

/-- Where reading a token breaks off if there is none behind the white space at a place. -/
def tokenBreak (s : Source) (i : Nat) : Nat :=
  let j := s.skipWhile isBlank i
  if s.code j == 0x5C then escapeBreak s (j == i) j
  else if s.code j == 0x23 then
    if s.code (j + 1) == 0x5C then escapeBreak s false (j + 1) else j + 1
  else j

/-- The place behind what was read in vain at a place, at least behind one character; `start` is
    where the characters start that are no token. -/
def passStray (s : Source) (start i : Nat) : Nat :=
  let j := tokenBreak s i
  if j == start then (s.glyph j).stop else j

/-- The end of what is no token: the first place at or after `i` where one starts. -/
def strayStop (l : Lexicon) (s : Source) : Nat → Nat → Nat
  | 0, i => i
  | fuel + 1, i =>
    if s.size ≤ i || (l.freeToken? s l.anyToken i).isSome then i
    else strayStop l s fuel (passStray s i i)

end Lexicon

end PackageAtlas.Syntax
