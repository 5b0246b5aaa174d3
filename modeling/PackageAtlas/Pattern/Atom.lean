import PackageAtlas.Pattern.Reader
import PackageAtlas.Text.CodePoints
import PackageAtlas.Text.Integer
import PackageAtlas.Text.Names

namespace PackageAtlas.Pattern

/-!
# Atoms of patterns

The parts of a pattern that hold no other part, and how often they are repeated.

* `escape`, `classEscape`: what stands behind a backslash, outside of sets and inside them;
* `charSet`: a set of characters in brackets;
* `quantifier`: how often the item before is repeated.
-/

open Reader

/-! ### Escapes -/

/-- Whether a character is an octal digit. -/
def isOctal (c : Char) : Bool := '0' ≤ c && c ≤ '7'

/-- Whether a character is a decimal digit of ASCII. -/
def isDigit (c : Char) : Bool := '0' ≤ c && c ≤ '9'

/-- Whether a character is a hexadecimal digit. -/
def isHex (c : Char) : Bool := (Text.hexDigit? c).isSome

/-- Whether a character is a letter of ASCII. -/
def isAsciiLetter (c : Char) : Bool := ('a' ≤ c && c ≤ 'z') || ('A' ≤ c && c ≤ 'Z')

/-- The number that some digits of a base stand for. -/
def numberOf (base : Nat) (digits : List Char) : Nat :=
  digits.foldl (fun n c => n * base + (Text.hexDigit? c).getD 0) 0

/-- The character that a letter stands for behind a backslash. -/
def controlCode? : Char → Option Nat
  | 'a' => some 7
  | 'b' => some 8
  | 'f' => some 12
  | 'n' => some 10
  | 'r' => some 13
  | 't' => some 9
  | 'v' => some 11
  | '\\' => some 92
  | _ => none

/-- The class that a letter stands for behind a backslash. -/
def categoryOf? : Char → Option Member
  | 'd' => some (.category .digit false)
  | 'D' => some (.category .digit true)
  | 's' => some (.category .space false)
  | 'S' => some (.category .space true)
  | 'w' => some (.category .word false)
  | 'W' => some (.category .word true)
  | _ => none

/-- The place that a letter stands for behind a backslash. -/
def anchorOf? : Char → Option Anchor
  | 'A' => some .textStart
  | 'b' => some .boundary
  | 'B' => some .noBoundary
  | 'Z' => some .textStop
  | _ => none

/-- The text of an escape with the characters read behind it. -/
def escapeText (c : Char) (more : List Char) : String := String.ofList ('\\' :: c :: more)

/-- A code point in a fixed number of hexadecimal digits. -/
def hexEscape (c : Char) (digits : Nat) : Reader Nat := do
  let ds ← Reader.takeWhile isHex digits []
  let text := escapeText c ds
  if ds.length = digits then
    let n := Text.hexNumber ds
    if n < 0x110000 then return n else fault (.badEscape text) text.length
  else fault (.incompleteEscape text) text.length

/-- A character by its name, in braces. -/
def namedEscape : Reader Nat := do
  if ← skip '\x7b' then
    let id ← nameUntil '\x7d' "character name"
    match Text.codeOfName? id with
    | some n => return n
    | none => fault (.undefinedCharacter id) (id.length + 4)
  else fault (.missing "\x7b") 0

/-- An escape that means the same inside a set of characters and outside of one, if it is one. -/
def codeEscape? (c : Char) : Reader (Option Nat) := do
  match c with
  | 'x' => return some (← hexEscape c 2)
  | 'u' => return some (← hexEscape c 4)
  | 'U' => return some (← hexEscape c 8)
  | 'N' => return some (← namedEscape)
  | _ => return none

/-- A character behind a backslash that stands for itself. -/
def plainEscape (c : Char) : Reader Nat := do
  if isAsciiLetter c then fault (.badEscape (escapeText c [])) 2 else return c.toNat

/-- An octal escape, checked to be in range. -/
def octalEscape (digits : List Char) : Reader Nat := do
  let n := numberOf 8 digits
  if n > 255 then
    let text := String.ofList ('\\' :: digits)
    fault (.octalOutOfRange text) text.length
  else return n

/-- An escape inside a set of characters. -/
def classEscape (c : Char) : Reader Member := do
  match controlCode? c, categoryOf? c with
  | some n, _ => return .code n
  | none, some m => return m
  | none, none =>
    match ← codeEscape? c with
    | some n => return .code n
    | none =>
      if isOctal c then
        let more ← Reader.takeWhile isOctal 2 []
        return .code (← octalEscape (c :: more))
      else if isDigit c then fault (.badEscape (escapeText c [])) 2
      else return .code (← plainEscape c)

/-- A reference to a group, written with some digits. -/
def groupReference (digits : List Char) : Reader Expr := do
  let index := numberOf 10 digits
  if index ≤ (← groupCount) then
    match ← closedWidth? index with
    | none => fault .openGroup (digits.length + 1)
    | some width =>
      checkBehind index
      return .backref index width
  else fault (.invalidGroup index) digits.length

/-- A backslash and a digit other than zero: three octal digits, or a reference to a group. -/
def digitEscape (c : Char) : Reader Expr := do
  let second ← Reader.takeWhile isDigit 1 []
  if isOctal c && second.all isOctal && !second.isEmpty then
    let third ← Reader.takeWhile isOctal 1 []
    if third.isEmpty then groupReference (c :: second)
    else return .char (← octalEscape (c :: second ++ third))
  else groupReference (c :: second)

/-- An escape outside of sets. -/
def escape (c : Char) : Reader Expr := do
  match anchorOf? c, categoryOf? c, controlCode? c with
  | some a, _, _ => return .anchor a
  | none, some m, _ => return .set false [m]
  | none, none, some n => return .char n
  | none, none, none =>
    match ← codeEscape? c with
    | some n => return .char n
    | none =>
      if c == '0' then
        let more ← Reader.takeWhile isOctal 2 []
        return .char (numberOf 8 more)
      else if isDigit c then digitEscape c
      else return .char (← plainEscape c)

/-! ### Sets of characters -/

/-- A member of a set that starts with a piece. -/
def setMember (p : Piece) : Reader Member := do
  match p with
  | .plain c => return .code c.toNat
  | .escaped c => classEscape c
  | .dangling => fault .danglingEscape 0

/-- The members of a set up to its closing bracket; the set started at `start`. -/
def setMembers (start : Nat) : Nat → List Member → Reader (List Member)
  | 0, done => return done.reverse
  | fuel + 1, done => do
    match ← advance with
    | none => unterminated
    | some p =>
      if p == .plain ']' && !done.isEmpty then return done.reverse
      else
        let first ← setMember p
        if ← skip '-' then
          match ← advance with
          | none => unterminated
          | some q =>
            if q == .plain ']' then return (.code 0x2D :: first :: done).reverse
            else
              let last ← setMember q
              match first, last with
              | .code lo, .code hi =>
                if hi < lo then badRange p q
                else setMembers start fuel (.range lo hi :: done)
              | _, _ => badRange p q
        else setMembers start fuel (first :: done)
where
  /-- The pattern ends inside the set. -/
  unterminated {α : Type} : Reader α := do
    throw (.at .unterminatedSet start)
  /-- The ends of a range are no characters, or in the wrong order. -/
  badRange {α : Type} (p q : Piece) : Reader α :=
    fault (.badRange p.text q.text) (p.length + 1 + q.length)

/-- A set of characters behind its opening bracket. -/
def charSet : Reader Expr := do
  let start := (← place) - 1
  let negated ← skip '^'
  let members ← setMembers start ((← get).rest.length + 1) []
  match members.eraseDups with
  | [.code n] => return if negated then .notChar n else .char n
  | ms => return .set negated ms

/-! ### Repetition -/

/-- The largest number of repetitions that can be asked for is one less. -/
def countLimit : Nat := 4294967295

/-- A number of repetitions. -/
def countOf (digits : List Char) : Reader Nat := do
  if Text.digitLimit < digits.length then throw (.countTooLong digits.length)
  let n := numberOf 10 digits
  if countLimit ≤ n then throw .countTooLarge
  return n

/-- How often something is repeated, from a quantifier that has been read; none if an opening brace
    stands for itself. -/
def bounds? (c : Char) : Reader (Option (Nat × Option Nat)) := do
  match c with
  | '?' => return some (0, some 1)
  | '*' => return some (0, none)
  | '+' => return some (1, none)
  | _ =>
    let start ← get
    if (← next) == some (.plain '\x7d') then return none
    else
      let many := start.rest.length
      let lo ← Reader.takeWhile isDigit many []
      let hi ← do
        if ← skip ',' then Reader.takeWhile isDigit many [] else pure lo
      if ← skip '\x7d' then
        let least ← if lo.isEmpty then pure 0 else countOf lo
        if hi.isEmpty then return some (least, none)
        else
          let most ← countOf hi
          if most < least then throw (.at .minAboveMax start.place)
          return some (least, some most)
      else
        set start
        return none

/-- How greedy a repetition is, from the mark behind its quantifier. -/
def greed : Reader Greed := do
  if ← skip '?' then return .lazy
  else if ← skip '+' then return .possessive
  else return .greedy

/-- Whether an expression is a repetition. -/
def isRepetition : Expr → Bool
  | .repeated _ _ _ _ => true
  | _ => false

/-- Whether an expression is a place. -/
def isAnchor : Expr → Bool
  | .anchor _ => true
  | _ => false

/-- The items, last one first, after a quantifier `c` behind them. -/
def quantifier (c : Char) (done : List Expr) : Reader (List Expr) := do
  let start := (← place) - 1
  match ← bounds? c with
  | none => return .char c.toNat :: done
  | some (lo, hi) =>
    match done with
    | [] => throw (.at .nothingToRepeat start)
    | item :: before =>
      if isAnchor item then throw (.at .nothingToRepeat start)
      else if isRepetition item then throw (.at .multipleRepeat start)
      else return .repeated (← greed) lo hi item.repeatable :: before

end PackageAtlas.Pattern
