import PackageAtlas.Pattern.Error
import PackageAtlas.Text.Classes

namespace PackageAtlas.Pattern

/-!
# Reading patterns

A pattern is read piece by piece; a piece is a character, or a backslash and the character behind
it.

* `Piece`, `piecesOf`: the pieces of a pattern;
* `Reading`: what is left to read and what is known so far;
* `Reader`: the readers, with `advance`, `skip`, `takeWhile` and `fault`.

A lone backslash at the end is an error as soon as it is the next piece.
-/

/-! ### Pieces -/

/-- A piece of a pattern. -/
inductive Piece where
  | plain (c : Char)
  | escaped (c : Char)
  /-- A backslash with nothing behind it. -/
  | dangling
deriving Repr, DecidableEq, Inhabited

/-- The characters of a piece. -/
def Piece.chars : Piece → List Char
  | .plain c => [c]
  | .escaped c => ['\\', c]
  | .dangling => ['\\']

/-- The number of characters of a piece. -/
def Piece.length (p : Piece) : Nat := p.chars.length

/-- The text of a piece. -/
def Piece.text (p : Piece) : String := String.ofList p.chars

/-- The pieces of a pattern, behind those of `done`, which are held in reverse. -/
def piecesAfter (done : List Piece) : List Char → List Piece
  | [] => done.reverse
  | '\\' :: c :: cs => piecesAfter (.escaped c :: done) cs
  | '\\' :: [] => (.dangling :: done).reverse
  | c :: cs => piecesAfter (.plain c :: done) cs

/-- The pieces of a pattern. -/
def piecesOf (pattern : String) : List Piece := piecesAfter [] pattern.toList

/-! ### Readers -/

/-- What is left to read and what is known so far. -/
structure Reading where
  rest : List Piece
  /-- Where the next piece starts. -/
  place : Nat
  /-- The flags that hold for the whole pattern. -/
  flags : Flags
  /-- The widths of the groups; none for a group that is still open. -/
  groups : Array (Option Width)
  /-- The groups that have names. -/
  names : List (String × Nat)
  /-- The number of groups that an enclosing look-behind may refer to. -/
  behind : Option Nat
  /-- The groups that conditions name by number, and where. -/
  conditions : List (Nat × Nat)

/-- A function that reads a part of a pattern. -/
abbrev Reader := StateT Reading (Except Error)

namespace Reader

/-- Stops with a fault that lies `back` characters before the next piece. -/
def fault {α : Type} (f : Fault) (back : Nat) : Reader α := do
  throw (.at f ((← get).place - back))

/-- The next piece. -/
def next : Reader (Option Piece) := do return (← get).rest.head?

/-- Where the next piece starts. -/
def place : Reader Nat := do return (← get).place

/-- Reads the next piece. -/
def advance : Reader (Option Piece) := do
  let r ← get
  match r.rest with
  | [] => return none
  | p :: ps =>
    set { r with rest := ps, place := r.place + p.length }
    match ps with
    | .dangling :: _ => fault .danglingEscape 0
    | _ => return some p

/-- Reads a character if it is next, and tells whether it was. -/
def skip (c : Char) : Reader Bool := do
  if (← next) == some (.plain c) then
    let _ ← advance
    return true
  else return false

/-- Reads at most `n` characters while they satisfy `p`. -/
def takeWhile (p : Char → Bool) : Nat → List Char → Reader (List Char)
  | 0, done => return done.reverse
  | n + 1, done => do
    match ← next with
    | some (.plain c) =>
      if p c then
        let _ ← advance
        takeWhile p n (c :: done)
      else return done.reverse
    | _ => return done.reverse

/-- Reads a name up to a closing character, which is read too. -/
def name (closing : Char) (what : String) : Nat → List Char → Reader String
  | 0, done => return String.ofList done.reverse
  | fuel + 1, done => do
    let length := done.length
    match ← advance with
    | none =>
      if length = 0 then fault (.missing what) 0
      else fault (.unterminatedName (String.singleton closing)) length
    | some p =>
      if p == .plain closing then
        if length = 0 then fault (.missing what) 1
        else return String.ofList done.reverse
      else name closing what fuel (p.chars.reverse ++ done)

/-- Reads a name. -/
def nameUntil (closing : Char) (what : String) : Reader String := do
  name closing what ((← get).rest.length + 1) []

/-- A name that may name a group. -/
def groupName (closing : Char) : Reader String := do
  let id ← nameUntil closing "group name"
  if Text.isIdentifier id then return id
  else fault (.badGroupName id) (id.length + 1)

/-- The number of groups so far. -/
def groupCount : Reader Nat := do return (← get).groups.size

/-- The width of a group that is closed. -/
def closedWidth? (index : Nat) : Reader (Option Width) := do
  if index = 0 then return none
  else return ((← get).groups[index - 1]?).join

/-- Checks that a group may be referred to where a look-behind is read. -/
def checkBehind (index : Nat) : Reader Unit := do
  match (← get).behind with
  | none => return ()
  | some known =>
    if (← closedWidth? index).isNone then fault .openGroup 0
    else if known < index then fault .lookBehindGroup 0
    else return ()

end Reader

end PackageAtlas.Pattern
