import PackageAtlas.Syntax.Stack

namespace PackageAtlas.Syntax

/-!
# The next token of a reading

Which token comes next depends on the state of a reading, since the same characters are read as
different tokens in different places.

* `hasMovedSinceError`: whether a reading has taken anything since its last error;
* `findToken`: the token that stands at a place, for a state;
* `nextToken`: the next token of a reading;
* `Move`, `movesAt`: what a reading may do at a token.
-/

/-- Whether a way back has taken some of the source, or pieces without errors as far back as the
    reading has come since its last error. The first argument bounds how far back is looked. -/
def hasMovedOn (joints : Array Joint) (countAtError : Nat) : Nat → Nat → Bool
  | 0, _ => false
  | fuel + 1, id =>
    let joint := joints.getD id default
    let link := joint.links.getD 0 ⟨id, none⟩
    match link.piece with
    | some p =>
      if p.facts.lead < p.facts.stop then true
      else if countAtError < joint.count && p.cost == 0 then
        hasMovedOn joints countAtError fuel link.target
      else false
    | none => false

/-- Whether a reading has taken anything since its last error. -/
def hasMovedSinceError (v : Nat) : Reading Bool := do
  let x ← versionAt v
  let joints := (← get).joints
  return (joints.getD x.joint default).cost == 0 ||
    hasMovedOn joints x.countAtError (joints.size + 1) x.joint

/-- A late token of a reading. One that takes nothing must not directly follow an error. -/
def findLate? (v place : Nat) (expected : Expected) : Reading (Option Found) := do
  let task ← read
  match task.lexicon.lateToken? task.source expected place with
  | some f =>
    if place < f.stop then return some f
    else if ← hasMovedSinceError v then return some f
    else return none
  | none => return none

/-- The token at a place of which only its characters tell what it is; a word is a literal if
    `known` tells that the literal may stand there. What is no token is passed over. -/
def anyPiece (place : Nat) (known : Expected) : Reading Piece := do
  let task ← read
  let l := task.lexicon
  let s := task.source
  match l.freeToken? s known place with
  | some f => return .ofToken l.tables place f
  | none =>
    let start := s.skipWhile isBlank place
    return .stray place start (l.strayStop s s.size (Lexicon.passStray s start place))

/-- The token at a place, for a state. -/
def findToken (v place state : Nat) : Reading Piece := do
  let task ← read
  let l := task.lexicon
  if state == lostState then anyPiece place l.anyToken
  else
    let expected := (← stateAt state).expects
    match ← findLate? v place expected with
    | some f => return .ofToken l.tables place f
    | none =>
      match (l.innerToken? task.source expected place).or
          (l.plainToken? task.source expected expected place) with
      | some f => return .ofToken l.tables place f
      | none => anyPiece place expected

/-- The next token of a reading. -/
def nextToken (v : Nat) : Reading Piece := do
  let head ← headOf v
  match (← get).lastFound with
  | some (place, state, p) =>
    if place == head.place && state == head.state then return p else fresh head
  | none => fresh head
where
  /-- Looks for the token, and keeps it. -/
  fresh (head : Joint) : Reading Piece := do
    let p ← findToken v head.place head.state
    modify (fun d => { d with lastFound := some (head.place, head.state, p) })
    return p

/-- What a reading may do at a token. -/
inductive Move where
  | take (action : Action)
  /-- Look for a way to go on after an error. -/
  | recover
deriving Inhabited

/-- What a reading may do in a state at a piece; nothing else than tokens is expected in a state.
    One that has lost its way only takes comments. -/
def movesAt (state : Nat) (p : Piece) : Reading (List Move) := do
  match p.facts.kind with
  | .token id =>
    if state == lostState then
      if (← tables).extras.contains id then return [.take .stay] else return [.recover]
    else return ((← stateAt state).actionsAt id).map .take
  | _ => return []

/-- Whether a state expects a piece. -/
def expectsPiece (state : Nat) (p : Piece) : Reading Bool := do
  match p.facts.kind with
  | .token id => return (← stateAt state).expects id
  | _ => return false

end PackageAtlas.Syntax
