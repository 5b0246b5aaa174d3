import PackageAtlas.Syntax.Automaton
import PackageAtlas.Syntax.Piece

namespace PackageAtlas.Syntax

/-!
# Stacks of readings

Several readings of a source go on side by side. Each has a stack of pieces; stacks share what
they have in common, and where two readings come to the same state at the same place they go on as
one. So a stack is a path in a graph whose links carry the pieces.

* `Link`, `Joint`: the graph;
* `Version`: a reading, with the joint it has come to;
* `Desk`: the graph, the readings and the states that have been made;
* `Reading`: computations on a desk, about a source;
* `push`, `join`: how stacks grow and meet;
* `followBack`: the ways back from where a reading has come to.
-/

/-- A way back from a joint, with the piece that was read on it; a reading that has lost its way
    starts again behind a link without a piece. -/
structure Link where
  /-- The joint that it leads to. -/
  target : Nat
  piece : Option Piece
deriving Inhabited

/-- A place in a source where a reading is in a state. -/
structure Joint where
  state : Nat
  place : Nat
  links : Array Link
  /-- What the errors on the way cost. -/
  cost : Nat
  /-- The number of nodes of the tree on the way. -/
  count : Nat
  weight : Int
deriving Inhabited

/-- A joint on the way of a reading that has lost its way. -/
structure Waypoint where
  place : Nat
  /-- How many pieces lie behind it. -/
  depth : Nat
  state : Nat
deriving Repr

/-- Whether a reading goes on. -/
inductive Status where
  | active
  /-- The reading cannot go on with a token. -/
  | paused (token : Piece)
  | halted
deriving Inhabited

/-- A reading. -/
structure Version where
  /-- The joint it has come to. -/
  joint : Nat
  status : Status
  /-- The count at the joint of its last error. -/
  countAtError : Nat
  /-- The joints on its way when it lost it. -/
  waypoints : Option (List Waypoint)
deriving Inhabited

/-- Whether the reading is active. -/
def Version.isActive (v : Version) : Bool :=
  match v.status with
  | .active => true
  | _ => false

/-- Whether the reading is paused. -/
def Version.isPaused (v : Version) : Bool :=
  match v.status with
  | .paused _ => true
  | _ => false

/-- Whether the reading has ended. -/
def Version.isHalted (v : Version) : Bool :=
  match v.status with
  | .halted => true
  | _ => false

/-- All readings of a source, with what they share. -/
structure Desk where
  automaton : Automaton
  joints : Array Joint
  versions : Array Version
  /-- The best complete reading so far, and the number of complete readings. -/
  finished : Option Piece
  accepted : Nat
  /-- The last token that was found, with the place and the state it was found for. -/
  lastFound : Option (Nat × Nat × Piece)

/-- What is read. -/
structure Task where
  lexicon : Lexicon
  source : Source

/-- Computations on a desk. -/
abbrev Reading := ReaderT Task (StateM Desk)

/-- The grammar by numbers. -/
def tables : Reading Tables := return (← read).lexicon.tables

/-- The joint of a number. -/
def jointAt (id : Nat) : Reading Joint := return (← get).joints.getD id default

/-- The reading of a number. -/
def versionAt (v : Nat) : Reading Version := return (← get).versions.getD v default

/-- The number of readings. -/
def versionCount : Reading Nat := return (← get).versions.size

/-- The joint that a reading has come to. -/
def headOf (v : Nat) : Reading Joint := do jointAt (← versionAt v).joint

/-- Changes a reading. -/
def modifyVersion (v : Nat) (f : Version → Version) : Reading Unit :=
  modify (fun d => { d with versions := d.versions.modify v f })

/-- Ends a reading. -/
def haltVersion (v : Nat) : Reading Unit := modifyVersion v (fun x => { x with status := .halted })

/-- Takes a reading away. -/
def removeVersion (v : Nat) : Reading Unit :=
  modify (fun d => { d with versions := d.versions.eraseIdxIfInBounds v })

/-- Adds a reading behind the others, and gives its number. -/
def addVersion (x : Version) : Reading Nat :=
  modifyGet (fun d => (d.versions.size, { d with versions := d.versions.push x }))

/-- Adds a joint, and gives its number. -/
def addJoint (j : Joint) : Reading Nat :=
  modifyGet (fun d => (d.joints.size, { d with joints := d.joints.push j }))

/-- Puts the reading `v` in the place of `w`; it keeps the waypoints that `w` had. -/
def replaceVersion (v w : Nat) : Reading Unit := do
  if v != w then
    let x ← versionAt v
    let y ← versionAt w
    let waypoints := if x.waypoints.isNone then y.waypoints else x.waypoints
    modifyVersion w (fun _ => { x with waypoints := waypoints })
    removeVersion v

/-! ### States -/

/-- The state of a number. -/
def stateAt (id : Nat) : Reading State := return (← get).automaton.state id

/-- The state behind a token or a construct. -/
def nextState (state : Nat) (e : Entry) : Reading (Option Nat) := do
  let t ← tables
  modifyGet (fun d =>
    let (next, automaton) := d.automaton.next t state e
    (next, { d with automaton := automaton }))

/-! ### Growing and meeting -/

/-- The joint behind a piece. -/
def Joint.after (j : Joint) (id : Nat) (piece : Option Piece) (state : Nat) : Joint :=
  match piece with
  | none => ⟨state, j.place, #[⟨id, none⟩], j.cost, j.count, j.weight⟩
  | some p => ⟨state, p.facts.stop, #[⟨id, some p⟩], j.cost + p.cost, j.count + p.nodeCount,
      j.weight + p.facts.weight⟩

/-- Puts a piece on the stack of a reading, which comes to a state; without a piece it has lost its
    way. -/
def push (v : Nat) (piece : Option Piece) (state : Nat) : Reading Unit := do
  let x ← versionAt v
  let joint := (← jointAt x.joint).after x.joint piece state
  let id ← addJoint joint
  modifyVersion v (fun x => { x with
    joint := id
    countAtError := if piece.isNone then joint.count else x.countAtError })

/-- Whether two pieces read the same thing at the same place, so that only one is needed: two
    pieces with errors of one kind, or two of the same shape. -/
def alike : Option Piece → Option Piece → Bool
  | none, none => true
  | some p, some q =>
    let f := p.facts
    let g := q.facts
    f.kind == g.kind && ((0 < p.cost && 0 < q.cost) ||
      (f.start - f.lead == g.start - g.lead && f.stop - f.start == g.stop - g.start &&
        p.parts.length == q.parts.length && f.extra == g.extra))
  | _, _ => false

/-- Whether readings that come to these joints go on in the same way. -/
def Joint.meets (a b : Joint) : Bool :=
  a.state == b.state && a.place == b.place && a.cost == b.cost

/-- The largest number of ways back from a joint. -/
def linkLimit : Nat := 8

/-- The weight of a way through a link. -/
def weightThrough (target : Joint) (piece : Option Piece) : Int :=
  target.weight + (piece.map (·.facts.weight)).getD 0

/-- Adds a way back from a joint. A way that another one makes needless is left out, and where two
    ways lead to joints that meet, these become one. The first argument bounds how far back that
    goes. -/
def addLink : Nat → Nat → Link → Reading Unit
  | 0, _, _ => pure ()
  | fuel + 1, id, link => do
    if link.target != id then
      let joint ← jointAt id
      let target ← jointAt link.target
      let others ← joint.links.toList.mapM (fun l => do return (l, ← jointAt l.target))
      let found := others.findIdx? (fun (l, back) =>
        alike l.piece link.piece && (l.target == link.target || back.meets target))
      match found with
      | some i =>
        let old := joint.links.getD i default
        if old.target == link.target then
          match link.piece, old.piece with
          | some p, some q =>
            if q.facts.weight < p.facts.weight then
              modify (fun d => { d with joints := d.joints.modify id (fun j => { j with
                links := j.links.setIfInBounds i link
                weight := weightThrough target link.piece }) })
          | _, _ => pure ()
        else
          for l in target.links do
            addLink fuel old.target l
          modify (fun d => { d with joints := d.joints.modify id (fun j =>
            { j with weight := max j.weight (weightThrough target link.piece) }) })
      | none =>
        if joint.links.size < linkLimit then
          let count := target.count + (link.piece.map Piece.nodeCount).getD 0
          modify (fun d => { d with joints := d.joints.modify id (fun j => { j with
            links := j.links.push link
            count := max j.count count
            weight := max j.weight (weightThrough target link.piece) }) })

/-- Whether two readings are at joints that meet. -/
def canJoin (v w : Nat) : Reading Bool := do
  let x ← versionAt v
  let y ← versionAt w
  return x.isActive && y.isActive && (← jointAt x.joint).meets (← jointAt y.joint)

/-- Lets the reading `w` go on as part of `v`, if they are at joints that meet. -/
def join (v w : Nat) : Reading Bool := do
  if ← canJoin v w then
    let x ← versionAt v
    let y ← versionAt w
    let fuel := (← get).joints.size
    for l in (← jointAt y.joint).links do
      addLink fuel x.joint l
    let joint ← jointAt x.joint
    if joint.state == lostState then
      modifyVersion v (fun x => { x with countAtError := joint.count })
    removeVersion w
    return true
  else return false

/-! ### Ways back -/

/-- A way back from a joint: where it has come to, its pieces in the order of the source, and how
    many of them are parts of productions. -/
structure Path where
  joint : Nat
  pieces : List Piece
  depth : Nat

/-- A way through one more link. -/
def Path.through (p : Path) (l : Link) : Path :=
  match l.piece with
  | none => ⟨l.target, p.pieces, p.depth + 1⟩
  | some piece =>
    ⟨l.target, piece :: p.pieces, if piece.facts.extra then p.depth else p.depth + 1⟩

/-- The largest number of ways that are followed at a time. -/
def pathLimit : Nat := 64

/-- The state of a round over all ways that are followed. -/
structure Round (α : Type) where
  found : α
  /-- Ways that go on, in reverse. -/
  kept : List Path
  /-- Ways that branched off, in reverse. -/
  added : List Path
  size : Nat

/-- Follows one way through the links of its joint. `visit` notes what is found there and tells
    whether the way ends. -/
def Round.follow {α : Type} (joints : Array Joint) (visit : α → Joint → Path → α × Bool)
    (r : Round α) (p : Path) : Round α :=
  let joint := joints.getD p.joint default
  let (found, ends) := visit r.found joint p
  match joint.links.toList with
  | [] => { r with found := found, size := r.size - 1 }
  | first :: others =>
    if ends then { r with found := found, size := r.size - 1 }
    else
      let branched := others.foldl (fun (r : Round α) l =>
        if pathLimit ≤ r.size then r
        else { r with added := p.through l :: r.added, size := r.size + 1 })
        { r with found := found }
      { branched with kept := p.through first :: branched.kept }

/-- Follows ways back, round by round, until each has ended; the first argument bounds their
    lengths. -/
def followAll {α : Type} (joints : Array Joint) (visit : α → Joint → Path → α × Bool) :
    Nat → List Path → α → α
  | 0, _, found => found
  | _ + 1, [], found => found
  | fuel + 1, paths, found =>
    let r := paths.foldl (Round.follow joints visit) ⟨found, [], [], paths.length⟩
    followAll joints visit fuel (r.kept.reverse ++ r.added.reverse) r.found

/-- Follows the ways back from where a reading has come to. -/
def followBack {α : Type} (v : Nat) (visit : α → Joint → Path → α × Bool) (found : α) :
    Reading α := do
  let x ← versionAt v
  let joints := (← get).joints
  return followAll joints visit (joints.size + 1) [⟨x.joint, [], 0⟩] found

/-- Ways that were found, those that lead to the same joint side by side. -/
abbrev Ends := List (Nat × List (List Piece))

/-- Adds a way that leads to a joint. -/
def Ends.add (ends : Ends) (joint : Nat) (pieces : List Piece) : Ends :=
  if ends.any (·.1 == joint) then
    ends.map (fun e => if e.1 == joint then (e.1, e.2 ++ [pieces]) else e)
  else ends ++ [(joint, [pieces])]

/-- The ways back over a number of parts. -/
def pathsOver (v count : Nat) : Reading Ends :=
  followBack v (fun (ends : Ends) _ p =>
    if p.depth == count then (ends.add p.joint p.pieces, true) else (ends, false)) []

/-- The ways back to the start of the source. -/
def pathsToStart (v : Nat) : Reading Ends :=
  followBack v (fun (ends : Ends) j p =>
    (if j.links.isEmpty then ends.add p.joint p.pieces else ends, false)) []

/-- How far back waypoints are looked for. -/
def waypointLimit : Nat := 16

/-- Notes a waypoint before those found so far, unless one of the same depth and state is among
    the last ones. -/
def addWaypoint (found : List Waypoint) (joint : Joint) (p : Path) : List Waypoint × Bool :=
  if waypointLimit < p.depth then (found, true)
  else
    let recent := found.takeWhile (fun w => p.depth ≤ w.depth)
    let known := recent.any (fun w => w.depth == p.depth && w.state == joint.state)
    (if known then found else ⟨joint.place, p.depth, joint.state⟩ :: found, false)

/-- Notes the waypoints of a reading. -/
def noteWaypoints (v : Nat) : Reading Unit := do
  let found ← followBack v addWaypoint []
  modifyVersion v (fun x => { x with waypoints := some found.reverse })

end PackageAtlas.Syntax
