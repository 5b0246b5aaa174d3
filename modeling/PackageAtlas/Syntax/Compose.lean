import PackageAtlas.Syntax.Lookahead

namespace PackageAtlas.Syntax

/-!
# Putting pieces together

* `reduce`: the last parts of a reading become a construct; where its stack has several ways back
  there may be several readings afterwards;
* `finish`: a reading that has come to the end of the source.
-/

/-- Readings that are kept at a time. -/
def versionLimit : Nat := 6

/-- Readings that may come about in one step beyond those that are kept. -/
def versionSlack : Nat := 4

/-- A reading that goes on from a joint on the way of `v`. -/
def fork (v joint : Nat) : Reading Nat := do
  let x ← versionAt v
  addVersion ⟨joint, .active, x.countAtError, none⟩

/-- The parts without the extras at their end, and these. -/
def splitExtras (ps : List Piece) : List Piece × List Piece :=
  let trailing := ps.reverse.takeWhile (·.facts.extra)
  (ps.take (ps.length - trailing.length), trailing.reverse)

/-- The piece that some parts make up. -/
def composePiece (kind : PieceKind) (labels : List Label) (place : Nat) (ps : List Piece) :
    Reading Piece := do
  let task ← read
  return .compose task.lexicon.tables task.source kind labels place ps

/-- Puts pieces on the stack of a reading without a change of its state. -/
def pushAll (v state : Nat) (ps : List Piece) : Reading Unit :=
  ps.forM (fun p => push v (some p) state)

/-- The best of the constructs that the ways back to a joint make up, with the extras behind it. -/
def bestOf (r : Reduction) (place : Nat) :
    List (List Piece) → Option (Piece × List Piece) → Reading (Option (Piece × List Piece))
  | [], best => return best
  | ps :: rest, best => do
    let (parts, extras) := splitExtras ps
    let p ← composePiece (.construct r.construct) r.labels place parts
    match best with
    | some (q, _) => bestOf r place rest (if q.better p then some (p, extras) else best)
    | none => bestOf r place rest (some (p, extras))

/-- Lets a reading join the first one before it that it can, `v` apart. -/
def joinEarlier (v w : Nat) : List Nat → Reading Unit
  | [] => pure ()
  | j :: js => do
    if j == v then joinEarlier v w js
    else if ← join j w then pure ()
    else joinEarlier v w js

/-- Puts the last parts of a reading together. The reading stays, and those that come about are
    added behind the others; the result is the number of the first of them. -/
def reduce (v : Nat) (r : Reduction) : Reading (Option Nat) := do
  let first ← versionCount
  let ends ← pathsOver v r.count
  let halted := ((← get).versions.filter Version.isHalted).size
  ends.forM (fun (joint, ways) => do
    if (← versionCount) ≤ versionLimit + versionSlack + halted then
      let w ← fork v joint
      let head ← jointAt joint
      match ← bestOf r head.place ways none with
      | some (p, extras) =>
        let next ← nextState head.state (.construct r.construct)
        let state := next.getD lostState
        push w (some (p.addWeight r.weight)) state
        pushAll w state extras
        joinEarlier v w (List.range w)
      | none => pure ())
  return if first < (← versionCount) then some first else none

/-- The whole source from the pieces of a reading: the parts of the last construct, with what
    stands before and behind it. -/
def wholeOf (ps : List Piece) : Reading (Option Piece) := do
  let behind := ps.reverse.takeWhile (·.facts.extra)
  match ps.reverse.dropWhile (·.facts.extra) with
  | [] => return none
  | p :: before =>
    return some (← composePiece p.facts.kind [] 0 (before.reverse ++ p.parts ++ behind.reverse))

/-- Keeps a complete reading if it is the best so far. -/
def offer (ps : List Piece) : Reading Unit := do
  let whole ← wholeOf ps
  modify (fun d => { d with
    accepted := d.accepted + 1
    finished := match d.finished, whole with
      | some p, some q => if p.better q then whole else d.finished
      | some _, none => d.finished
      | none, _ => whole })

/-- Ends a reading at the end of the source. -/
def finish (v : Nat) (token : Piece) : Reading Unit := do
  push v (some token) startState
  let ends ← pathsToStart v
  (ends.flatMap (·.2)).forM offer
  haltVersion v

end PackageAtlas.Syntax
