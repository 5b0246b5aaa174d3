import PackageAtlas.Syntax.Recovery

namespace PackageAtlas.Syntax

/-!
# Reading a source

* `advance`: one step of a reading: it takes its next token, after the reductions that it asks for;
* `condense`: gives up the readings that are not worth going on with;
* `rounds`: goes on with all readings until the best one is complete.
-/

/-- Makes the reductions among some moves, and gives the number of the first new reading of the
    last one that led to any, and whether there was one. The move behind the reductions is left. -/
def reduceMoves (v : Nat) : List Move → Option Nat → Bool →
    Reading (Option Nat × Bool × Option Move)
  | [], last, made => return (last, made, none)
  | .take (.reduce r) :: ms, last, _ => do reduceMoves v ms ((← reduce v r).or last) true
  | m :: _, last, made => return (last, made, some m)

/-- The same token as a name. -/
def asName (l : Lexicon) (p : Piece) : Piece :=
  .ofToken l.tables p.facts.lead
    ⟨l.lexemeId .name, p.facts.start, p.facts.stop, p.facts.isWord⟩

/-- The name that a word stands for in a state where it is no literal. -/
def nameInstead? (state : Nat) (p : Piece) : Reading (Option Piece) := do
  let l := (← read).lexicon
  let name := asName l p
  if p.facts.isWord && p.facts.kind != name.facts.kind && (← expectsPiece state name) then
    return some name
  else return none

/-- Stops a reading that cannot go on with a token. -/
def pause (v : Nat) (p : Piece) : Reading Unit := do
  let head ← headOf v
  modifyVersion v (fun x => { x with status := .paused p, countAtError := head.count })

/-- Lets a reading take a token, after the reductions that the token asks for. The first argument
    bounds their number. -/
def takeToken : Nat → Nat → Piece → Reading Unit
  | 0, v, _ => haltVersion v
  | fuel + 1, v, p => do
    let state := (← headOf v).state
    let (last, made, move) ← reduceMoves v (← movesAt state p) none false
    match move with
    | some (.take .shift) =>
      match p.facts.kind with
      | .token id =>
        let next ← nextState state (.token id)
        push v (some (p.asExtra false)) (next.getD lostState)
      | _ => pure ()
    | some (.take .stay) => push v (some (p.asExtra true)) state
    | some (.take _) => finish v p
    | some .recover => recover v p
    | none =>
      match last with
      | some w =>
        replaceVersion w v
        takeToken fuel v p
      | none =>
        if made then haltVersion v
        else
          match ← nameInstead? state p with
          | some name => takeToken fuel v name
          | none => if state == lostState then recover v p else pause v p

/-- Lets a reading take its next token. -/
def advance (v : Nat) : Reading Unit := do
  let p ← nextToken v
  takeToken ((← tables).constructs.size * ((← get).joints.size + 1)) v p

/-- Takes away the readings from number `i` on that cannot go on, or lets the first of them go on
    if there is no other; `least` is the least cost so far. The first argument bounds the number of
    readings. -/
def wakePaused : Nat → Nat → Bool → Option Nat → Reading (Option Nat)
  | 0, _, _, least => return least
  | fuel + 1, i, awake, least => do
    match (← versionAt i).status with
    | .paused p =>
      if !awake && (← get).accepted < versionLimit then
        let cost ← costOf i
        modifyVersion i (fun x => { x with status := .active })
        loseWay i p
        wakePaused fuel (i + 1) true (some cost)
      else
        removeVersion i
        wakePaused fuel i awake least
    | _ => wakePaused fuel (i + 1) true least

/-- Gives up the readings that are not worth going on with, and gives the least cost of those that
    are left. -/
def condense : Reading (Option Nat) := do
  let least ← removeLosers (← versionCount) 0 none
  modify (fun d => { d with versions := d.versions.extract 0 versionLimit })
  wakePaused (← versionCount) 0 false least

/-- Goes on with a reading until it is further than `place`, which the readings before it have come
    to, and gives the place that it has come to then. The first argument bounds the number of
    steps. -/
def advanceBeyond : Nat → Nat → Nat → Reading Nat
  | 0, _, place => return place
  | fuel + 1, v, place => do
    if (← versionAt v).isActive then
      advance v
      let reached := (← headOf v).place
      if place < reached || (0 < v && reached == place) then return reached
      else advanceBeyond fuel v place
    else return place

/-- Goes on with each reading from number `v` on. The first argument bounds their number. -/
def advanceAll : Nat → Nat → Nat → Reading Nat
  | 0, _, place => return place
  | fuel + 1, v, place => do
    if (← versionCount) ≤ v then return place
    else
      let steps := 2 * ((← read).source.size + versionLimit)
      advanceAll fuel (v + 1) (← advanceBeyond steps v place)

/-- The largest number of readings in a round, with those that come about in it. -/
def roundLimit : Nat := 64 * (versionLimit + versionSlack)

/-- Goes on with all readings until the best one is complete. The first argument bounds the number
    of rounds. -/
def rounds : Nat → Nat → Reading Unit
  | 0, _ => pure ()
  | fuel + 1, place => do
    if (← versionCount) == 0 then pure ()
    else
      let place ← advanceAll roundLimit 0 place
      let least ← condense
      let isBest : Bool := match (← get).finished, least with
        | some p, some cost => p.cost < cost
        | some _, none => true
        | none, _ => false
      if isBest then pure () else rounds fuel place

/-- The start of a source. -/
def Desk.start (t : Tables) : Desk :=
  { automaton := .start t
    joints := #[⟨startState, 0, #[], 0, 0, 0⟩]
    versions := #[⟨0, .active, 0, none⟩]
    finished := none
    accepted := 0
    lastFound := none }

/-- The piece that a whole source is. -/
def readSource (l : Lexicon) (s : Source) : Option Piece :=
  let (_, desk) := ((rounds (16 * (s.size + 16)) 0).run ⟨l, s⟩).run (Desk.start l.tables)
  desk.finished

end PackageAtlas.Syntax
