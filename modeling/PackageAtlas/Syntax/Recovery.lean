import PackageAtlas.Syntax.Rivals

namespace PackageAtlas.Syntax

/-!
# Going on after an error

A reading that cannot go on with its next token has several ways out: a token may be missing, what
it has read since an earlier place may be passed over, or the token itself may be.

* `reduceAll`: everything that the parts read so far may be put together to;
* `supplyToken`: a token that is missing;
* `returnTo`: passes over what was read since an earlier joint;
* `passOver`: passes over the next token;
* `recover`: tries these for a reading that has lost its way;
* `loseWay`: what a reading does at a token that it cannot go on with.
-/

/-! ### Possible reductions -/

/-- Which reductions a state allows, and whether it takes a token. -/
structure Outlook where
  takes : Bool
  reductions : List Reduction

/-- Adds what a state does at a token. Two reductions of as many parts to the same construct count
    as one. -/
def Outlook.add (o : Outlook) : Action → Outlook
  | .shift => { o with takes := true }
  | .reduce r =>
    if r.count == 0 || o.reductions.any (fun q => q.construct == r.construct && q.count == r.count)
    then o
    else { o with reductions := o.reductions ++ [r] }
  | _ => o

/-- What a state allows at a token, or at any token but the end of the source. -/
def outlookOf (s : State) (token : Option Nat) : Outlook :=
  let actions := match token with
    | some id => s.actionsAt id
    | none => s.actions.toList.tail.flatten
  actions.foldl Outlook.add ⟨false, []⟩

/-- Lets a reading join one of some others, and tells whether it has. -/
def joinAny (w : Nat) : List Nat → Reading Bool
  | [] => return false
  | j :: js => do
    if ← join j w then return true else joinAny w js

/-- Makes all reductions that are possible at a token, or at any token, and gives the first new
    reading. -/
def reduceBy (v : Nat) (rs : List Reduction) (last : Option Nat) : Reading (Option Nat) :=
  match rs with
  | [] => return last
  | r :: rs => do reduceBy v rs (← reduce v r)

/-- Puts together whatever may be put together before a token, or before any token, starting with
    the reading `v`. The result tells whether a reading takes the token; readings that do not are
    taken away. -/
def reduceAll (v : Nat) (token : Option Nat) : Reading Bool := do
  let first ← versionCount
  let joints := (← get).joints.size
  go first ((← tables).constructs.size * (joints + versionLimit)) 0 v false
where
  /-- Goes on with the reading `w` in the round `i`. -/
  go (first : Nat) : Nat → Nat → Nat → Bool → Reading Bool
    | 0, _, _, taken => return taken
    | fuel + 1, i, w, taken => do
      let count ← versionCount
      if count ≤ w then return taken
      else if ← joinAny w ((List.range w).drop first) then go first fuel (i + 1) w taken
      else
        let state := (← headOf w).state
        let known ← stateAt state
        let outlook := if state == lostState then ⟨true, []⟩ else outlookOf known token
        let made ← reduceBy w outlook.reductions none
        let next := if w == v then count else w + 1
        if outlook.takes then go first fuel (i + 1) next true
        else
          match made with
          | some m =>
            if i < versionLimit then
              replaceVersion m w
              go first fuel (i + 1) w taken
            else
              drop w
              go first fuel (i + 1) next taken
          | none =>
            drop w
            go first fuel (i + 1) next taken
  /-- Takes a reading away that does not take the token. -/
  drop (w : Nat) : Reading Unit := if token.isSome then removeVersion w else pure ()

/-! ### Missing tokens -/

/-- Whether the items behind a token may end before another token, as they must if the first one is
    to be supplied. -/
def mayEndBefore (t : Tables) (kernel : Kernel) (token : Nat) : Bool :=
  kernel.any (fun k => (t.items.getD k.1 default).next.isNone && k.2.has token)

/-- Whether a state starts with a reduction at a token. -/
def reducesFirst (s : State) (token : Nat) : Bool :=
  match s.actionsAt token with
  | .reduce _ :: _ => true
  | _ => false

/-- Supplies one of some tokens in a copy of a reading, if it can then go on with `token`; at the
    end of the source, if it can then go on at all. -/
def supplyAmong (v token : Nat) : List Nat → Reading Bool
  | [] => return false
  | m :: ms => do
    let t ← tables
    let head ← headOf v
    let state ← stateAt head.state
    if (state.actionsAt m).getLast? == some .shift &&
        mayEndBefore t (state.successors.tokens.getD m #[]) token then
      match ← nextState head.state (.token m) with
      | some next =>
        if next != head.state && reducesFirst (← stateAt next) token then
          let x ← versionAt v
          let w ← addVersion ⟨x.joint, .active, x.countAtError, none⟩
          push w (some (.missing t m head.place)) next
          let before := if token == t.idOf .finish then none else some token
          if ← reduceAll w before then return true else supplyAmong v token ms
        else supplyAmong v token ms
      | none => supplyAmong v token ms
    else supplyAmong v token ms

/-- Supplies a token in a copy of a reading, if it can then go on with the next token. -/
def supplyToken (v : Nat) (p : Piece) : Reading Bool := do
  match p.facts.kind with
  | .token id =>
    if (← headOf v).state == lostState then return false
    else supplyAmong v id ((List.range (← tables).tokenCount).tail)
  | _ => return false

/-! ### Back to an earlier joint -/

/-- Takes a passed over piece off the stack of a reading, and gives its parts. -/
def takeError (v : Nat) : Reading (List Piece) := do
  let head ← headOf v
  match head.links.find? (fun l => (l.piece.map Piece.isError).getD false) with
  | some l =>
    modifyVersion v (fun x => { x with joint := l.target })
    return (l.piece.map Piece.parts).getD []
  | none => return []

/-- Passes over the pieces since a joint where a reading was in the state `goal`. -/
def returnTo (v depth goal : Nat) : Reading Bool := do
  let ends ← pathsOver v depth
  let results ← ends.mapM (fun (joint, ways) => do
    let w ← fork v joint
    if (← jointAt joint).state != goal then
      haltVersion w
      return false
    else
      let earlier ← takeError w
      let (parts, extras) := splitExtras (earlier ++ ways.headD [])
      if !parts.isEmpty then
        let e ← composePiece .error [] 0 parts
        push w (some (e.asExtra true)) goal
      pushAll w goal extras
      return true)
  return results.any id

/-- Whether one of the first `count` readings is in a state at a place. -/
def isTaken (count state place : Nat) : Reading Bool := do
  let d ← get
  return (d.versions.extract 0 count).any (fun x =>
    let j := d.joints.getD x.joint default
    j.state == state && j.place == place)

/-- Returns to the first waypoint from which the next token can be read, unless one of the first
    `count` readings is there already. -/
def returnAmong (v count cost progress : Nat) (p : Piece) : List Waypoint → Reading Bool
  | [] => return false
  | w :: ws => do
    let place := (← headOf v).place
    let depth := if 0 < progress then w.depth + 1 else w.depth
    if w.state == lostState || w.place == place then returnAmong v count cost progress p ws
    else if ← isTaken count w.state place then returnAmong v count cost progress p ws
    else if ← hasBetterRival v (cost + spanCost (← read).source w.place place) then return false
    else if ← expectsPiece w.state p then
      if ← returnTo v depth w.state then return true else returnAmong v count cost progress p ws
    else returnAmong v count cost progress p ws

/-- Takes away the readings from number `i` on that are not active. -/
def removeInactive (i : Nat) : Reading Unit :=
  modify (fun d => { d with
    versions := d.versions.extract 0 i ++
      (d.versions.extract i d.versions.size).filter (·.isActive) })

/-! ### Passing over a token -/

/-- Passes over the next token of a reading that has lost its way, together with what it has passed
    over before. -/
def passOver (v progress : Nat) (p : Piece) : Reading Unit := do
  let place := (← headOf v).place
  let e ← composePiece .skipped [] place [p]
  if 0 < progress then
    match (← pathsOver v 1).head? with
    | some (joint, ways) =>
      modifyVersion v (fun x => { x with joint := joint })
      let all ← composePiece .skipped [] place (ways.headD [] ++ [e])
      push v (some all) lostState
    | none => push v (some e) lostState
  else push v (some e) lostState

/-- Goes on with a reading that has lost its way. -/
def recover (v : Nat) (p : Piece) : Reading Unit := do
  let before ← versionCount
  let x ← versionAt v
  let place := (← headOf v).place
  let progress ← progressOf v
  let cost ← costOf v
  let found ← match x.waypoints with
    | some ws => if p.isError then pure false else returnAmong v before cost progress p ws
    | none => pure false
  removeInactive before
  let t ← tables
  if p.facts.kind == .token (t.idOf .finish) then
    let e ← composePiece .error [] place []
    push v (some e) startState
    finish v p
  else if found && versionLimit < (← versionCount) then haltVersion v
  else
    let skip := skippedPartCost + spanCost (← read).source p.facts.lead p.facts.stop
    if ← hasBetterRival v (cost + skip) then haltVersion v
    else
      let isExtra := match p.facts.kind with
        | .token id => t.extras.contains id
        | _ => false
      passOver v progress (if isExtra then p.asExtra true else p)

/-! ### Losing the way -/

/-- Puts a reading into the state of those that have lost their way; the flag tells whether a token
    has been supplied to one before. -/
def strand (v : Nat) (p : Piece) (supplied : Bool) : Reading Bool := do
  let supplied ← if supplied then pure true else supplyToken v p
  push v none lostState
  return supplied

/-- Lets a reading go on that cannot do so with its next token. -/
def loseWay (v : Nat) (p : Piece) : Reading Unit := do
  let before ← versionCount
  let _ ← reduceAll v none
  let count ← versionCount
  let others := (List.range count).drop before
  let _ ← (v :: others).foldlM (fun supplied w => strand w p supplied) false
  others.forM (fun _ => do
    let _ ← join v before)
  noteWaypoints v
  recover v p

end PackageAtlas.Syntax
