import PackageAtlas.Syntax.Compose

namespace PackageAtlas.Syntax

/-!
# Rival readings

Readings are compared by what their errors cost and by how much they have read since. A clearly
worse one is given up.

* `Standing`: what a reading is judged by; `standingOf`;
* `Preference`, `Standing.against`: the outcome of a comparison;
* `hasBetterRival`: whether a reading is not worth going on with at a cost;
* `removeLosers`: keeps the better ones of all readings, best first.
-/

/-- What a reading is judged by. -/
structure Standing where
  cost : Nat
  /-- The number of nodes read since the last error. -/
  progress : Nat
  weight : Int
  isLost : Bool
deriving Repr, DecidableEq

/-- Which of two readings is preferred; `take` means that the other one is given up. -/
inductive Preference where
  | takeLeft
  | preferLeft
  | neither
  | preferRight
  | takeRight
deriving Repr, DecidableEq

/-- The cost at which a reading without progress is given up for another. -/
def costTolerance : Nat := 18 * skippedPartCost

/-- Whether a difference in cost decides, given the progress of the better reading. -/
def isDecisive (difference progress : Nat) : Bool := costTolerance < difference * (1 + progress)

/-- Compares two readings: one that knows its way is preferred, then the one with the smaller cost,
    then the heavier one. -/
def Standing.against (a b : Standing) : Preference :=
  if !a.isLost && b.isLost then if a.cost < b.cost then .takeLeft else .preferLeft
  else if a.isLost && !b.isLost then if b.cost < a.cost then .takeRight else .preferRight
  else if a.cost < b.cost then
    if isDecisive (b.cost - a.cost) a.progress then .takeLeft else .preferLeft
  else if b.cost < a.cost then
    if isDecisive (a.cost - b.cost) b.progress then .takeRight else .preferRight
  else if b.weight < a.weight then .preferLeft
  else if a.weight < b.weight then .preferRight
  else .neither

/-- What the errors of a reading cost. One that has just lost its way will have to find it. -/
def costOf (v : Nat) : Reading Nat := do
  let x ← versionAt v
  let head ← jointAt x.joint
  let justLost := head.state == lostState &&
    ((head.links[0]?).map (fun l => l.piece.isNone)).getD false
  return if x.isPaused || justLost then head.cost + recoveryCost else head.cost

/-- The number of nodes that a reading has read since its last error. A reading that has gone back
    counts from there. -/
def progressOf (v : Nat) : Reading Nat := do
  let head ← headOf v
  modifyVersion v (fun x => { x with countAtError := min x.countAtError head.count })
  return head.count - (← versionAt v).countAtError

/-- What a reading is judged by. -/
def standingOf (v : Nat) : Reading Standing := do
  let x ← versionAt v
  let head ← jointAt x.joint
  let cost ← costOf v
  return ⟨if x.isPaused then cost + skippedPartCost else cost, ← progressOf v, head.weight,
    x.isPaused || head.state == lostState⟩

/-- Whether one of some readings is better than `v`, which has come to `place`, would be at a
    standing. -/
def hasBetterAmong (v place : Nat) (standing : Standing) : List Nat → Reading Bool
  | [] => return false
  | w :: ws => do
    if w == v || !(← versionAt w).isActive || (← headOf w).place < place then
      hasBetterAmong v place standing ws
    else
      match standing.against (← standingOf w) with
      | .takeRight => return true
      | .preferRight =>
        if ← canJoin w v then return true else hasBetterAmong v place standing ws
      | _ => hasBetterAmong v place standing ws

/-- Whether a reading that finds its way again at a cost would be worse than another one. -/
def hasBetterRival (v cost : Nat) : Reading Bool := do
  let beaten : Bool := match (← get).finished with
    | some p => p.cost ≤ cost
    | none => false
  if beaten then return true
  else
    let head ← headOf v
    let standing : Standing := ⟨cost, ← progressOf v, head.weight, false⟩
    hasBetterAmong v head.place standing (List.range (← versionCount))

/-! ### Giving up readings -/

/-- Exchanges two readings. -/
def swapVersions (v w : Nat) : Reading Unit :=
  modify (fun d => { d with versions := d.versions.swapIfInBounds v w })

/-- Compares the reading `i` with those before it, from `j` on. The result is the number of the
    reading to go on with. The first argument bounds the number of comparisons. -/
def challenge (standing : Standing) : Nat → Nat → Nat → Reading Nat
  | 0, i, _ => return i + 1
  | fuel + 1, i, j => do
    if i ≤ j then return i + 1
    else
      match (← standingOf j).against standing with
      | .takeLeft =>
        removeVersion i
        return i
      | .takeRight =>
        removeVersion j
        challenge standing fuel (i - 1) j
      | .preferRight =>
        if ← join j i then return i
        else
          swapVersions i j
          challenge standing fuel i (j + 1)
      | _ =>
        if ← join j i then return i else challenge standing fuel i (j + 1)

/-- Takes away the readings that have ended or are clearly worse than others, from number `i` on,
    and gives the least cost of a reading that knows its way, if there is one. The first argument
    bounds the number of readings. -/
def removeLosers : Nat → Nat → Option Nat → Reading (Option Nat)
  | 0, _, least => return least
  | fuel + 1, i, least => do
    if (← versionCount) ≤ i then return least
    else if (← versionAt i).isHalted then
      removeVersion i
      removeLosers fuel i least
    else
      let standing ← standingOf i
      let least := if standing.isLost then least
        else some (min standing.cost (least.getD standing.cost))
      let next ← challenge standing (2 * (i + 1)) i 0
      removeLosers fuel next least

end PackageAtlas.Syntax
