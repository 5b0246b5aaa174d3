import PackageAtlas.Pattern.Plan

namespace PackageAtlas.Pattern

/-!
# Matching

A plan is run on a text from a place on. A run takes notes: where groups start and stop, and the
place that was reached last. A run that fails leaves its notes behind, and not all of them are
taken back: outside of loops, a note that a failed attempt replaced stays replaced, and the rounds
of a part that settles go on from the place that was noted last.

* `Notes`: what a run notes; `Run`: what is left to do at the end of a round;
* `Plan.run`: runs a plan;
* `greedyRounds`, `fewestRounds`, `settledRounds`: the rounds of loops.

A round of a loop that matches nothing is the last one. The number of rounds is bounded by `fuel`:
each round but the first ones moves on.
-/

/-- What a run notes. -/
structure Notes where
  /-- The place that was reached last. -/
  reached : Nat
  /-- Where groups started and stopped last, up to the last note that counts. -/
  marks : Array (Option Nat)

/-- A text to match. -/
abbrev Subject := Array Char

/-- What is done from a place on, with whether it succeeds. -/
abbrev Run := Nat → Notes → Bool × Notes

/-! ### Places -/

/-- Whether a character is part of a word. -/
def isWordChar (ascii : Bool) (c : Char) : Bool := Category.word.holds c ascii

/-- Whether the character at `i` is part of a word. -/
def wordAt (subject : Subject) (ascii : Bool) (i : Nat) : Bool :=
  (subject[i]?).any (isWordChar ascii)

/-- Whether a word starts or ends at `i`. -/
def isBoundary (subject : Subject) (ascii : Bool) (i : Nat) : Bool :=
  (0 < i && wordAt subject ascii (i - 1)) != wordAt subject ascii i

/-- Whether a place is at `i`. An empty text has no boundaries, and no places without one. -/
def Place.holds (subject : Subject) (i : Nat) : Place → Bool
  | .textStart => i == 0
  | .lineStart => i == 0 || subject[i - 1]? == some '\n'
  | .textStop => i == subject.size
  | .finalStop => i == subject.size || (i + 1 == subject.size && subject[i]? == some '\n')
  | .lineStop => i == subject.size || subject[i]? == some '\n'
  | .boundary ascii => !subject.isEmpty && isBoundary subject ascii i
  | .noBoundary ascii => !subject.isEmpty && !isBoundary subject ascii i

/-! ### Notes -/

namespace Notes

/-- The notes with a place reached. -/
def reach (s : Notes) (i : Nat) : Notes := { s with reached := i }

/-- The notes with a mark at a place; marks before it that were never set are empty. -/
def mark (s : Notes) (index i : Nat) : Notes :=
  if index < s.marks.size then { s with marks := s.marks.setIfInBounds index (some i) }
  else
    { s with marks := (s.marks ++ Array.replicate (index - s.marks.size) none).push (some i) }

/-- The notes after a failed attempt, before which the marks were `before`. Inside of a loop the
    marks are what they were; outside of it only the marks that are new do not count any more. -/
def takeBack (s : Notes) (inLoop : Bool) (before : Array (Option Nat)) : Notes :=
  if inLoop then { s with marks := before } else { s with marks := s.marks.take before.size }

/-- What a group has matched last. -/
def group? (s : Notes) (index : Nat) : Option (Nat × Nat) :=
  match (s.marks[2 * index - 2]?).join, (s.marks[2 * index - 1]?).join with
  | some start, some stop => if start ≤ stop then some (start, stop) else none
  | _, _ => none

end Notes

/-- Whether the `count` characters at `i` and at `j` are the same. -/
def sameText (subject : Subject) (f : Folding) (i j : Nat) : Nat → Bool
  | 0 => true
  | count + 1 =>
    match subject[i]?, subject[j]? with
    | some a, some b => f.apply a == f.apply b && sameText subject f (i + 1) (j + 1) count
    | _, _ => false

/-! ### Tests of one character -/

/-- Whether a test accepts the character at `i`. -/
def Single.acceptsAt (test : Single) (subject : Subject) (i : Nat) : Bool :=
  (subject[i]?).any test.accepts

/-- How many characters in a row a test accepts from a place on, `room` at most. -/
def spanLength (subject : Subject) (test : Single) (i : Nat) : Nat → Nat → Nat
  | 0, done => done
  | room + 1, done =>
    if test.acceptsAt subject (i + done) then spanLength subject test i room (done + 1) else done

/-- Whether a plan starts with a test that refuses the character at `i`, and is of a form that is
    looked at before the plan is run. -/
def Plan.refuses (subject : Subject) (i : Nat) : Plan → Bool
  | .one test _ =>
    match test.form with
    | .exact _ => !test.acceptsAt subject i
    | .listed => !test.acceptsAt subject i
    | _ => false
  | _ => false

/-- Whether a plan is at its end. -/
def Plan.isSuccess : Plan → Bool
  | .success => true
  | _ => false

/-- Whether a plan starts with a character other than the one at `i`. -/
def Plan.startsElsewhere (subject : Subject) (i : Nat) : Plan → Bool
  | .one test _ =>
    match test.form with
    | .exact _ => !test.acceptsAt subject i
    | _ => false
  | _ => false

/-- The place that is noted after `count` characters were counted from `i` on. -/
def Single.noted (test : Single) (i count : Nat) : Nat :=
  match test.form with
  | .stepped => i + count
  | _ => i

/-! ### Repetition of one character -/

/-- Runs what follows after `lo + extra` characters, then after ever fewer, down to `lo`; places
    that `skips` tells are passed over. -/
def spanDown (inLoop : Bool) (skips : Nat → Bool) (k : Run) (i lo : Nat) :
    Nat → Notes → Bool × Notes
  | 0, s =>
    if skips (i + lo) then (false, s)
    else
      match k (i + lo) (s.reach (i + lo)) with
      | (true, s') => (true, s')
      | (false, s') => (false, s'.takeBack inLoop s.marks)
  | extra + 1, s =>
    let j := i + lo + extra + 1
    if skips j then spanDown inLoop skips k i lo extra s
    else
      match k j (s.reach j) with
      | (true, s') => (true, s')
      | (false, s') => spanDown inLoop skips k i lo extra (s'.takeBack inLoop s.marks)

/-- Runs what follows after `count` characters, then after ever more, `room` more at most. -/
def spanUp (inLoop : Bool) (subject : Subject) (test : Single) (k : Run) :
    Nat → Nat → Notes → Bool × Notes
  | room, j, s =>
    match k j (s.reach j) with
    | (true, s') => (true, s')
    | (false, s') =>
      let s' := (s'.takeBack inLoop s.marks).reach j
      if test.acceptsAt subject j then
        let s' := s'.reach (test.noted j 1)
        match room with
        | 0 => (false, s')
        | room + 1 => spanUp inLoop subject test k room (j + 1) s'
      else (false, s')

/-- Runs a repeated test of one character, and then the plan `next` as `k` does. -/
def runSpan (inLoop : Bool) (subject : Subject) (greed : Greed) (lo : Nat) (hi : Option Nat)
    (test : Single) (next : Plan) (k : Run) (i : Nat) (s : Notes) : Bool × Notes :=
  let left := subject.size - i
  let most := min left (hi.getD left)
  if left < lo then (false, s)
  else match greed with
    | .greedy =>
      let n := spanLength subject test i most 0
      let s := s.reach (test.noted i n)
      if n < lo then (false, s)
      else if next.isSuccess && i + n == subject.size then (true, s.reach (i + n))
      else spanDown inLoop (fun j => next.startsElsewhere subject j) k i lo (n - lo) s
    | .lazy =>
      let n := spanLength subject test i (min left lo) 0
      let s := s.reach (if lo = 0 then i else test.noted i n)
      if n < lo then (false, s)
      else if next.isSuccess then (true, s.reach (i + n))
      else spanUp inLoop subject test k (most - lo) (i + lo) s
    | .possessive =>
      let n := spanLength subject test i most 0
      let s := s.reach (test.noted i n)
      if n < lo then (false, s)
      else if next.isSuccess && i + n == subject.size then (true, s.reach (i + n))
      else k (i + n) s

/-! ### Rounds -/

/-- Whether there may be a round after `count` rounds. -/
def mayRepeat (hi : Option Nat) (count : Nat) : Bool :=
  match hi with
  | some n => decide (count < n)
  | none => true

/-- As many rounds as possible, and then what follows; `count` rounds are done, the last of which
    started at `last`. -/
def greedyRounds (body : Run → Run) (lo : Nat) (hi : Option Nat) (k : Run) :
    Nat → Nat → Option Nat → Run
  | 0, _, _, _, s => (false, s)
  | fuel + 1, count, last, i, s =>
    let s := s.reach i
    let stop := fun (s : Notes) =>
      match k i s with
      | (true, s') => (true, s')
      | (false, s') => (false, s'.reach i)
    if count < lo then
      match body (greedyRounds body lo hi k fuel (count + 1) last) i s with
      | (true, s') => (true, s')
      | (false, s') => (false, s'.reach i)
    else if mayRepeat hi count && last != some i then
      match body (greedyRounds body lo hi k fuel (count + 1) (some i)) i s with
      | (true, s') => (true, s')
      | (false, s') => stop ((s'.takeBack true s.marks).reach i)
    else stop s

/-- As few rounds as possible, and then what follows. -/
def fewestRounds (inLoop : Bool) (body : Run → Run) (lo : Nat) (hi : Option Nat) (k : Run) :
    Nat → Nat → Option Nat → Run
  | 0, _, _, _, s => (false, s)
  | fuel + 1, count, last, i, s =>
    let s := s.reach i
    let round := fun (last : Option Nat) (s : Notes) =>
      match body (fewestRounds inLoop body lo hi k fuel (count + 1) last) i s with
      | (true, s') => (true, s')
      | (false, s') => (false, s'.reach i)
    if count < lo then round last s
    else
      match k i s with
      | (true, s') => (true, s')
      | (false, s') =>
        let s' := (s'.takeBack inLoop s.marks).reach i
        if mayRepeat hi count && last != some i then round (some i) s' else (false, s')

/-- Rounds of which each is done in the first way in which it matches. A round that is needed and
    fails makes all fail; any other round that fails ends the rounds, at the place that it noted
    last. -/
def settledRounds (body : Run) (lo : Nat) (hi : Option Nat) (start : Nat) :
    Nat → Nat → Option Nat → Notes → Bool × Notes
  | 0, _, _, s => (true, s)
  | fuel + 1, count, last, s =>
    if count < lo then
      match body s.reached s with
      | (true, s') => settledRounds body lo hi start fuel (count + 1) last s'
      | (false, s') => (false, s'.reach start)
    else if mayRepeat hi count && last != some s.reached then
      match body s.reached s with
      | (true, s') => settledRounds body lo hi start fuel (count + 1) (some s.reached) s'
      | (false, s') => (true, s'.takeBack true s.marks)
    else (true, s)

/-- How many rounds a loop may have. -/
def roundLimit (subject : Subject) (lo : Nat) : Nat := lo + 2 * subject.size + 4

/-! ### Plans -/

/-- Runs a plan, and `k` at the end of a round. -/
def Plan.run (subject : Subject) (inLoop : Bool) : Plan → Run → Run
  | .success, _, i, s => (true, s.reach i)
  | .again, k, i, s => k i s
  | .join next, k, i, s => next.run subject inLoop k i s
  | .one test next, k, i, s =>
    if test.acceptsAt subject i then next.run subject inLoop k (i + 1) s else (false, s)
  | .place p next, k, i, s =>
    if p.holds subject i then next.run subject inLoop k i s else (false, s)
  | .mark index next, k, i, s => next.run subject inLoop k i (s.mark index i)
  | .choice first rest, k, i, s =>
    if first.refuses subject i then rest.run subject inLoop k i s
    else
      match first.run subject inLoop k i (s.reach i) with
      | (true, s') => (true, s')
      | (false, s') => rest.run subject inLoop k i (s'.takeBack inLoop s.marks)
  | .exhausted, _, _, s => (false, s)
  | .span greed lo hi test next, k, i, s =>
    runSpan inLoop subject greed lo hi test next (next.run subject inLoop k) i s
  | .loop fewest lo hi body next, k, i, s =>
    let rest := next.run subject inLoop k
    if fewest then
      fewestRounds inLoop (body.run subject true) lo hi rest (roundLimit subject lo) 0 none i s
    else greedyRounds (body.run subject true) lo hi rest (roundLimit subject lo) 0 none i s
  | .settle lo hi body next, k, i, s =>
    match settledRounds (body.run subject inLoop k) lo hi i (roundLimit subject lo) 0 none
        (s.reach i) with
    | (true, s') => next.run subject inLoop k s'.reached s'
    | (false, s') => (false, s')
  | .atomic body next, k, i, s =>
    match body.run subject inLoop k i (s.reach i) with
    | (true, s') => next.run subject inLoop k s'.reached s'
    | (false, s') => (false, s'.reach i)
  | .look back negated body next, k, i, s =>
    if negated then
      if i < back then next.run subject inLoop k i s
      else
        match body.run subject inLoop k (i - back) (s.reach (i - back)) with
        | (true, s') => (false, s')
        | (false, s') => next.run subject inLoop k i (s'.takeBack inLoop s.marks)
    else if i < back then (false, s)
    else
      match body.run subject inLoop k (i - back) (s.reach (i - back)) with
      | (true, s') => next.run subject inLoop k i s'
      | (false, s') => (false, s')
  | .backref index folding next, k, i, s =>
    match s.group? index with
    | some (start, stop) =>
      if sameText subject folding start i (stop - start) then
        next.run subject inLoop k (i + (stop - start)) s
      else (false, s)
    | none => (false, s)
  | .conditional index yes no, k, i, s =>
    match s.group? index with
    | some _ => yes.run subject inLoop k i s
    | none => no.run subject inLoop k i s

end PackageAtlas.Pattern
