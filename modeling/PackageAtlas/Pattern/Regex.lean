import PackageAtlas.Pattern.Match

namespace PackageAtlas.Pattern

/-!
# Searching

* `Regex`: a pattern that is ready to be matched, with `Regex.compile`;
* `Regex.search?`: where the first match in a text starts and stops;
* `Regex.find?`: the text of that match;
* `SpanError`: a match with a group that starts behind its end, with its wording.
-/

/-- A pattern that is ready to be matched. -/
structure Regex where
  plan : Plan
  /-- How many characters a match has at least. -/
  least : Nat
  /-- Whether it is known with which characters a match starts. -/
  opensKnown : Bool

/-- The flag of a letter that may be given with a pattern; some letters change nothing. -/
def letterFlags? : Char → Option Flags
  | 'i' => some { ignoreCase := true }
  | 'm' => some { multiline := true }
  | 's' => some { dotAll := true }
  | 'u' => some {}
  | 'g' => some {}
  | 'y' => some {}
  | _ => none

/-- The flags of a list of letters. -/
def flagsOfLetters? (letters : List Char) : Option Flags :=
  letters.foldl (fun acc c =>
    match acc, letterFlags? c with
    | some f, some g => some (f.union g)
    | _, _ => none) (some {})

/-- Makes a pattern ready to be matched. -/
def Regex.compile (pattern letters : String) : Except Error Regex := do
  match flagsOfLetters? letters.toList with
  | none => throw (.badFlags letters)
  | some flags =>
    let source ← readPattern pattern flags
    source.expr.check source.flags
    if source.expr.looksTooFar then throw .overlongLook
    return ⟨source.expr.plan source.flags .success, source.expr.width.lo,
      source.expr.opensKnown source.flags⟩

/-! ### Matches -/

/-- A match with a group that starts behind its end. -/
structure SpanError where
deriving Repr, DecidableEq

/-- The wording for such a match. -/
def SpanError.message (_ : SpanError) : String :=
  "The span of capturing group is wrong, please report a bug for the re module."

/-- Whether a group starts behind its end in some marks, which are pairs of starts and ends. -/
def hasWrongSpan : List (Option Nat) → Bool
  | some start :: some stop :: rest => decide (stop < start) || hasWrongSpan rest
  | _ :: _ :: rest => hasWrongSpan rest
  | _ => false

/-- What a match that starts at a place notes. -/
def Regex.matchAt? (r : Regex) (subject : Subject) (i : Nat) : Option Notes :=
  match r.plan.run subject false (fun _ s => (false, s)) i ⟨i, #[]⟩ with
  | (true, s) => some s
  | (false, _) => none

/-- The first match that starts at `i` or one of the next `left` places. -/
def Regex.searchFrom (r : Regex) (subject : Subject) (i : Nat) : Nat → Option (Nat × Notes)
  | 0 => (r.matchAt? subject i).map (fun s => (i, s))
  | left + 1 =>
    match r.matchAt? subject i with
    | some s => some (i, s)
    | none => r.searchFrom subject (i + 1) left

/-- The last place at which a match may start, if there is one. A match whose first characters are
    known does not start at the end. -/
def Regex.lastStart? (r : Regex) (size : Nat) : Option Nat :=
  if size < r.least then none
  else if r.least = 0 then some size
  else if r.opensKnown then some (size - 1)
  else some (size + 1 - r.least)

/-- Where the first match in a text starts and stops. -/
def Regex.search? (r : Regex) (subject : Subject) : Except SpanError (Option (Nat × Nat)) :=
  match (r.lastStart? subject.size).bind (r.searchFrom subject 0) with
  | some (start, s) =>
    if hasWrongSpan s.marks.toList then .error ⟨⟩ else .ok (some (start, s.reached))
  | none => .ok none

/-- The text of the first match in a text. -/
def Regex.find? (r : Regex) (text : String) : Except SpanError (Option String) :=
  let subject := text.toList.toArray
  (r.search? subject).map (fun found => found.map (fun (start, stop) =>
    String.ofList (subject.extract start stop).toList))

end PackageAtlas.Pattern
