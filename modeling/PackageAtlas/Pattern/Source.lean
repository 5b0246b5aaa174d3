import PackageAtlas.Pattern.Atom

namespace PackageAtlas.Pattern

open Reader

/-!
# Sources of patterns

Groups, flags and alternatives, and the whole pattern made of them.

* `inlineFlags`: flags that are turned on and off inside a pattern;
* `groupItem`: what a parenthesis starts;
* `readPattern`: the expression of a pattern, with its flags.
-/

/-! ### Flags -/

/-- The flag of a letter. -/
def flagOf? : Char → Option Flags
  | 'i' => some { ignoreCase := true }
  | 'm' => some { multiline := true }
  | 's' => some { dotAll := true }
  | 'x' => some { verbose := true }
  | 'a' => some { ascii := true }
  | 'u' => some { unicode := true }
  | 't' => some { template := true }
  | _ => none

/-- Whether a letter names a flag, available or not. -/
def isFlag (c : Char) : Bool := c == 'L' || (flagOf? c).isSome

/-- What stands in place of a flag: an unknown one, or something else. -/
def noFlag {α : Type} (p : Piece) (expected : String) : Reader α := do
  match p with
  | .plain c =>
    if Text.isLetter c then fault .unknownFlag 1 else fault (.missing expected) 1
  | _ => fault (.missing expected) p.length

/-- Flags to turn on, from the letter `c` on, and the character behind them. -/
def flagsOn : Nat → Char → Flags → Reader (Flags × Char)
  | 0, c, on => return (on, c)
  | fuel + 1, c, on => do
    match flagOf? c with
    | none => fault .localeFlag 0
    | some f =>
      let on := on.union f
      if (f.ascii || f.unicode) && on.ascii && on.unicode then fault .incompatibleFlags 0
      else match ← advance with
        | none => fault (.missing "-, : or )") 0
        | some (.plain c) =>
          if c == ')' || c == '-' || c == ':' then return (on, c)
          else if isFlag c then flagsOn fuel c on
          else noFlag (.plain c) "-, : or )"
        | some p => noFlag p "-, : or )"

/-- Flags to turn off, from the letter `c` on, up to a colon. -/
def flagsOff : Nat → Char → Flags → Reader Flags
  | 0, _, off => return off
  | fuel + 1, c, off => do
    match flagOf? c with
    | none => fault .scriptOff 0
    | some f =>
      if f.ascii || f.unicode then fault .scriptOff 0
      else
        let off := off.union f
        match ← advance with
        | none => fault (.missing ":") 0
        | some (.plain c) =>
          if c == ':' then return off
          else if isFlag c then flagsOff fuel c off
          else noFlag (.plain c) ":"
        | some p => noFlag p ":"

/-- Flags from the letter or dash `c` on; none if they hold for the whole pattern, to which they
    are then added. -/
def inlineFlags (c : Char) : Reader (Option (Flags × Flags)) := do
  let fuel := (← get).rest.length + 1
  let (on, c) ← if c == '-' then pure ({}, c) else flagsOn fuel c {}
  if c == ')' then
    modify (fun r => { r with flags := r.flags.union on })
    return none
  else if on.template then fault .globalOn 1
  else
    let off ← do
      if c == '-' then
        match ← advance with
        | none => fault (.missing "flag") 0
        | some (.plain c) =>
          if isFlag c then flagsOff fuel c {} else noFlag (.plain c) "flag"
        | some p => noFlag p "flag"
      else pure {}
    if off.template then fault .globalOff 1
    else if !(on.inter off).isEmpty then fault .onAndOff 1
    else return some (on, off)

/-! ### Groups -/

/-- How the inside of a group is read; the flag tells whether white space is a comment. -/
structure Inner where
  /-- Alternatives. -/
  alternatives : Bool → Reader Expr
  /-- One alternative. -/
  sequence : Bool → Reader Expr

/-- Reads the closing parenthesis of a group that started at `start`. -/
def closeGroup (start : Nat) : Reader Unit := do
  if ← skip ')' then return () else throw (.at .unterminatedGroup start)

/-- The inside of a group that takes note of what it matches. -/
def captureGroup (inner : Inner) (verbose : Bool) (start : Nat) (id : Option String) :
    Reader Expr := do
  let index := (← groupCount) + 1
  match id with
  | none => pure ()
  | some n =>
    match (← get).names.lookup n with
    | some before => fault (.redefinedGroup n index before) (n.length + 1)
    | none => modify (fun r => { r with names := (n, index) :: r.names })
  modify (fun r => { r with groups := r.groups.push none })
  let body ← inner.alternatives verbose
  closeGroup start
  modify (fun r => { r with groups := r.groups.setIfInBounds (index - 1) (some body.width) })
  return .capture index body

/-- A reference to a group by its name, behind the equals sign. -/
def namedReference : Reader Expr := do
  let id ← groupName ')'
  match (← get).names.lookup id with
  | none => fault (.unknownGroup id) (id.length + 1)
  | some index =>
    match ← closedWidth? index with
    | none => fault .openGroup (id.length + 1)
    | some width =>
      checkBehind index
      return .backref index width

/-- What must or must not lie ahead or behind. -/
def lookAround (inner : Inner) (verbose : Bool) (start : Nat) (behind negated : Bool) :
    Reader Expr := do
  let before := (← get).behind
  if behind && before.isNone then
    let known ← groupCount
    modify (fun r => { r with behind := some known })
  let body ← inner.alternatives verbose
  if behind && before.isNone then modify (fun r => { r with behind := none })
  closeGroup start
  return .look behind negated body

/-- The group that a condition names. -/
def conditionGroup : Reader Nat := do
  let id ← nameUntil ')' "group name"
  let back := id.length + 1
  if Text.isIdentifier id then
    match (← get).names.lookup id with
    | some index => return index
    | none => fault (.unknownGroup id) back
  else match Text.integer? id with
    | none => fault (.badGroupName id) back
    | some n =>
      if n < 0 then fault (.badGroupName id) back
      else if n = 0 then fault .badGroupNumber back
      else if 1073741823 ≤ n then fault (.invalidGroup n.toNat) back
      else
        let index := n.toNat
        let r ← get
        if (r.conditions.lookup index).isNone then
          set { r with conditions := r.conditions ++ [(index, r.place - back)] }
        return index

/-- A choice by whether a group has matched. -/
def conditional (inner : Inner) (verbose : Bool) (start : Nat) : Reader Expr := do
  let index ← conditionGroup
  checkBehind index
  let yes ← inner.sequence verbose
  let no ← do
    if ← skip '|' then
      let e ← inner.sequence verbose
      if (← next) == some (.plain '|') then fault .tooManyBranches 0
      pure e
    else pure (.seq [])
  closeGroup start
  return .conditional index yes no

/-- Skips a comment up to its closing parenthesis. -/
def groupComment (start : Nat) : Nat → Reader Unit
  | 0 => return ()
  | fuel + 1 => do
    match ← next with
    | none => throw (.at .unterminatedComment start)
    | some p =>
      let _ ← advance
      if p == .plain ')' then return () else groupComment start fuel

/-- What a group adds to the items: an expression, or nothing. `initial` tells that flags for the
    whole pattern may stand here. -/
def groupItem (inner : Inner) (verbose initial : Bool) : Reader (Option Expr) := do
  let start := (← place) - 1
  if !(← skip '?') then return some (← captureGroup inner verbose start none)
  else match ← advance with
    | none => fault .unexpectedEnd 0
    | some (.plain 'P') =>
      if ← skip '<' then
        let id ← groupName '>'
        return some (← captureGroup inner verbose start (some id))
      else if ← skip '=' then return some (← namedReference)
      else match ← advance with
        | none => fault .unexpectedEnd 0
        | some p => fault (.unknownExtension ("P" ++ p.text)) (p.length + 2)
    | some (.plain ':') =>
      let body ← inner.alternatives verbose
      closeGroup start
      return some (.scope {} {} body)
    | some (.plain '#') =>
      groupComment start ((← get).rest.length + 1)
      return none
    | some (.plain '=') => return some (← lookAround inner verbose start false false)
    | some (.plain '!') => return some (← lookAround inner verbose start false true)
    | some (.plain '<') =>
      match ← advance with
      | none => fault .unexpectedEnd 0
      | some (.plain '=') => return some (← lookAround inner verbose start true false)
      | some (.plain '!') => return some (← lookAround inner verbose start true true)
      | some p => fault (.unknownExtension ("<" ++ p.text)) (p.length + 2)
    | some (.plain '(') => return some (← conditional inner verbose start)
    | some (.plain '>') =>
      let body ← inner.alternatives verbose
      closeGroup start
      return some (.atomic body)
    | some (.plain c) =>
      if isFlag c || c == '-' then
        match ← inlineFlags c with
        | none =>
          if initial then return none else throw (.at .flagsNotFirst start)
        | some (on, off) =>
          let body ← inner.alternatives ((verbose || on.verbose) && !off.verbose)
          closeGroup start
          return some (.scope on off body)
      else fault (.unknownExtension (String.singleton c)) 2
    | some p => fault (.unknownExtension p.text) (p.length + 1)

/-! ### Patterns -/

/-- White space that verbose patterns ignore. -/
def isIgnored (c : Char) : Bool :=
  c == ' ' || c == '\t' || c == '\n' || c == '\r' || c == '\x0b' || c == '\x0c'

/-- Skips a comment up to the end of its line. -/
def lineComment : Nat → Reader Unit
  | 0 => return ()
  | fuel + 1 => do
    match ← advance with
    | none => return ()
    | some p => if p == .plain '\n' then return () else lineComment fuel

/-- The items, last one first, after an item that starts with the character `c`, which has been
    read. -/
def charItem (inner : Inner) (verbose initial : Bool) (c : Char) (done : List Expr) :
    Reader (List Expr) := do
  match c with
  | '[' => return (← charSet) :: done
  | '.' => return .any :: done
  | '^' => return .anchor .start :: done
  | '$' => return .anchor .stop :: done
  | '(' =>
    match ← groupItem inner verbose (initial && done.isEmpty) with
    | some e => return e :: done
    | none => return done
  | _ =>
    if c == '*' || c == '+' || c == '?' || c == '\x7b' then quantifier c done
    else return .char c.toNat :: done

/-- The items of one alternative, up to its end. `top` tells that the alternative is not inside a
    group, so that flags of the whole pattern count at once, and `initial` that it is the first
    one of the pattern. -/
def sequenceItems (inner : Inner) (top initial insideVerbose : Bool) :
    Nat → List Expr → Reader (List Expr)
  | 0, done => return done.reverse
  | fuel + 1, done => do
    let r ← get
    let verbose := if top then r.flags.verbose else insideVerbose
    match ← next with
    | none => return done.reverse
    | some (.plain '|') => return done.reverse
    | some (.plain ')') => return done.reverse
    | some p =>
      let _ ← advance
      match p with
      | .plain c =>
        if verbose && isIgnored c then sequenceItems inner top initial insideVerbose fuel done
        else if verbose && c == '#' then
          lineComment ((← get).rest.length + 1)
          sequenceItems inner top initial insideVerbose fuel done
        else
          let items ← charItem inner verbose initial c done
          sequenceItems inner top initial insideVerbose fuel items
      | .escaped c => sequenceItems inner top initial insideVerbose fuel ((← escape c) :: done)
      | .dangling => fault .danglingEscape 0

/-- One alternative. -/
def sequence (inner : Inner) (top initial verbose : Bool) : Reader Expr := do
  let items ← sequenceItems inner top initial verbose ((← get).rest.length + 1) []
  return .seq (Expr.ungrouped items)

/-- Alternatives behind the first ones, which are held in reverse. -/
def alternativesAfter (inner : Inner) (top verbose : Bool) :
    Nat → List Expr → Reader (List Expr)
  | 0, done => return done.reverse
  | fuel + 1, done => do
    if ← skip '|' then
      let e ← sequence inner top false verbose
      alternativesAfter inner top verbose fuel (e :: done)
    else return done.reverse

/-- Alternatives. -/
def alternatives (inner : Inner) (top verbose : Bool) : Reader Expr := do
  let first ← sequence inner top top verbose
  let choices ← alternativesAfter inner top verbose ((← get).rest.length + 1) [first]
  return .seq (Expr.ofChoices (choices.map Expr.items))

/-- Readers for groups that lie less than `depth` deep inside each other. -/
def innerReaders : Nat → Inner
  | 0 => ⟨fun _ => return .seq [], fun _ => return .seq []⟩
  | depth + 1 =>
    ⟨fun verbose => alternatives (innerReaders depth) false verbose,
      fun verbose => sequence (innerReaders depth) false false verbose⟩

/-- The whole pattern. -/
def wholePattern (depth : Nat) : Reader Expr := do
  if (← next) == some .dangling then fault .danglingEscape 0
  let e ← alternatives (innerReaders depth) true false
  let r ← get
  if r.flags.ascii && r.flags.unicode then throw .bothScripts
  if (← next).isSome then fault .unbalanced 0
  match r.conditions.find? (fun c => r.groups.size < c.1) with
  | some (index, place) => throw (.at (.invalidGroup index) place)
  | none => return e

/-- A pattern that has been read. -/
structure Source where
  expr : Expr
  /-- The flags of the whole pattern. -/
  flags : Flags
  /-- The number of groups. -/
  groups : Nat
deriving Repr

/-- Reads a pattern. -/
def readPattern (pattern : String) (flags : Flags) : Except Error Source := do
  let pieces := piecesOf pattern
  let reading : Reading :=
    { rest := pieces, place := 0, flags := flags, groups := #[], names := [], behind := none,
      conditions := [] }
  let (e, r) ← (wholePattern (pieces.length + 1)).run reading
  return ⟨e, { r.flags with unicode := !r.flags.ascii }, r.groups.size⟩

end PackageAtlas.Pattern
