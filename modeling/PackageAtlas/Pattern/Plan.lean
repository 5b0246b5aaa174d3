import PackageAtlas.Pattern.CharTest
import PackageAtlas.Pattern.Source

namespace PackageAtlas.Pattern

/-!
# Plans

A plan is an expression with its flags applied: it says what to try, in which order. Each step of
a plan holds the steps behind it.

* `Place`: places that match no characters;
* `Plan`: the plans;
* `Expr.check`: whether an expression has a plan; `Expr.plan`: its plan under some flags;
* `Expr.opensKnown`: whether it is known with which characters a match starts.
-/

/-- A place in a text. -/
inductive Place where
  | textStart
  /-- The start of the text or of a line. -/
  | lineStart
  | textStop
  /-- The end of the text, or the line feed that ends it. -/
  | finalStop
  /-- The end of the text or of a line. -/
  | lineStop
  /-- The start or the end of a word. -/
  | boundary (ascii : Bool)
  | noBoundary (ascii : Bool)
deriving Repr, DecidableEq

/-- What to try. -/
inductive Plan where
  | success
  /-- The end of a round of a loop. -/
  | again
  /-- The end of a part of which only one was chosen. -/
  | join (next : Plan)
  | one (test : Single) (next : Plan)
  | place (p : Place) (next : Plan)
  /-- Takes a note of the place. -/
  | mark (index : Nat) (next : Plan)
  /-- A choice and the other choices. -/
  | choice (first rest : Plan)
  /-- No choice is left. -/
  | exhausted
  /-- A repeated test of one character. -/
  | span (greed : Greed) (lo : Nat) (hi : Option Nat) (test : Single) (next : Plan)
  /-- As many rounds as possible, or as few as possible. -/
  | loop (fewest : Bool) (lo : Nat) (hi : Option Nat) (body next : Plan)
  /-- As many rounds as possible, each in the first way in which it matches. -/
  | settle (lo : Nat) (hi : Option Nat) (body next : Plan)
  | atomic (body next : Plan)
  /-- What must or must not match from `back` characters before. -/
  | look (back : Nat) (negated : Bool) (body next : Plan)
  | backref (index : Nat) (folding : Folding) (next : Plan)
  | conditional (index : Nat) (yes no : Plan)

/-- The place that an anchor stands for. -/
def Anchor.place (flags : Flags) : Anchor → Place
  | .start => if flags.multiline then .lineStart else .textStart
  | .stop => if flags.multiline then .lineStop else .finalStop
  | .textStart => .textStart
  | .textStop => .textStop
  | .boundary => .boundary (!flags.unicode)
  | .noBoundary => .noBoundary (!flags.unicode)

namespace Expr

/-! ### Expressions without a plan -/

mutual

/-- Refuses repetitions where they are forbidden, and to look behind for what has no fixed
    width. -/
def check (flags : Flags) : Expr → Except Error Unit
  | .seq es => checkAll flags es
  | .alt choices => checkAll flags choices
  | .repeated greed _ _ body =>
    if flags.template then .error (.repetition greed) else body.check flags
  | .scope on off body => body.check (flags.within on off)
  | .capture _ body => body.check flags
  | .atomic body => body.check flags
  | .look behind _ body =>
    if behind && body.width.lo ≠ body.width.hi then .error .variableLookBehind
    else body.check flags
  | .conditional _ yes no => do
    yes.check flags
    no.check flags
  | _ => .ok ()

/-- Checks expressions one after another. -/
def checkAll (flags : Flags) : List Expr → Except Error Unit
  | [] => .ok ()
  | e :: es => do
    e.check flags
    checkAll flags es

end

/-- What is looked for behind a place must be less wide than this. -/
def lookLimit : Nat := 2147483648

mutual

/-- Whether something is looked for behind a place that is too wide. -/
def looksTooFar : Expr → Bool
  | .seq es => anyLooksTooFar es
  | .alt choices => anyLooksTooFar choices
  | .repeated _ _ _ body => body.looksTooFar
  | .scope _ _ body => body.looksTooFar
  | .capture _ body => body.looksTooFar
  | .atomic body => body.looksTooFar
  | .look behind _ body => (behind && lookLimit ≤ body.width.lo) || body.looksTooFar
  | .conditional _ yes no => yes.looksTooFar || no.looksTooFar
  | _ => false

/-- Whether one of some expressions looks too far behind. -/
def anyLooksTooFar : List Expr → Bool
  | [] => false
  | e :: es => e.looksTooFar || anyLooksTooFar es

end

/-! ### Plans of expressions -/

/-- The test of one character that an expression is. -/
def single? (flags : Flags) : Expr → Option Single
  | .char n => some (.ofCode flags false n)
  | .notChar n => some (.ofCode flags true n)
  | .any => some (.dot flags)
  | .set negated ms => some (.ofSet flags negated ms)
  | .scope on off body => body.single? (flags.within on off)
  | .seq [e] => e.single? flags
  | _ => none

mutual

/-- The plan of an expression under some flags, in front of another plan. -/
def plan (flags : Flags) : Expr → Plan → Plan
  | .seq es, next => planAll flags es next
  | .char n, next => .one (.ofCode flags false n) next
  | .notChar n, next => .one (.ofCode flags true n) next
  | .any, next => .one (.dot flags) next
  | .set negated ms, next => .one (.ofSet flags negated ms) next
  | .anchor a, next => .place (a.place flags) next
  | .alt choices, next => planChoices flags choices next
  | .repeated greed lo hi body, next =>
    match body.single? flags with
    | some test => .span greed lo hi test next
    | none =>
      match greed with
      | .greedy => .loop false lo hi (body.plan flags .again) next
      | .lazy => .loop true lo hi (body.plan flags .again) next
      | .possessive => .settle lo hi (body.plan flags .success) next
  | .scope on off body, next => body.plan (flags.within on off) next
  | .capture index body, next =>
    .mark (2 * index - 2) (body.plan flags (.mark (2 * index - 1) next))
  | .atomic body, next => .atomic (body.plan flags .success) next
  | .look behind negated body, next =>
    .look (if behind then body.width.lo else 0) negated (body.plan flags .success) next
  | .backref index _, next => .backref index flags.folding next
  | .conditional index yes no, next =>
    if no.items.isEmpty then .conditional index (yes.plan flags next) next
    else .conditional index (yes.plan flags (.join next)) (no.plan flags next)

/-- The plan of expressions one behind another. -/
def planAll (flags : Flags) : List Expr → Plan → Plan
  | [], next => next
  | e :: es, next => e.plan flags (planAll flags es next)

/-- The plan of alternatives. -/
def planChoices (flags : Flags) : List Expr → Plan → Plan
  | [], _ => .exhausted
  | e :: es, next => .choice (e.plan flags (.join next)) (planChoices flags es next)

end

/-! ### How matches start -/

mutual

/-- Whether a match starts with a known character; none if it may be empty. -/
def opensLiteral (flags : Flags) : Expr → Option Bool
  | .seq es => allOpenLiteral flags es
  | .char n => some (!flags.folding.isCased n)
  | .scope on off body => body.opensLiteral (flags.within on off)
  | .capture _ body => body.opensLiteral flags
  | _ => some false

/-- Whether a match of expressions one behind another starts with a known character. -/
def allOpenLiteral (flags : Flags) : List Expr → Option Bool
  | [] => none
  | e :: es =>
    match e.opensLiteral flags with
    | none => allOpenLiteral flags es
    | some known => some known

end

/-- Whether a member of a set is the same for characters of either case. -/
def isCaseless (f : Folding) : Member → Bool
  | .code n => !f.isCased n
  | .range lo hi => f == .keep || (hi ≤ lastPlainCode && (f.casedIn lo hi).isEmpty)
  | .category _ _ => true

/-- Whether a match starts with a character of a known set. -/
def opensSet (flags : Flags) : Expr → Bool
  | .seq (e :: _) => e.opensSet flags
  | .scope on off body => body.opensSet (flags.within on off)
  | .capture _ body => body.opensSet flags
  | .set _ ms => ms.all (isCaseless flags.folding)
  | .alt choices => choices.all (fun c => match c.items with
    | .char n :: _ => !flags.folding.isCased n
    | _ => false)
  | _ => false

/-- Whether it is known with which characters a match starts. -/
def opensKnown (flags : Flags) (e : Expr) : Bool :=
  e.opensLiteral flags == some true || e.opensSet flags

end Expr

end PackageAtlas.Pattern
