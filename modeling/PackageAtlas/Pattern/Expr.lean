namespace PackageAtlas.Pattern

/-!
# Regular expressions

The expressions that a pattern is read as, before its flags are applied.

* `Flags`: how a pattern is matched, with `Flags.within` for a part that changes them;
* `Member`, `Category`: what a set of characters is made of;
* `Expr`: the expressions;
* `Width`, `Expr.width`: how many characters an expression can match;
* `Expr.ofChoices`: alternatives, as simple as they can be; `Expr.ungrouped`: sequences likewise.
-/

/-- How a pattern is matched. -/
structure Flags where
  ignoreCase : Bool := false
  /-- Whether the ends of lines count as ends. -/
  multiline : Bool := false
  /-- Whether a dot matches a line feed too. -/
  dotAll : Bool := false
  /-- Whether white space in the pattern is a comment. -/
  verbose : Bool := false
  /-- Whether only ASCII characters have classes and cases. -/
  ascii : Bool := false
  /-- Whether characters of all scripts have classes and cases. -/
  unicode : Bool := false
  /-- Whether repetition is forbidden. -/
  template : Bool := false
deriving Repr, DecidableEq, Inhabited

/-- All flags of two sets. -/
def Flags.union (f g : Flags) : Flags where
  ignoreCase := f.ignoreCase || g.ignoreCase
  multiline := f.multiline || g.multiline
  dotAll := f.dotAll || g.dotAll
  verbose := f.verbose || g.verbose
  ascii := f.ascii || g.ascii
  unicode := f.unicode || g.unicode
  template := f.template || g.template

/-- The flags of one set that are not in another. -/
def Flags.minus (f g : Flags) : Flags where
  ignoreCase := f.ignoreCase && !g.ignoreCase
  multiline := f.multiline && !g.multiline
  dotAll := f.dotAll && !g.dotAll
  verbose := f.verbose && !g.verbose
  ascii := f.ascii && !g.ascii
  unicode := f.unicode && !g.unicode
  template := f.template && !g.template

/-- The flags that two sets share. -/
def Flags.inter (f g : Flags) : Flags := f.minus (f.minus g)

/-- Whether a set has no flags. -/
def Flags.isEmpty (f : Flags) : Bool := f == {}

/-- The flags of a part that turns some on and some off; a choice of script replaces the one
    before. -/
def Flags.within (f on off : Flags) : Flags :=
  let base := if on.ascii || on.unicode then { f with ascii := false, unicode := false } else f
  (base.union on).minus off

/-- Classes of characters. -/
inductive Category where
  | digit
  | space
  | word
deriving Repr, DecidableEq

/-- A member of a set of characters; characters are given by their code points. -/
inductive Member where
  | code (n : Nat)
  | range (lo hi : Nat)
  | category (c : Category) (negated : Bool)
deriving Repr, DecidableEq

/-- Places that match no characters. -/
inductive Anchor where
  /-- The start of the text, or of a line. -/
  | start
  /-- The end of the text, or of a line. -/
  | stop
  | textStart
  | textStop
  | boundary
  | noBoundary
deriving Repr, DecidableEq

/-- How often a repeated expression is tried. -/
inductive Greed where
  /-- As often as possible first. -/
  | greedy
  /-- As seldom as possible first. -/
  | lazy
  /-- As often as possible, and never less often. -/
  | possessive
deriving Repr, DecidableEq

/-- How many characters an expression can match, at least and at most. -/
structure Width where
  lo : Nat
  hi : Nat
deriving Repr, DecidableEq

/-- The largest number that is told apart; it stands for all larger ones. -/
def Width.limit : Nat := 4294967295

/-- A width no larger than what is told apart. -/
def Width.capped (w : Width) : Width := ⟨min w.lo (Width.limit - 1), min w.hi Width.limit⟩

/-- A regular expression. -/
inductive Expr where
  /-- Expressions one behind another. -/
  | seq (items : List Expr)
  | char (code : Nat)
  /-- Any character but one. -/
  | notChar (code : Nat)
  /-- Any character, line feeds aside. -/
  | any
  | set (negated : Bool) (members : List Member)
  | anchor (a : Anchor)
  /-- Alternatives, the first of which is tried first. -/
  | alt (choices : List Expr)
  /-- `hi` is none if there is no upper bound. -/
  | repeated (greed : Greed) (lo : Nat) (hi : Option Nat) (body : Expr)
  /-- A part with its own flags. -/
  | scope (on off : Flags) (body : Expr)
  | capture (index : Nat) (body : Expr)
  /-- A part that is matched in one way only. -/
  | atomic (body : Expr)
  | look (behind negated : Bool) (body : Expr)
  /-- The text that a group has matched. -/
  | backref (index : Nat) (width : Width)
  /-- A choice by whether a group has matched. -/
  | conditional (index : Nat) (yes no : Expr)
deriving Repr

namespace Expr

/-- The expressions that stand one behind another. -/
def items : Expr → List Expr
  | .seq es => es
  | e => [e]

/-! ### Widths -/

mutual

/-- How many characters an expression can match. -/
def width : Expr → Width
  | .seq es => (widthOfAll es).capped
  | .char _ => ⟨1, 1⟩
  | .notChar _ => ⟨1, 1⟩
  | .any => ⟨1, 1⟩
  | .set _ _ => ⟨1, 1⟩
  | .anchor _ => ⟨0, 0⟩
  | .alt choices => widthOfAny choices
  | .repeated _ lo hi body =>
    let w := body.width
    ⟨w.lo * lo, w.hi * hi.getD Width.limit⟩
  | .scope _ _ body => body.width
  | .capture _ body => body.width
  | .atomic body => body.width
  | .look _ _ _ => ⟨0, 0⟩
  | .backref _ width => width
  | .conditional _ yes no =>
    let v := yes.width
    let w := no.width
    ⟨min v.lo w.lo, max v.hi w.hi⟩

/-- How many characters expressions one behind another can match. -/
def widthOfAll : List Expr → Width
  | [] => ⟨0, 0⟩
  | e :: es =>
    let v := e.width
    let w := widthOfAll es
    ⟨v.lo + w.lo, v.hi + w.hi⟩

/-- How many characters one of some expressions can match. -/
def widthOfAny : List Expr → Width
  | [] => ⟨Width.limit - 1, 0⟩
  | e :: es =>
    let v := e.width
    let w := widthOfAny es
    ⟨min v.lo w.lo, max v.hi w.hi⟩

end

/-! ### Alternatives -/

/-- Whether two expressions are the same, and hold no other expression. -/
def sameAtom : Expr → Expr → Bool
  | .char m, .char n => m == n
  | .notChar m, .notChar n => m == n
  | .any, .any => true
  | .set b ms, .set c ns => b == c && ms == ns
  | .anchor a, .anchor b => a == b
  | .backref m _, .backref n _ => m == n
  | _, _ => false

/-- The expression that all of some sequences start with, and what is left of them. -/
def commonHead? : List (List Expr) → Option (Expr × List (List Expr))
  | (e :: rest) :: others =>
    if others.all (fun c => c.head?.any (sameAtom e)) then some (e, rest :: others.map List.tail)
    else none
  | _ => none

/-- What some sequences start with, up to `fuel` expressions, and what is left of them. -/
def commonStart : Nat → List (List Expr) → List Expr × List (List Expr)
  | 0, choices => ([], choices)
  | fuel + 1, choices =>
    match commonHead? choices with
    | some (e, rest) =>
      let (start, left) := commonStart fuel rest
      (e :: start, left)
    | none => ([], choices)

/-- The members of the set that a sequence of one expression is. -/
def members? : List Expr → Option (List Member)
  | [.char n] => some [.code n]
  | [.set false ms] => some ms
  | _ => none

/-- One of some sequences. What all of them start with is not chosen, and a choice of characters is
    a set. -/
def ofChoices (choices : List (List Expr)) : List Expr :=
  match choices with
  | [items] => items
  | _ =>
    let (start, left) := commonStart ((choices.head?.getD []).length) choices
    match left.mapM members? with
    | some sets => start ++ [.set false sets.flatten.eraseDups]
    | none => start ++ [.alt (left.map .seq)]

/-- Expressions, with those of groups that do nothing but group in their place. -/
def ungrouped (es : List Expr) : List Expr :=
  es.flatMap (fun e => match e with
    | .scope on off body => if on.isEmpty && off.isEmpty then body.items else [e]
    | _ => [e])

/-- The body of a repetition of an expression. -/
def repeatable : Expr → Expr
  | .scope on off body => if on.isEmpty && off.isEmpty then body else .seq [.scope on off body]
  | e => .seq [e]

end Expr

end PackageAtlas.Pattern
