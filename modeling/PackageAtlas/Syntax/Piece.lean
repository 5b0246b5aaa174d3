import PackageAtlas.Syntax.Scanner

namespace PackageAtlas.Syntax

/-!
# Pieces of a source

What has been read of a source is held as pieces: tokens, constructs with their parts, and parts
that were passed over. Each piece knows what its errors cost, so that of several readings the one
with the least costly errors can be chosen.

* `PieceKind`, `Facts`, `Piece`: the pieces;
* `Piece.ofToken`, `Piece.stray`, `Piece.compose`: how they come about;
* `skippedPartCost` and its kin: what errors cost;
* `Piece.better`: which of two readings of the same place is preferred;
* `Piece.addNodes`: the nodes of the tree that a piece stands for.
-/

/-- What a piece was read as. -/
inductive PieceKind where
  | token (id : Nat)
  | construct (id : Nat)
  /-- Passed over. -/
  | error
  /-- Passed over so far. -/
  | skipped
deriving Repr, DecidableEq, Inhabited

/-- What is known of a piece. -/
structure Facts where
  kind : PieceKind
  /-- Where the white space before the piece starts. -/
  lead : Nat
  start : Nat
  stop : Nat
  /-- Whether the piece is a node of the tree. -/
  visible : Bool
  /-- Whether it may stand anywhere and is part of no production. -/
  extra : Bool
  /-- Whether it was supplied and is not in the source. -/
  missing : Bool
  /-- Whether it is a word that is a literal somewhere. -/
  isWord : Bool
  weight : Int
  /-- What the errors inside cost. -/
  cost : Nat
  /-- The number of nodes of the tree below the piece, and of those directly below it. -/
  inner : Nat
  direct : Nat
  /-- What is said about the parts. -/
  labels : List Label
deriving Repr, Inhabited

/-- A piece with its parts. -/
inductive Piece where
  | mk (facts : Facts) (parts : List Piece)
deriving Inhabited

namespace Piece

/-- What is known of a piece. -/
def facts : Piece → Facts
  | .mk f _ => f

/-- The parts of a piece. -/
def parts : Piece → List Piece
  | .mk _ ps => ps

@[simp] theorem facts_mk (f ps) : (Piece.mk f ps).facts = f := rfl
@[simp] theorem parts_mk (f ps) : (Piece.mk f ps).parts = ps := rfl

/-- The same piece as an extra, or as none. -/
def asExtra (extra : Bool) : Piece → Piece
  | .mk f ps => .mk { f with extra := extra } ps

/-- The same piece with some more weight. -/
def addWeight (weight : Int) : Piece → Piece
  | .mk f ps => .mk { f with weight := f.weight + weight } ps

/-- Whether the piece was passed over as a whole. -/
def isError (p : Piece) : Bool := p.facts.kind == .error

end Piece

/-! ### Costs -/

/-- What it costs to go on after an error. -/
def recoveryCost : Nat := 500

/-- What it costs to supply a token. -/
def missingCost : Nat := 110

/-- What it costs to pass over a part. -/
def skippedPartCost : Nat := 100

/-- What it costs to pass over a line end. -/
def skippedLineCost : Nat := 30

/-- What it costs to pass over a byte. -/
def skippedByteCost : Nat := 1

/-- What the bytes and the line ends between two places cost. -/
def spanCost (s : Source) (i j : Nat) : Nat :=
  skippedByteCost * (j - i) + skippedLineCost * (s.row j - s.row i)

/-- What the errors of a piece cost. -/
def Piece.cost (p : Piece) : Nat :=
  if p.facts.missing then missingCost + recoveryCost else p.facts.cost

/-- The number of nodes that a piece adds to the tree; skipped parts count as progress too. -/
def Piece.nodeCount (p : Piece) : Nat :=
  p.facts.inner + (if p.facts.visible then 1 else 0) + (if p.facts.kind == .skipped then 1 else 0)

/-! ### How pieces come about -/

/-- Whether a token is a node of the tree. -/
def Tables.showsToken (t : Tables) (token : Nat) : Bool :=
  match t.terminals[token]? with
  | some (.lexeme kind) =>
    !([.impliedEnd, .impliedHeadEnd, .templateText, .choiceMark].contains kind)
  | some (.literal _) => true
  | _ => false

/-- The piece of a token; the white space before it starts at `lead`. The end of the source is an
    extra. -/
def Piece.ofToken (t : Tables) (lead : Nat) (f : Found) : Piece :=
  .mk ⟨.token f.token, lead, f.start, f.stop, t.showsToken f.token, f.token == t.idOf .finish,
    false, f.isWord, 0, 0, 0, 0, []⟩ []

/-- The piece of what is no token. -/
def Piece.stray (lead start stop : Nat) : Piece :=
  .mk ⟨.error, lead, start, stop, true, false, false, false, 0, 0, 0, 0, []⟩ []

/-- A token that is supplied at a place. -/
def Piece.missing (t : Tables) (token place : Nat) : Piece :=
  .mk ⟨.token token, place, place, place, t.showsToken token, false, true, false, 0, 0, 0, 0, []⟩ []

/-- What a part that is passed over costs. -/
def skipCostOf (part : Piece) : Nat :=
  let f := part.facts
  if f.extra || (part.isError && part.parts.isEmpty) then 0
  else if f.visible then skippedPartCost
  else skippedPartCost * f.direct

/-- Totals over the parts of a piece. -/
structure Totals where
  cost : Nat
  skips : Nat
  weight : Int
  inner : Nat
  direct : Nat
  /-- Labels of the parts that are still to come. -/
  labels : List Label

/-- Adds a part to the totals. -/
def Totals.add (t : Totals) (part : Piece) : Totals :=
  let f := part.facts
  let (renamed, labels) := if f.extra then (false, t.labels)
    else match t.labels with
      | [] => (false, [])
      | l :: ls => (l.shown.isSome, ls)
  let shown := renamed || f.visible
  { cost := t.cost + (if f.kind == .skipped then 0 else part.cost)
    skips := t.skips + skipCostOf part
    weight := t.weight + f.weight
    inner := t.inner + f.inner + (if shown then 1 else 0)
    direct := t.direct + (if shown then 1 else if part.parts.isEmpty then 0 else f.direct)
    labels := labels }

/-- The piece of some parts; one without parts stands at `place`. -/
def Piece.compose (t : Tables) (s : Source) (kind : PieceKind) (labels : List Label)
    (place : Nat) (parts : List Piece) : Piece :=
  let totals := parts.foldl Totals.add ⟨0, 0, 0, 0, 0, labels⟩
  let lead := (parts.head?.map (·.facts.lead)).getD place
  let start := (parts.head?.map (·.facts.start)).getD place
  let stop := (parts.getLast?.map (·.facts.stop)).getD place
  let passedOver := kind == .error || kind == .skipped
  let cost := if passedOver then totals.cost + totals.skips + recoveryCost + spanCost s start stop
    else totals.cost
  let visible := match kind with
    | .construct id => t.visible.getD id false
    | .error => true
    | _ => false
  .mk ⟨kind, lead, start, stop, visible, false, false, false, totals.weight, cost, totals.inner,
    totals.direct, labels⟩ parts

/-! ### Preference -/

/-- The place of a kind in the order of kinds. -/
def PieceKind.index : PieceKind → Nat × Nat
  | .token id => (0, id)
  | .construct id => (1, id)
  | .error => (2, 0)
  | .skipped => (2, 0)

/-- The order of two pairs by their first members, then by their second ones. -/
def comparePairs (a b : Nat × Nat) : Ordering := (compare a.1 b.1).then (compare a.2 b.2)

mutual

/-- The order of pieces by what they are and what they are made of. -/
def Piece.order : Piece → Piece → Ordering
  | .mk f ps, .mk g qs =>
    ((comparePairs f.kind.index g.kind.index).then (compare ps.length qs.length)).then
      (Piece.orderAll ps qs)

/-- The order of lists of pieces by their first members that differ. -/
def Piece.orderAll : List Piece → List Piece → Ordering
  | [], _ => .eq
  | _ :: _, [] => .eq
  | p :: ps, q :: qs => (Piece.order p q).then (Piece.orderAll ps qs)

end

/-- Whether `q` is a better reading than `p` of the same place: its errors cost less, it is
    heavier, or it comes later in the order of pieces; among readings with errors the later one is
    better. -/
def Piece.better (p q : Piece) : Bool :=
  if q.cost != p.cost then q.cost < p.cost
  else if q.facts.weight != p.facts.weight then p.facts.weight < q.facts.weight
  else if 0 < p.cost then true
  else Piece.order p q == .gt

/-! ### Nodes -/

/-- The kind of the node of a lexeme. -/
def Lexeme.nodeKind : Lexeme → String
  | .name => "identifier"
  | .secretName => "private_property_identifier"
  | .number => "number"
  | .comment => "comment"
  | .hashBang => "hash_bang_line"
  | .escape => "escape_sequence"
  | .pattern => "regex_pattern"
  | .patternEnd => "/"
  | .patternFlags => "regex_flags"
  | .pageComment => "html_comment"
  | .elementText => "jsx_text"
  | .dashedName => "jsx_identifier"
  | .reference => "html_character_reference"
  | _ => "string_fragment"

/-- The kind of the node of a piece, and whether it carries syntax. -/
def Tables.nodeKind (t : Tables) : PieceKind → String × Bool
  | .token id =>
    match t.terminals[id]? with
    | some (.literal text) => (text, t.wordNodes.contains text)
    | some (.lexeme kind) => (kind.nodeKind, kind != .patternEnd)
    | _ => ("", false)
  | .construct id => (t.nameOf id, true)
  | .error => ("ERROR", true)
  | .skipped => ("ERROR", true)

mutual

/-- The nodes that a piece stands for, with what its parent says about it, before `rest`: one node,
    or those of its parts if it is no node of the tree. -/
def Piece.addNodes (t : Tables) (s : Source) (label : Label) : Piece → List Node → List Node
  | .mk f ps, rest =>
    match label.shown with
    | some (kind, named) =>
      .mk kind label.field named (s.extent f.start f.stop)
        (Piece.addParts t s none f.labels ps []) :: rest
    | none =>
      if f.visible then
        let (kind, named) := t.nodeKind f.kind
        .mk kind label.field named (s.extent f.start f.stop)
          (Piece.addParts t s none f.labels ps []) :: rest
      else Piece.addParts t s label.field f.labels ps rest

/-- The nodes of some parts, with what is said about them, before `rest`; those that fill no field
    of their own fill `field`. -/
def Piece.addParts (t : Tables) (s : Source) (field : Option String) :
    List Label → List Piece → List Node → List Node
  | _, [], rest => rest
  | labels, p :: ps, rest =>
    if p.facts.extra then
      Piece.addNodes t s ⟨none, none⟩ p (Piece.addParts t s field labels ps rest)
    else
      let label := labels.headD ⟨none, none⟩
      Piece.addNodes t s ⟨label.shown, label.field.or field⟩ p
        (Piece.addParts t s field labels.tail ps rest)

end

end PackageAtlas.Syntax
