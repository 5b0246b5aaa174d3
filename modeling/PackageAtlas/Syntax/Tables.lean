import PackageAtlas.Syntax.Production
import Std.Data.HashMap

namespace PackageAtlas.Syntax

/-!
# Grammars by numbers

Tokens and constructs are numbered, and the productions become items: places in a production up to
which it has been read.

* `TokenSet`: sets of tokens;
* `Entry`: a token or a construct by its number;
* `Item`, `Reduction`: a place in a production, and what its end stands for;
* `Tables`: a grammar by numbers, `Tables.ofGrammar`;
* `compareRanks`: which of two ranks binds more tightly.
-/

/-! ### Sets of tokens -/

/-- A set of tokens, as the number with the bits of its members. -/
abbrev TokenSet := Nat

namespace TokenSet

/-- The set of one token. -/
def single (t : Nat) : TokenSet := 1 <<< t

/-- Whether a token is in a set. -/
def has (s : TokenSet) (t : Nat) : Bool := s.testBit t

/-- The tokens of either of two sets. -/
def union (a b : TokenSet) : TokenSet := a ||| b

/-- The members of a set below a bound, in ascending order. -/
def members (s : TokenSet) (bound : Nat) : List Nat := (List.range bound).filter s.has

end TokenSet

/-! ### Items -/

/-- A token or a construct, by its number. -/
inductive Entry where
  | token (id : Nat)
  | construct (id : Nat)
deriving Repr, DecidableEq, Inhabited

/-- What the parts of a production are put together to. -/
structure Reduction where
  construct : Nat
  /-- The number of parts. -/
  count : Nat
  weight : Int
  labels : List Label
deriving Repr, DecidableEq, Inhabited

/-- A place in a production. -/
structure Item where
  construct : Nat
  /-- The number of steps before the place. -/
  dot : Nat
  /-- The step behind the place. -/
  next : Option Entry
  /-- The step behind that one. -/
  after : Option Entry
  /-- The item behind the next step. -/
  advanced : Nat
  /-- Rank and side of the step before the place. -/
  rank : Rank
  side : Option Side
  /-- The whole production. -/
  reduction : Reduction
deriving Repr, Inhabited

/-- What makes two places in productions the same: what is left to be read, and what is said about
    the parts before it. -/
structure ItemKey where
  construct : Nat
  weight : Int
  rank : Rank
  side : Option Side
  labels : List Label
  rest : List Step
deriving BEq, Hashable

/-! ### Tables -/

/-- A grammar by numbers. -/
structure Tables where
  terminals : Array Terminal
  tokenIds : Std.HashMap Terminal Nat
  /-- Names of constructs; the number behind the last one stands for the whole source. -/
  constructs : Array String
  /-- Whether the nodes of a construct are part of the tree. -/
  visible : Array Bool
  /-- Whether a construct is a repetition. -/
  repetition : Array Bool
  items : Array Item
  /-- The items at the start of the productions of each construct. -/
  starts : Array (Array Nat)
  /-- The tokens that each construct may start with. -/
  firsts : Array TokenSet
  /-- The constructs that stand first in the productions of each construct, each with the tokens
      that may follow it there, or none if it is the last part too. -/
  heads : Array (List (Nat × Option TokenSet))
  /-- The item before the whole source. -/
  wholeItem : Nat
  orders : List (List RankEntry)
  extras : List Nat
  wordNodes : List String
deriving Inhabited

namespace Tables

/-- The number of tokens. -/
def tokenCount (t : Tables) : Nat := t.terminals.size

/-- The number of a terminal; one that the grammar does not know has a number that no token has. -/
def idOf (t : Tables) (terminal : Terminal) : Nat := t.tokenIds.getD terminal t.terminals.size

/-- The number that stands for the whole source. -/
def whole (t : Tables) : Nat := t.constructs.size

/-- The name of a construct. -/
def nameOf (t : Tables) (construct : Nat) : String := t.constructs.getD construct ""

/-- The tokens that an entry may start with. -/
def firstOf (t : Tables) : Entry → TokenSet
  | .token id => .single id
  | .construct id => t.firsts.getD id 0

end Tables

/-! ### Numbering -/

/-- The terminals of a rule, in the order in which it asks for them. -/
def Rule.terminals : Rule → List Terminal
  | .blank => []
  | .terminal t => [t]
  | .construct _ => []
  | .seq a b => a.terminals ++ b.terminals
  | .choice a b => a.terminals ++ b.terminals
  | .repeated r => r.terminals
  | .ranked _ _ r => r.terminals
  | .weighted _ r => r.terminals
  | .field _ r => r.terminals
  | .shown _ _ r => r.terminals

/-- Lexemes that are not told by their characters alone; they are numbered last. -/
def lateLexemes : List Lexeme :=
  [.impliedEnd, .templateText, .choiceMark, .pageComment, .elementText, .impliedHeadEnd]

/-- All terminals of a grammar in the order of their numbers. -/
def Grammar.terminals (g : Grammar) : Array Terminal :=
  let late := lateLexemes.map Terminal.lexeme
  let early := [Terminal.finish, .lexeme .name] ++ g.rules.flatMap (fun r => r.2.terminals) ++
    [.lexeme .comment]
  let distinct := early.foldl (fun (acc : Array Terminal × Std.HashMap Terminal Unit) t =>
    if late.contains t || acc.2.contains t then acc
    else (acc.1.push t, acc.2.insert t ())) (#[], {})
  distinct.1 ++ late.toArray

/-- The numbers of the members of an array. -/
def numbersOf {α : Type} [BEq α] [Hashable α] (xs : Array α) : Std.HashMap α Nat :=
  xs.foldl (fun (m : Std.HashMap α Nat) x => m.insert x m.size) {}

/-- The number of a symbol. -/
def entryOf (tokens : Std.HashMap Terminal Nat) (constructs : Std.HashMap String Nat) :
    Symbol → Entry
  | .terminal t => .token (tokens.getD t 0)
  | .construct name => .construct (constructs.getD name constructs.size)

/-- Items with their keys. -/
structure ItemPool where
  items : Array Item
  known : Std.HashMap ItemKey Nat

/-- The number of the item of a key, which is added if it is not there yet. -/
def ItemPool.add (pool : ItemPool) (key : ItemKey) (item : Item) : Nat × ItemPool :=
  match pool.known[key]? with
  | some id => (id, pool)
  | none => (pool.items.size, ⟨pool.items.push item, pool.known.insert key pool.items.size⟩)

/-- Adds the items of a production whose first `steps` are held in reverse and whose other steps
    are `rest`, and gives the number of the item between them. -/
def ItemPool.addProduction (entry : Symbol → Entry) (reduction : Reduction) :
    List Step → List Step → ItemPool → Nat × ItemPool
  | done, [], pool =>
    let key : ItemKey := ⟨reduction.construct, reduction.weight, lastRank done, lastSide done,
      reduction.labels, []⟩
    pool.add key ⟨reduction.construct, done.length, none, none, 0, lastRank done, lastSide done,
      reduction⟩
  | done, s :: rest, pool =>
    let (advanced, pool) := pool.addProduction entry reduction (s :: done) rest
    let key : ItemKey := ⟨reduction.construct, reduction.weight, lastRank done, lastSide done,
      done.map (·.label), s :: rest⟩
    pool.add key ⟨reduction.construct, done.length, some (entry s.symbol),
      rest.head?.map (fun r => entry r.symbol), advanced, lastRank done, lastSide done, reduction⟩
where
  /-- The rank of the step before a place. -/
  lastRank : List Step → Rank
    | [] => .plain
    | s :: _ => s.rank
  /-- The side of the step before a place. -/
  lastSide : List Step → Option Side
    | [] => none
    | s :: _ => s.side

/-- Adds the items of all productions of a construct, and gives those at their starts. -/
def ItemPool.addConstruct (entry : Symbol → Entry) (construct : Nat) (productions : List Production)
    (pool : ItemPool) : Array Nat × ItemPool :=
  let (starts, _, pool) := productions.foldl
    (fun (acc : Array Nat × Std.HashMap Nat Unit × ItemPool) p =>
      if p.steps.isEmpty then acc
      else
        let reduction : Reduction := ⟨construct, p.steps.length, p.weight, p.steps.map (·.label)⟩
        let (id, pool) := acc.2.2.addProduction entry reduction [] p.steps
        if acc.2.1.contains id then (acc.1, acc.2.1, pool)
        else (acc.1.push id, acc.2.1.insert id (), pool))
    (#[], {}, pool)
  (starts, pool)

/-! ### First tokens -/

/-- The first sets after one more round over all constructs. -/
def firstRound (nexts : Array (List Entry)) (firsts : Array TokenSet) : Array TokenSet :=
  (List.range nexts.size).foldl (fun (fs : Array TokenSet) c =>
    let set := (nexts.getD c []).foldl (fun (s : TokenSet) e =>
      s.union (match e with
        | .token t => .single t
        | .construct d => fs.getD d 0)) (fs.getD c 0)
    fs.setIfInBounds c set) firsts

/-- The first sets of all constructs: rounds are repeated until nothing changes. -/
def firstSets (nexts : Array (List Entry)) : Nat → Array TokenSet → Array TokenSet
  | 0, firsts => firsts
  | rounds + 1, firsts =>
    let more := firstRound nexts firsts
    if more == firsts then firsts else firstSets nexts rounds more

/-- The members of a list, each once. -/
def distinct {α : Type} [BEq α] (xs : List α) : List α :=
  (xs.foldl (fun (acc : List α) x => if acc.contains x then acc else x :: acc) []).reverse

/-- The grammar by numbers. -/
def Tables.ofGrammar (g : Grammar) : Tables :=
  let terminals := g.terminals
  let tokenIds := numbersOf terminals
  let productions := g.productions
  let constructs := (productions.map (·.1)).toArray
  let constructIds := numbersOf constructs
  let entry := entryOf tokenIds constructIds
  let (starts, pool) := productions.foldl (fun (acc : Array (Array Nat) × ItemPool) p =>
    let (ids, pool) := acc.2.addConstruct entry acc.1.size p.2.2
    (acc.1.push ids, pool)) (#[], ⟨#[], {}⟩)
  let nexts := starts.map (fun ids =>
    distinct (ids.toList.filterMap (fun i => (pool.items.getD i default).next)))
  let firsts := firstSets nexts constructs.size (constructs.map (fun _ => 0))
  let first (e : Entry) : TokenSet := match e with
    | .token t => .single t
    | .construct c => firsts.getD c 0
  let heads := starts.map (fun ids => distinct (ids.toList.filterMap (fun i =>
    let item := pool.items.getD i default
    match item.next with
    | some (.construct c) => some (c, item.after.map first)
    | _ => none)))
  let whole : Reduction := ⟨constructs.size, 1, 0, []⟩
  let behind : Item := ⟨constructs.size, 1, none, none, 0, .plain, none, whole⟩
  let before : Item :=
    ⟨constructs.size, 0, some (.construct 0), none, pool.items.size, .plain, none, whole⟩
  { terminals
    tokenIds
    constructs
    visible := constructs.map (fun name => !name.startsWith "_" && !g.groups.contains name)
    repetition := (productions.map (·.2.1)).toArray
    items := (pool.items.push behind).push before
    starts
    firsts
    heads
    wholeItem := pool.items.size + 1
    orders := g.orders
    extras := g.extras.map (fun t => tokenIds.getD t 0)
    wordNodes := g.wordNodes }

/-! ### Ranks -/

/-- Whether a member of an order stands for a rank inside one of some constructs. -/
def RankEntry.covers (e : RankEntry) (rank : Rank) (constructs : List String) : Bool :=
  match e with
  | .named name => rank == .named name
  | .construct name => constructs.contains name

/-- How two ranks compare in one order, if both have a place in it. -/
def compareIn (p : Rank) (ps : List String) (q : Rank) (qs : List String) :
    List RankEntry → Bool → Bool → Option Ordering
  | [], _, _ => none
  | e :: es, sawLeft, sawRight =>
    if e.covers p ps then
      if sawRight then some .lt else compareIn p ps q qs es true sawRight
    else if e.covers q qs then
      if sawLeft then some .gt else compareIn p ps q qs es sawLeft true
    else compareIn p ps q qs es sawLeft sawRight

/-- How the rank `p` inside the constructs `ps` compares with the rank `q` inside `qs`; the tighter
    one is greater. The first order that knows both decides. -/
def compareRanks (orders : List (List RankEntry)) (p : Rank) (ps : List String) (q : Rank)
    (qs : List String) : Ordering :=
  match p, q with
  | .level m, .level n => compare m n
  | .level m, .plain => compare m 0
  | .plain, .level n => compare 0 n
  | _, _ => (orders.findSome? (fun order => compareIn p ps q qs order false false)).getD .eq

end PackageAtlas.Syntax
