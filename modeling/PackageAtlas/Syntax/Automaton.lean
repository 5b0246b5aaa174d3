import PackageAtlas.Syntax.Tables

namespace PackageAtlas.Syntax

/-!
# The states of a reading

A state is what a reading may be in the middle of: a set of items, each with the tokens that may
follow its construct. A state says what to do at each token. States are made when they are first
needed.

* `Kernel`: the items of a state that have something before them;
* `Action`: what a state does at a token;
* `closeConstructs`: the constructs that may start in a state;
* `State`, `stateOf`: a state with its actions; conflicts are settled by ranks, and where ranks do
  not settle them several actions remain;
* `Automaton`, `Automaton.next`: the states that have been made, and the ways between them.
-/

/-- Items with the tokens that may follow their constructs, in ascending order of items. -/
abbrev Kernel := Array (Nat × TokenSet)

/-- What a state does at a token. -/
inductive Action where
  /-- Takes the token and goes on in another state. -/
  | shift
  /-- Takes the token and stays. -/
  | stay
  /-- Puts the last parts together. -/
  | reduce (reduction : Reduction)
  /-- The source is complete. -/
  | accept
deriving Repr, DecidableEq, Inhabited

/-- Where the items of a state lead: by token and by construct. -/
structure Successors where
  tokens : Array Kernel
  constructs : Array Kernel
deriving Inhabited

/-- A state. -/
structure State where
  /-- What to do at each token. -/
  actions : Array (List Action)
  successors : Successors
deriving Inhabited

namespace State

/-- What to do at a token. -/
def actionsAt (s : State) (token : Nat) : List Action := s.actions.getD token []

/-- Whether a token may be next. -/
def expects (s : State) (token : Nat) : Bool := !(s.actionsAt token).isEmpty

end State

/-! ### Closure -/

/-- Spreads the tokens that may follow constructs to the constructs that stand first in them;
    those in `pending` have changed. The first argument bounds the number of changes. -/
def spread (t : Tables) : Nat → List Nat → Array TokenSet → Array TokenSet
  | 0, _, sets => sets
  | _ + 1, [], sets => sets
  | fuel + 1, c :: pending, sets =>
    let own := sets.getD c 0
    let (pending, sets) := (t.heads.getD c []).foldl
      (fun (acc : List Nat × Array TokenSet) (h : Nat × Option TokenSet) =>
        let old := acc.2.getD h.1 0
        let new := old.union (h.2.getD own)
        if new == old then acc else (h.1 :: acc.1, acc.2.setIfInBounds h.1 new))
      (pending, sets)
    spread t fuel pending sets

/-- The tokens that may follow each construct that may start in a state; none for those that may
    not. -/
def closeConstructs (t : Tables) (kernel : Kernel) : Array TokenSet :=
  let (pending, sets) := kernel.foldl (fun (acc : List Nat × Array TokenSet) (k : Nat × TokenSet) =>
    let item := t.items.getD k.1 default
    match item.next with
    | some (.construct c) =>
      let follow := match item.after with
        | some e => t.firstOf e
        | none => k.2
      (c :: acc.1, acc.2.setIfInBounds c ((acc.2.getD c 0).union follow))
    | _ => acc) ([], t.constructs.map (fun _ => 0))
  spread t (t.constructs.size * t.tokenCount) pending sets

/-- Adds the item behind the next step of an item. -/
def Successors.add (s : Successors) (item : Item) (follow : TokenSet) : Successors :=
  match item.next with
  | some (.token id) => { s with tokens := s.tokens.modify id (·.push (item.advanced, follow)) }
  | some (.construct id) =>
    { s with constructs := s.constructs.modify id (·.push (item.advanced, follow)) }
  | none => s

/-- Where the items of a state lead. -/
def successorsOf (t : Tables) (kernel : Kernel) : Successors :=
  let empty : Successors := ⟨t.terminals.map (fun _ => #[]), t.constructs.map (fun _ => #[])⟩
  let started := kernel.foldl (fun (s : Successors) (k : Nat × TokenSet) =>
    s.add (t.items.getD k.1 default) k.2) empty
  let sets := closeConstructs t kernel
  (List.range sets.size).foldl (fun (s : Successors) c =>
    let follow := sets.getD c 0
    if follow == 0 then s
    else (t.starts.getD c #[]).foldl (fun (s : Successors) i =>
      s.add (t.items.getD i default) follow) s) started

/-- The same items in ascending order, each once. -/
def Kernel.normalize (k : Kernel) : Kernel :=
  let sorted := k.toList.mergeSort (fun a b => a.1 ≤ b.1)
  sorted.foldl (fun (acc : Kernel) x =>
    match acc.back? with
    | some y => if y.1 == x.1 then acc.pop.push (x.1, y.2.union x.2) else acc.push x
    | none => acc.push x) #[]

/-! ### Conflicts -/

/-- The reductions that are possible at a token, with what is known of their rules. -/
structure Choice where
  actions : List Action
  rank : Rank
  constructs : List String
  sides : List (Option Side)

/-- Adds a reduction: one of a tighter rank replaces the others, one of a looser rank is left
    out. -/
def Choice.add (t : Tables) (choice : Option Choice) (item : Item) (action : Action) : Choice :=
  let name := t.nameOf item.construct
  let fresh : Choice := ⟨[action], item.rank, [name], [item.side]⟩
  match choice with
  | none => fresh
  | some c =>
    match compareRanks t.orders item.rank [name] c.rank c.constructs with
    | .gt => fresh
    | .lt => c
    | .eq =>
      let actions := if c.actions.contains action then c.actions else c.actions ++ [action]
      ⟨actions, c.rank, c.constructs ++ [name], c.sides ++ [item.side]⟩

/-- The items of a kernel that take part in a conflict at a token: those that end there, and those
    that go on with it. -/
def disputing (t : Tables) (kernel : Kernel) (token : Nat) : List Item :=
  kernel.toList.filterMap (fun k =>
    let item := t.items.getD k.1 default
    match item.next with
    | some e => if 0 < item.dot && (t.firstOf e).has token then some item else none
    | none => if k.2.has token then some item else none)

/-- Whether the shift stays, and whether the reductions do, when both are possible. A repetition
    goes on by putting its parts together; else the tighter rank wins, and between equal ranks the
    side decides. -/
def settle (t : Tables) (items : List Item) (choice : Choice) : Bool × Bool :=
  let parents := distinct (items.map (·.construct))
  match parents with
  | [c] =>
    if t.repetition.getD c false then (false, true) else byRank
  | _ => byRank
where
  /-- Settles by rank, then by side. -/
  byRank : Bool × Bool :=
    let orders := (items.filter (fun i => i.next.isSome)).map (fun i =>
      compareRanks t.orders i.rank [t.nameOf i.construct] choice.rank choice.constructs)
    let tighter := orders.contains .gt
    let looser := orders.contains .lt
    if tighter && !looser then (true, false)
    else if looser && !tighter then (false, true)
    else if tighter then (true, true)
    else if choice.sides.all (· == some .left) then (false, true)
    else if choice.sides.all (· == some .right) then (true, false)
    else (true, true)

/-- The reductions of a kernel, by token. -/
def reductionsOf (t : Tables) (kernel : Kernel) : Array (Option Choice) :=
  let ended := (kernel.toList.filter (fun k => (t.items.getD k.1 default).next.isNone)).mergeSort
    (fun a b => (t.items.getD a.1 default).construct ≤ (t.items.getD b.1 default).construct)
  let ended := ended.mergeSort
    (fun a b => (t.items.getD a.1 default).dot ≤ (t.items.getD b.1 default).dot)
  ended.foldl (fun (choices : Array (Option Choice)) k =>
    let item := t.items.getD k.1 default
    let action := if item.construct == t.whole then .accept else .reduce item.reduction
    (k.2.members t.tokenCount).foldl (fun (choices : Array (Option Choice)) token =>
      choices.modify token (fun c => some (Choice.add t c item action))) choices)
    (t.terminals.map (fun _ => none))

/-- The state of a kernel. -/
def stateOf (t : Tables) (kernel : Kernel) : State :=
  let successors := successorsOf t kernel
  let choices := reductionsOf t kernel
  let actions := (List.range t.tokenCount).map (fun token =>
    let goesOn := !(successors.tokens.getD token #[]).isEmpty
    match choices.getD token none with
    | none =>
      if goesOn then [.shift]
      else if t.extras.contains token then [.stay]
      else []
    | some choice =>
      if !goesOn then choice.actions
      else
        let (shifts, reduces) := settle t (disputing t kernel token) choice
        (if reduces then choice.actions else []) ++ (if shifts then [.shift] else []))
  ⟨actions.toArray, successors⟩

/-! ### States on demand -/

/-- The states that have been made. The first is that of a reading that has lost its way; it
    expects nothing. -/
structure Automaton where
  states : Array State
  known : Std.HashMap Kernel Nat
  /-- The states behind states, by the number of a token, or that of a construct plus the number of
      tokens. -/
  ways : Std.HashMap (Nat × Nat) Nat

/-- The number of the state of a reading that has lost its way. -/
def lostState : Nat := 0

/-- The number of the state at the start of a source. -/
def startState : Nat := 1

namespace Automaton

/-- The state of a number. -/
def state (a : Automaton) (id : Nat) : State := a.states.getD id default

/-- The number of the state of a kernel, which is made if it is not there yet. -/
def visit (t : Tables) (a : Automaton) (kernel : Kernel) : Nat × Automaton :=
  match a.known[kernel]? with
  | some id => (id, a)
  | none =>
    let id := a.states.size
    (id, { a with
      states := a.states.push (stateOf t kernel)
      known := a.known.insert kernel id })

/-- The state behind a token or a construct in a state, if it may stand there. -/
def next (t : Tables) (a : Automaton) (id : Nat) (e : Entry) : Option Nat × Automaton :=
  let (code, kernel) := match e with
    | .token token => (token, (a.state id).successors.tokens.getD token #[])
    | .construct c => (t.tokenCount + c, (a.state id).successors.constructs.getD c #[])
  if kernel.isEmpty then (none, a)
  else match a.ways[(id, code)]? with
    | some behind => (some behind, a)
    | none =>
      let (behind, a) := a.visit t kernel.normalize
      (some behind, { a with ways := a.ways.insert (id, code) behind })

/-- The start of a source: the end of the source follows the whole of it. A source may be
    empty. -/
def start (t : Tables) : Automaton :=
  let kernel : Kernel := #[(t.wholeItem, .single (t.idOf .finish))]
  let state := stateOf t kernel
  let nothing : Action := .reduce ⟨0, 0, 0, []⟩
  let state := { state with actions := state.actions.modify (t.idOf .finish) (nothing :: ·) }
  ⟨#[default, state], {}, {}⟩

end Automaton

end PackageAtlas.Syntax
