import PackageAtlas.Syntax.Rule

namespace PackageAtlas.Syntax

/-!
# Productions

The rules of a grammar as plain sequences of symbols: repetitions become constructs of their own,
choices become several productions, and inlined constructs are replaced by what they are made of.

* `Step`, `Production`: a symbol with what its rule says about it, and a sequence of them;
* `unroll`: rules without repetitions;
* `productionsOf`: the productions of a rule;
* `Grammar.productions`: those of all constructs.
-/

/-- A terminal or a construct. -/
inductive Symbol where
  | terminal (t : Terminal)
  | construct (name : String)
deriving Repr, DecidableEq, Hashable, Inhabited

/-- What a node says about one of its parts. -/
structure Label where
  /-- The kind that the part is shown under, and whether it is a node with syntax. -/
  shown : Option (String × Bool)
  /-- The field that the part fills. -/
  field : Option String
deriving Repr, DecidableEq, Hashable, Inhabited

/-- A symbol of a production. -/
structure Step where
  symbol : Symbol
  rank : Rank
  side : Option Side
  label : Label
deriving Repr, DecidableEq, Hashable, Inhabited

/-- A sequence of symbols that a construct may be made of. -/
structure Production where
  steps : List Step
  weight : Int
deriving Repr, DecidableEq, Inhabited

/-! ### Repetitions -/

/-- Repetitions that have become constructs: what is repeated, and the name of the construct. -/
abbrev Repetitions := List (Rule × String)

/-- A rule whose repetitions are replaced by constructs. -/
def unroll : Rule → StateM Repetitions Rule
  | .repeated r => do
    let item ← unroll r
    let known ← get
    match known.find? (fun k => k.1 == item) with
    | some (_, name) => return .construct name
    | none =>
      let name := s!"_repetition_{known.length}"
      set (known ++ [(item, name)])
      return .construct name
  | .seq a b => return .seq (← unroll a) (← unroll b)
  | .choice a b => return .choice (← unroll a) (← unroll b)
  | .ranked rank side r => return .ranked rank side (← unroll r)
  | .weighted weight r => return .weighted weight (← unroll r)
  | .field name r => return .field name (← unroll r)
  | .shown kind named r => return .shown kind named (← unroll r)
  | r => return r

/-- The rule of a repetition: one item, or a shorter repetition with an item behind it. -/
def repetitionRule (item : Rule) (name : String) : Rule :=
  .choice (.seq (.construct name) item) item

/-! ### Choices -/

/-- The weight that decides for a whole of two parts. -/
def heavier (a b : Int) : Int := if b.natAbs > a.natAbs then b else a

/-- What the rules around a part say about its symbols. -/
structure Around where
  rank : Rank
  side : Option Side
  label : Label

/-- Nothing said. -/
def Around.nothing : Around := ⟨.plain, none, ⟨none, none⟩⟩

/-- The rank of a rule inside another. -/
def innerRank (outer inner : Rank) : Rank :=
  match inner with
  | .plain => outer
  | _ => inner

/-- Gives the last of some steps the rank and the side of the rule around its own. A rank settles
    how a rule goes on, and behind the last step the outer rule does. -/
def restoreLast (around : Around) (rank : Rank) (side : Option Side) (steps : List Step) :
    List Step :=
  match steps.getLast? with
  | none => []
  | some last => steps.dropLast ++ [{ last with
      rank := if rank == .plain then last.rank else around.rank
      side := if side.isNone then last.side else around.side }]

/-- The productions of a rule; `atEnd` tells that nothing follows it. -/
def productionsOf (around : Around) (atEnd : Bool) : Rule → List Production
  | .blank => [⟨[], 0⟩]
  | .terminal t => [⟨[⟨.terminal t, around.rank, around.side, around.label⟩], 0⟩]
  | .construct name => [⟨[⟨.construct name, around.rank, around.side, around.label⟩], 0⟩]
  | .seq a b =>
    let seconds := productionsOf around atEnd b
    (productionsOf around false a).flatMap (fun p => seconds.map (fun q =>
      ⟨p.steps ++ q.steps, heavier p.weight q.weight⟩))
  | .choice a b => productionsOf around atEnd a ++ productionsOf around atEnd b
  | .repeated r => productionsOf around atEnd r
  | .ranked rank side r =>
    let inner := productionsOf
      { around with rank := innerRank around.rank rank, side := side.or around.side } atEnd r
    if atEnd then inner
    else inner.map (fun p => { p with steps := restoreLast around rank side p.steps })
  | .weighted weight r =>
    (productionsOf around atEnd r).map (fun p => { p with weight := heavier weight p.weight })
  | .field name r =>
    productionsOf { around with label := { around.label with field := some name } } atEnd r
  | .shown kind named r =>
    productionsOf { around with label := { around.label with shown := some (kind, named) } }
      atEnd r

/-! ### Inlined constructs -/

/-- The steps that replace an inlined step: they take over what is said about it. -/
def takeOver (step : Step) (steps : List Step) : List Step :=
  let labelled := steps.map (fun s => { s with
    label := ⟨step.label.shown.or s.label.shown, step.label.field.or s.label.field⟩ })
  match labelled.getLast? with
  | none => []
  | some last => labelled.dropLast ++ [{ last with
      rank := innerRank step.rank last.rank
      side := last.side.or step.side }]

/-- The productions that take the place of a step; `depth` bounds how deeply inlined constructs
    hold each other. -/
def inlineStep (bodies : List (String × List Production)) : Nat → Step → List Production
  | 0, step => [⟨[step], 0⟩]
  | depth + 1, step =>
    match step.symbol with
    | .terminal _ => [⟨[step], 0⟩]
    | .construct name =>
      match bodies.lookup name with
      | none => [⟨[step], 0⟩]
      | some productions =>
        productions.flatMap (fun p =>
          (p.steps.foldl (fun (done : List Production) s =>
            done.flatMap (fun d => (inlineStep bodies depth s).map (fun q =>
              ⟨d.steps ++ q.steps, heavier d.weight q.weight⟩))) [⟨[], p.weight⟩]).map
          (fun q => { q with steps := takeOver step q.steps }))

/-- A production without inlined constructs. -/
def inlineAll (bodies : List (String × List Production)) (p : Production) : List Production :=
  p.steps.foldl (fun (done : List Production) s =>
    done.flatMap (fun d => (inlineStep bodies bodies.length s).map (fun q =>
      ⟨d.steps ++ q.steps, heavier d.weight q.weight⟩))) [⟨[], p.weight⟩]

/-! ### All productions -/

/-- The constructs of a grammar with their productions; those of its repetitions come last. The
    flag tells that a construct is a repetition. -/
def Grammar.productions (g : Grammar) : List (String × Bool × List Production) :=
  let (rules, repetitions) := (g.rules.mapM (fun (r : String × Rule) => do
    return (r.1, ← unroll r.2)) : StateM Repetitions _).run []
  let all := rules.map (fun r => (r.1, false, r.2)) ++
    repetitions.map (fun r => (r.2, true, repetitionRule r.1 r.2))
  let flat := all.map (fun r => (r.1, r.2.1, productionsOf .nothing true r.2.2))
  let bodies := (flat.filter (fun r => g.inlined.contains r.1)).map (fun r => (r.1, r.2.2))
  (flat.filter (fun r => !g.inlined.contains r.1)).map (fun r =>
    (r.1, r.2.1, r.2.2.flatMap (inlineAll bodies)))

end PackageAtlas.Syntax
