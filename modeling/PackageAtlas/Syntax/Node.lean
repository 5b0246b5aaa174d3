namespace PackageAtlas.Syntax

/-!
# Syntax trees

A source file as a tree of nodes: each node has a kind, the place it covers, and its children in
source order. Some children are named (they carry syntax), others are tokens; a child may fill a
field of its parent.

* `Point`, `Extent`: places in a file, by row and column and by byte;
* `Node`: the tree, with `namedChildren` and `childByField`;
* `Parser`: what gives the tree of a source.
-/

/-- A place in a file: row and column, both from zero; columns count bytes. -/
structure Point where
  row : Nat
  column : Nat
deriving Repr, DecidableEq, Inhabited

/-- What a node covers. -/
structure Extent where
  start : Point
  stop : Point
  startByte : Nat
  stopByte : Nat
deriving Repr, DecidableEq, Inhabited

/-- A node of a syntax tree. -/
inductive Node where
  | mk (kind : String) (field : Option String) (named : Bool) (extent : Extent)
      (children : List Node)
deriving Inhabited

namespace Node

/-- The kind of a node, such as `class_declaration`. -/
def kind : Node → String
  | .mk k _ _ _ _ => k

/-- The field of the parent that the node fills. -/
def field : Node → Option String
  | .mk _ f _ _ _ => f

/-- Whether the node carries syntax; tokens do not. -/
def named : Node → Bool
  | .mk _ _ n _ _ => n

/-- What the node covers. -/
def extent : Node → Extent
  | .mk _ _ _ e _ => e

/-- All children, in source order. -/
def children : Node → List Node
  | .mk _ _ _ _ cs => cs

/-- The children that carry syntax, in source order. -/
def namedChildren (n : Node) : List Node := n.children.filter named

/-- The first child that fills a field. -/
def childByField (n : Node) (name : String) : Option Node :=
  n.children.find? (fun c => c.field == some name)

@[simp] theorem kind_mk (k f n e cs) : (Node.mk k f n e cs).kind = k := rfl
@[simp] theorem field_mk (k f n e cs) : (Node.mk k f n e cs).field = f := rfl
@[simp] theorem named_mk (k f n e cs) : (Node.mk k f n e cs).named = n := rfl
@[simp] theorem extent_mk (k f n e cs) : (Node.mk k f n e cs).extent = e := rfl
@[simp] theorem children_mk (k f n e cs) : (Node.mk k f n e cs).children = cs := rfl

/-- A child is smaller than its parent. -/
theorem sizeOf_lt_of_mem_children {c n : Node} (h : c ∈ n.children) : sizeOf c < sizeOf n := by
  cases n with
  | mk k f m e cs =>
    have := List.sizeOf_lt_of_mem (show c ∈ cs from h)
    simp only [Node.mk.sizeOf_spec]
    omega

end Node

/-- What gives the syntax tree of a source, if it is told whether the source may hold elements. -/
abbrev Parser := Bool → ByteArray → Node

end PackageAtlas.Syntax
