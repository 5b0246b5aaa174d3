import Mathlib.Data.List.Lex
import Mathlib.Logic.Relation
import PackageAtlas.Proofs.Declaration.Index

namespace PackageAtlas.Declaration

open Relation (ReflTransGen)
open Syntax (Node Extent)

/-!
# Records in the order of the tree

The declarations of a tree are found by a list of pending visits. What comes out is told here by
the tree alone:

* `Occurrence`: a node with what it lies below, and the way to it from the root;
* `Occurrence.shape`, `Occurrence.span`, `Occurrence.record?`: what a node says together with what
  it lies below;
* `preorder`: a node, then what lies below each of its named children in turn;
* `mem_preorder_iff`, `pairwise_preorder`: every node that can be reached is there once, in order;
* `recordsAfter_visits`: what the pending visits stand for;
* `records_follow_preorder`: the records of a tree.
-/

/-! ### Occurrences -/

/-- A node of a tree, with the nodes it lies below, nearest first, and the numbers of the named
    children that lead to it. -/
structure Occurrence where
  node : Node
  above : List Node
  place : List Nat

namespace Occurrence

/-- The root of a tree. -/
def root (n : Node) : Occurrence := ⟨n, [], []⟩

/-- The named children of a node, in source order. -/
def children (o : Occurrence) : List Occurrence :=
  o.node.namedChildren.mapIdx (fun i c => ⟨c, o.node :: o.above, o.place ++ [i]⟩)

/-- A node is a named child of another. -/
def IsChild (o c : Occurrence) : Prop := c ∈ o.children

/-- What decides whether a node is a declaration: its kind, that of its parent, whether anything it
    lies below opens a local scope, and whether it is a block that adds to the global scope. -/
def shape (o : Occurrence) : Shape where
  kind := o.node.kind
  parent := o.above.head?.map Node.kind
  isLocal := o.above.any (fun a => opensLocalScope a.kind)
  isGlobal := o.node.kind == "ambient_declaration" &&
    o.node.children.any (fun c => c.kind == "global")

/-- What a declaration covers: the outermost of the wrappers that follow each other around it, from
    its parent on; the node itself if its parent is no wrapper. -/
def span (o : Occurrence) : Extent :=
  ((o.above.takeWhile (fun a => isWrapper a.kind)).getLast?.getD o.node).extent

/-- The record of a node, if it is a declaration. -/
def record? (file : String) (src : Source) (o : Occurrence) : Option Record :=
  (classify o.shape).map (fun k =>
    { kind := k
      name := declaredName src o.node
      file := file
      startLine := startLineOf o.span
      endLine := endLineOf o.span
      signature := signatureAt src (startLineOf o.span) })

theorem mem_children_iff {o c : Occurrence} :
    c ∈ o.children ↔ ∃ i n, o.node.namedChildren[i]? = some n ∧
      c = ⟨n, o.node :: o.above, o.place ++ [i]⟩ := by
  unfold children
  rw [List.mem_iff_getElem?]
  simp only [List.getElem?_mapIdx, Option.map_eq_some_iff]
  constructor
  · rintro ⟨i, n, hn, rfl⟩
    exact ⟨i, n, hn, rfl⟩
  · rintro ⟨i, n, hn, rfl⟩
    exact ⟨i, n, hn, rfl⟩

theorem sizeOf_lt_of_mem_children {o c : Occurrence} (h : c ∈ o.children) :
    sizeOf c.node < sizeOf o.node := by
  obtain ⟨i, n, hn, rfl⟩ := mem_children_iff.mp h
  have hmem : n ∈ o.node.children := (List.mem_filter.mp (List.mem_of_getElem? hn)).1
  exact Node.sizeOf_lt_of_mem_children hmem

end Occurrence

open Occurrence (IsChild)

/-- A node and all that is reached from it through named children: each node before its children,
    and these from left to right. -/
def preorder (o : Occurrence) : List Occurrence :=
  o :: o.children.attach.flatMap (fun c => preorder c.1)
  termination_by sizeOf o.node
  decreasing_by exact Occurrence.sizeOf_lt_of_mem_children c.2

theorem preorder_eq (o : Occurrence) : preorder o = o :: o.children.flatMap preorder := by
  rw [preorder]
  congr 1
  rw [List.flatMap_def, List.flatMap_def, List.map_attach_eq_pmap, List.pmap_eq_map]

/-! ### Every node once -/

/-- Everything that can be reached is listed, and nothing else. -/
theorem mem_preorder_iff {o c : Occurrence} : c ∈ preorder o ↔ ReflTransGen IsChild o c := by
  constructor
  · -- By the recursion of the listing in one direction, along the way from the top in the other.
    intro h
    induction o using preorder.induct with
    | case1 o ih =>
      rw [preorder_eq, List.mem_cons, List.mem_flatMap] at h
      rcases h with rfl | ⟨d, hd, hc⟩
      · exact .refl
      · exact .head hd (ih ⟨d, hd⟩ hc)
  · intro h
    induction h using ReflTransGen.head_induction_on with
    | refl =>
      rw [preorder_eq]
      exact List.mem_cons_self
    | head hd _ ih =>
      rw [preorder_eq]
      exact List.mem_cons_of_mem _ (List.mem_flatMap.mpr ⟨_, hd, ih⟩)

/-- The way to a node starts with the way to what it lies below. -/
theorem prefix_of_mem_preorder {o c : Occurrence} (h : c ∈ preorder o) : o.place <+: c.place := by
  induction mem_preorder_iff.mp h with
  | refl => exact List.prefix_rfl
  | tail hreach hchild ih =>
    obtain ⟨i, n, -, rfl⟩ := Occurrence.mem_children_iff.mp hchild
    exact (ih (mem_preorder_iff.mpr hreach)).trans (List.prefix_append _ _)

/-- What is reached through a child comes behind what the child lies below. -/
theorem place_lt_of_prefix {front place : List Nat} {i : Nat} (h : front ++ [i] <+: place) :
    front < place := by
  obtain ⟨rest, rfl⟩ := h
  rw [List.append_assoc]
  conv_lhs => rw [← List.append_nil front]
  exact List.Lex.append_left _ List.Lex.nil _

/-- What is reached through one child comes before what is reached through a later one. -/
theorem place_lt_of_lt {front place place' : List Nat} {i j : Nat} (hij : i < j)
    (h : front ++ [i] <+: place) (h' : front ++ [j] <+: place') : place < place' := by
  obtain ⟨rest, rfl⟩ := h
  obtain ⟨rest', rfl⟩ := h'
  rw [List.append_assoc, List.append_assoc]
  exact List.Lex.append_left _ (List.Lex.rel hij) _

/-- Nodes are listed in the order of the ways to them, each of them once. -/
theorem pairwise_preorder (o : Occurrence) :
    (preorder o).Pairwise (fun a b => a.place < b.place) := by
  induction o using preorder.induct with
  | case1 o ih =>
    rw [preorder_eq, List.pairwise_cons]
    constructor
    · intro c hc
      obtain ⟨d, hd, hcd⟩ := List.mem_flatMap.mp hc
      obtain ⟨i, n, -, rfl⟩ := Occurrence.mem_children_iff.mp hd
      exact place_lt_of_prefix (prefix_of_mem_preorder hcd)
    · rw [List.pairwise_flatMap]
      refine ⟨fun d hd => ih ⟨d, hd⟩, ?_⟩
      -- Two children: all ways through the first come before all ways through the second.
      rw [Occurrence.children, List.pairwise_iff_getElem]
      intro i j hi hj hij a ha b hb
      rw [List.getElem_mapIdx] at ha hb
      exact place_lt_of_lt hij (prefix_of_mem_preorder ha) (prefix_of_mem_preorder hb)

/-! ### Visits -/

/-- What the nodes that a node lies below say about it. -/
def Surroundings.of (above : List Node) : Surroundings where
  parent := above.head?.map Node.kind
  isLocal := above.any (fun a => opensLocalScope a.kind)
  wrapper := (above.takeWhile (fun a => isWrapper a.kind)).getLast?.map Node.extent

/-- What is told to the children of a node is what they lie below. -/
theorem Surroundings.inside_of (above : List Node) (n : Node) :
    (Surroundings.of above).inside n = .of (n :: above) := by
  unfold Surroundings.inside Surroundings.of
  congr 1
  · rw [List.any_cons, Bool.or_comm]
  · rw [List.takeWhile_cons]
    split
    · simp only
      rw [List.getLast?_cons, Option.map_some, Option.getD_map]
    · rfl

namespace Occurrence

/-- The visit of a node. -/
def visit (o : Occurrence) : Visit := ⟨o.node, .of o.above⟩

theorem next_visit (o : Occurrence) : o.visit.next = o.children.map visit := by
  apply List.ext_getElem?
  intro i
  rw [children, Visit.next, List.getElem?_map, List.getElem?_map, List.getElem?_mapIdx,
    Option.map_map]
  congr 1
  funext n
  show (⟨n, (Surroundings.of o.above).inside o.node⟩ : Visit) = ⟨n, .of (o.node :: o.above)⟩
  rw [Surroundings.inside_of]

theorem shapeOf_visit (o : Occurrence) :
    shapeOf o.visit.surroundings o.visit.node = o.shape := rfl

/-- A node and the wrappers around it cover what its visit says. -/
theorem record?_of_classify {file : String} {src : Source} {o : Occurrence} {k : Kind}
    (h : classify o.shape = some k) :
    o.record? file src = some (record file src o.visit.surroundings o.visit.node k) := by
  have hspan : o.span = (o.visit.surroundings.wrapper).getD o.visit.node.extent := by
    show _ = (Option.map Node.extent _).getD o.node.extent
    rw [Option.getD_map]
    rfl
  rw [record?, h, Option.map_some, hspan]
  rfl

end Occurrence

/-- **Pending visits.** The visits of some nodes stand for the records of all that is reached from
    them, in the order of the nodes. -/
theorem recordsAfter_visits (file : String) (src : Source) (done : List Record)
    (os : List Occurrence) :
    recordsAfter file src done (os.map Occurrence.visit) =
      done.reverse ++ os.flatMap (fun o => (preorder o).filterMap (Occurrence.record? file src)) := by
  -- By the recursion of the visits: what is visited is replaced by its children, before the others.
  generalize hvs : os.map Occurrence.visit = vs
  induction done, vs using recordsAfter.induct file src generalizing os with
  | case1 done =>
    obtain rfl := List.map_eq_nil_iff.mp hvs
    rw [recordsAfter_nil, List.flatMap_nil, List.append_nil]
  | case2 done v vs _ k hk ih =>
    obtain ⟨o, os, rfl, rfl, rfl⟩ := List.map_eq_cons_iff.mp hvs
    rw [recordsAfter_of_some hk, ih (o.children ++ os) (by rw [List.map_append, o.next_visit]),
      List.reverse_cons, List.append_assoc, List.flatMap_cons, preorder_eq, List.filterMap_cons,
      Occurrence.record?_of_classify (by rw [← o.shapeOf_visit]; exact hk), List.flatMap_append,
      List.filterMap_flatMap]
    rfl
  | case3 done v vs _ hk ih =>
    obtain ⟨o, os, rfl, rfl, rfl⟩ := List.map_eq_cons_iff.mp hvs
    have hnone : o.record? file src = none := by
      rw [Occurrence.record?, ← o.shapeOf_visit, hk, Option.map_none]
    rw [recordsAfter_of_none hk, ih (o.children ++ os) (by rw [List.map_append, o.next_visit]),
      List.flatMap_cons, preorder_eq, List.filterMap_cons, hnone, List.flatMap_append,
      List.filterMap_flatMap]

/-- **Records follow the tree.** The records of a tree are those of its declarations in the order in
    which its nodes are listed, which holds every node that is reached from the root through named
    children, once and in order. -/
theorem records_follow_preorder (file : String) (bytes : ByteArray) (root : Node) :
    records file bytes root =
      (preorder (.root root)).filterMap (Occurrence.record? file (Source.ofBytes bytes)) ∧
    (∀ o, o ∈ preorder (.root root) ↔ ReflTransGen IsChild (.root root) o) ∧
    (preorder (.root root)).Pairwise (fun a b => a.place < b.place) := by
  refine ⟨?_, fun o => mem_preorder_iff, pairwise_preorder _⟩
  have hvisits := recordsAfter_visits file (Source.ofBytes bytes) [] [.root root]
  rw [List.flatMap_singleton] at hvisits
  exact hvisits

end PackageAtlas.Declaration
