import Mathlib.Data.List.Pairwise
import PackageAtlas.Proofs.Declaration.Preorder

namespace PackageAtlas

/-!
# Lines of declarations

A declaration has the lines of what it covers, together with the wrappers around it. Where a syntax
tree is nested as the source is, no text of either lies on other lines, and none of these lines lies
behind the source:

* `Syntax.Nested`: trees whose nodes end behind their starts and hold their children;
* `Syntax.Extent.HasTextOn`: the lines on which a node has text;
* `Declaration.mem_lines_of_hasTextOn`, `Declaration.endLineOf_le`: the lines of an extent;
* `Declaration.Occurrence.within_span`: what a declaration covers holds the node and the wrappers
  around it;
* `Declaration.mem_records_iff`: which nodes are declarations.
-/

/-! ### Places and extents -/

namespace Syntax

/-- A place comes no later than another, in the order in which a source is read. -/
def Point.UpTo (p q : Point) : Prop := p.row < q.row ∨ (p.row = q.row ∧ p.column ≤ q.column)

/-- A place comes earlier than another. -/
def Point.Before (p q : Point) : Prop := p.row < q.row ∨ (p.row = q.row ∧ p.column < q.column)

instance (p q : Point) : Decidable (p.UpTo q) := inferInstanceAs (Decidable (_ ∨ _))

instance (p q : Point) : Decidable (p.Before q) := inferInstanceAs (Decidable (_ ∨ _))

theorem Point.UpTo.refl (p : Point) : p.UpTo p := Or.inr ⟨rfl, Nat.le_refl _⟩

theorem Point.UpTo.trans {p q r : Point} (h : p.UpTo q) (h' : q.UpTo r) : p.UpTo r := by
  unfold Point.UpTo at *
  omega

theorem Point.Before.trans_upTo {p q r : Point} (h : p.Before q) (h' : q.UpTo r) : p.Before r := by
  unfold Point.UpTo at h'
  unfold Point.Before at *
  omega

theorem Point.UpTo.row_le {p q : Point} (h : p.UpTo q) : p.row ≤ q.row := by
  unfold Point.UpTo at h
  omega

/-- An extent lies within another. -/
def Extent.Within (e f : Extent) : Prop := f.start.UpTo e.start ∧ e.stop.UpTo f.stop

/-- A node lies within another. -/
def Node.Within (m n : Node) : Prop := m.extent.Within n.extent

instance (m n : Node) : Decidable (m.Within n) := inferInstanceAs (Decidable (_ ∧ _))

instance : Std.Refl Node.Within where
  refl n := ⟨.refl n.extent.start, .refl n.extent.stop⟩

theorem Node.Within.trans {m n o : Node} (h : m.Within n) (h' : n.Within o) : m.Within o :=
  ⟨h'.1.trans h.1, h.2.trans h'.2⟩

/-- A tree is nested: every node starts no later than it ends, and its children lie within it. -/
inductive Nested : Node → Prop where
  | intro {n : Node} (ordered : n.extent.start.UpTo n.extent.stop)
      (within : ∀ c ∈ n.children, c.Within n) (children : ∀ c ∈ n.children, Nested c) : Nested n

theorem Nested.ordered {n : Node} : Nested n → n.extent.start.UpTo n.extent.stop
  | .intro ordered _ _ => ordered

theorem Nested.child {n c : Node} (h : Nested n) (hc : c ∈ n.children) :
    Nested c ∧ c.Within n := by
  cases h with
  | intro _ within children => exact ⟨children c hc, within c hc⟩

/-- An extent has text on a line if one of its places lies there. -/
def Extent.HasTextOn (e : Extent) (line : Nat) : Prop :=
  ∃ p : Point, e.start.UpTo p ∧ p.Before e.stop ∧ line = p.row + 1

end Syntax

namespace Declaration

open Relation (ReflTransGen)
open Syntax (Extent Nested Node)
open Occurrence (IsChild)

variable {root : Node} {o : Occurrence} {file : String} {bytes : ByteArray} {r : Record}

/-! ### Lines of an extent -/

theorem startLineOf_le_endLineOf (e : Extent) : startLineOf e ≤ endLineOf e := Nat.le_max_left ..

/-- Text of an extent lies on the lines of every extent around it. -/
theorem mem_lines_of_hasTextOn {e f : Extent} {line : Nat} (h : e.HasTextOn line)
    (hwithin : e.Within f) : startLineOf f ≤ line ∧ line ≤ endLineOf f := by
  obtain ⟨p, hstart, hstop, rfl⟩ := h
  have hfirst := (hwithin.1.trans hstart).row_le
  have hlast := hstop.trans_upTo hwithin.2
  refine ⟨Nat.succ_le_succ hfirst, ?_⟩
  -- Text on the row on which the extent ends stands before its last column.
  unfold Syntax.Point.Before at hlast
  unfold endLineOf startLineOf
  split <;> omega

/-- An extent that ends within a source has no line behind it. -/
theorem endLineOf_le {e : Extent} {rows : Nat} (hordered : e.start.UpTo e.stop)
    (hstop : e.stop.row ≤ rows) : endLineOf e ≤ rows + 1 := by
  have hrow := hordered.row_le
  unfold endLineOf startLineOf
  split <;> omega

/-! ### What a declaration covers -/

namespace Occurrence

/-- A node, and the wrappers that follow each other around it, from its parent on. -/
def covered (o : Occurrence) : List Node :=
  o.node :: o.above.takeWhile (fun a => isWrapper a.kind)

theorem covered_ne_nil (o : Occurrence) : o.covered ≠ [] := List.cons_ne_nil _ _

/-- A declaration covers what the outermost of its wrappers covers. -/
theorem span_eq (o : Occurrence) : o.span = (o.covered.getLast o.covered_ne_nil).extent := by
  have hlast : some _ = some (o.covered.getLast o.covered_ne_nil) :=
    List.getLast?_cons.symm.trans (List.getLast?_eq_some_getLast o.covered_ne_nil)
  rw [Option.some.injEq] at hlast
  rw [span, hlast]

theorem covered_sublist (o : Occurrence) : o.covered.Sublist (o.node :: o.above) :=
  (List.takeWhile_sublist _).cons_cons o.node

/-- In a nested tree, what a node lies below is nested and lies around it, up to the root. -/
theorem nested_of_reach (hroot : Nested root) (h : ReflTransGen IsChild (.root root) o) :
    (∀ a ∈ o.node :: o.above, Nested a) ∧ (o.node :: o.above).Pairwise Node.Within ∧
      (o.node :: o.above).getLast? = some root := by
  induction h with
  | refl => exact ⟨by simpa [Occurrence.root] using hroot, List.pairwise_singleton _ _, rfl⟩
  | @tail parent child _ hchild ih =>
    obtain ⟨hnested, hwithin, hlast⟩ := ih
    obtain ⟨i, n, hn, rfl⟩ := mem_children_iff.mp hchild
    have hmem : n ∈ parent.node.children := (List.mem_filter.mp (List.mem_of_getElem? hn)).1
    obtain ⟨hchildNested, hchildWithin⟩ := (hnested parent.node List.mem_cons_self).child hmem
    refine ⟨List.forall_mem_cons.mpr ⟨hchildNested, hnested⟩, ?_, ?_⟩
    · -- The child lies within its parent, and so within all around that.
      refine List.pairwise_cons.mpr ⟨fun a ha => ?_, hwithin⟩
      rcases List.mem_cons.mp ha with rfl | ha
      · exact hchildWithin
      · exact hchildWithin.trans ((List.pairwise_cons.mp hwithin).1 a ha)
    · rw [List.getLast?_cons_cons]
      exact hlast

/-- What a declaration covers holds the node and all the wrappers around it. -/
theorem within_span (hroot : Nested root) (h : ReflTransGen IsChild (.root root) o) {a : Node}
    (ha : a ∈ o.covered) : a.extent.Within o.span := by
  rw [span_eq]
  exact ((nested_of_reach hroot h).2.1.sublist o.covered_sublist).rel_getLast ha

/-- What a declaration covers starts no later than it ends, and lies within the root. -/
theorem span_within_root (hroot : Nested root) (h : ReflTransGen IsChild (.root root) o) :
    o.span.start.UpTo o.span.stop ∧ o.span.Within root.extent := by
  obtain ⟨hnested, hwithin, hlast⟩ := nested_of_reach hroot h
  have houter := o.covered_sublist.subset (List.getLast_mem o.covered_ne_nil)
  rw [span_eq]
  refine ⟨(hnested _ houter).ordered, ?_⟩
  have hrel := hwithin.rel_getLast houter
  rw [List.getLast?_eq_some_getLast (List.cons_ne_nil _ _), Option.some.injEq] at hlast
  rwa [hlast] at hrel

/-- The lines of a record are those of what the declaration covers. -/
theorem lines_of_record? {src : Source} (h : o.record? file src = some r) :
    r.startLine = startLineOf o.span ∧ r.endLine = endLineOf o.span ∧
      r.signature = signatureAt src r.startLine := by
  obtain ⟨k, -, rfl⟩ := Option.map_eq_some_iff.mp h
  exact ⟨rfl, rfl, rfl⟩

end Occurrence

/-! ### Records -/

/-- The records of a tree are those of the nodes that are declarations. -/
theorem mem_records_iff :
    r ∈ records file bytes root ↔ ∃ o, ReflTransGen IsChild (.root root) o ∧
      o.record? file (Source.ofBytes bytes) = some r := by
  have hvisits := recordsAfter_visits file (Source.ofBytes bytes) [] [.root root]
  rw [List.flatMap_singleton, List.reverse_nil, List.nil_append] at hvisits
  show r ∈ recordsAfter file (Source.ofBytes bytes) [] ([.root root].map Occurrence.visit) ↔ _
  rw [hvisits, List.mem_filterMap]
  simp only [mem_preorder_iff]

/-- Lines are counted from one, and a record ends no earlier than it starts. -/
theorem startLine_le_of_mem_records (h : r ∈ records file bytes root) :
    1 ≤ r.startLine ∧ r.startLine ≤ r.endLine := by
  obtain ⟨o, -, ho⟩ := mem_records_iff.mp h
  obtain ⟨hstart, hend, -⟩ := Occurrence.lines_of_record? ho
  rw [hstart, hend]
  exact ⟨Nat.succ_pos _, startLineOf_le_endLineOf _⟩

end Declaration

end PackageAtlas
