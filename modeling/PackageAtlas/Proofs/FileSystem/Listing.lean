import Mathlib.Data.List.Nodup
import PackageAtlas.FileSystem.Walk
import PackageAtlas.Proofs.FileSystem.Changes

namespace PackageAtlas.FileSystem

/-!
# Directories list each entry once

A directory lists its entries in the order of their code points, each of them once, and in whatever
order the entries of a file system are told:

* `Distinct`: a file system tells one entry for each location; `Reached.distinct`: all that changes
  lead to do;
* `pairwise_sortNames`, `perm_sortNames`: names in order are the same names;
* `Distinct.pairwise_names`: so a directory lists its entries one behind the other;
* `Distinct.at?_eq_of_perm`: the order in which entries are told does not matter;
* `length_le_depth`: nothing lies deeper than the depth of a file system.
-/

variable {fs fs' : FileSystem} {here : Standpoint} {dir loc : Location} {entry : Entry}

/-! ### One entry for each location -/

/-- There is one entry for each location. -/
def Distinct (fs : FileSystem) : Prop := (fs.nodes.map Prod.fst).Nodup

instance (fs : FileSystem) : Decidable fs.Distinct :=
  inferInstanceAs (Decidable (fs.nodes.map Prod.fst).Nodup)

theorem Distinct.put (h : fs.Distinct) : (fs.put loc entry).Distinct := by
  rw [Distinct, FileSystem.put, List.map_cons, List.nodup_cons]
  refine ⟨fun hmem => ?_, h.sublist (List.filter_sublist.map Prod.fst)⟩
  -- What was there has been taken away.
  obtain ⟨e, he, hloc⟩ := List.mem_map.mp hmem
  simpa [hloc] using (List.mem_filter.mp he).2

theorem Distinct.erase (h : fs.Distinct) : (fs.erase loc).Distinct :=
  h.sublist (List.filter_sublist.map Prod.fst)

/-- **Changes keep entries apart.** -/
theorem Reached.distinct (h : Reached fs here) : fs.Distinct := by
  induction h with
  | empty => exact List.nodup_nil
  | makeDirectories path _ ih =>
    exact maintains_makeDirectoriesUpTo (Q := fun _ => True) (fun _ _ _ _ _ => trivial)
      (fun _ _ => maintains_makeDirectory (fun _ _ hfs _ _ => hfs.put)) _ path trivial _ ih
  | write path bytes _ ih => exact maintains_write (fun _ _ hfs _ _ => hfs.put) _ ih
  | copy source target _ ih => exact maintains_copy (fun _ _ _ hfs _ _ _ => hfs.put) _ ih
  | addLink path target _ ih => exact maintains_addLink (fun _ _ hfs _ _ => hfs.put) _ ih
  | remove path _ hok ih =>
    rw [eq_erase_of_remove hok]
    exact ih.erase
  | move path _ _ ih => exact ih

/-- What is told of a location is what is found there. -/
theorem Distinct.lookup_of_mem (h : fs.Distinct) (hmem : (loc, entry) ∈ fs.nodes) :
    fs.nodes.lookup loc = some entry := by
  unfold Distinct at h
  generalize fs.nodes = nodes at h hmem ⊢
  induction nodes with
  | nil => simp at hmem
  | cons e es ih =>
    rw [List.map_cons, List.nodup_cons] at h
    rw [List.lookup_cons]
    rcases List.mem_cons.mp hmem with rfl | hmem
    · rw [beq_self_eq_true]
    · -- What is told before it is told of another location.
      have hne : (loc == e.1) = false := by
        rw [beq_eq_false_iff_ne]
        rintro rfl
        exact h.1 (List.mem_map.mpr ⟨_, hmem, rfl⟩)
      rw [hne]
      exact ih h.2 hmem

/-- The order in which entries are told does not matter for what is found. -/
theorem Distinct.at?_eq_of_perm (h : fs.Distinct) (hperm : fs'.nodes.Perm fs.nodes)
    (loc : Location) : fs'.at? loc = fs.at? loc := by
  have h' : fs'.Distinct := (hperm.map Prod.fst).nodup_iff.mpr h
  by_cases hne : loc = []
  · rw [hne, at?_nil, at?_nil]
  · refine Option.ext (fun entry => ⟨fun hat => ?_, fun hat => ?_⟩)
    · rw [at?, if_neg hne]
      exact h.lookup_of_mem (hperm.mem_iff.mp (mem_of_at? hne hat))
    · rw [at?, if_neg hne]
      exact h'.lookup_of_mem (hperm.mem_iff.mpr (mem_of_at? hne hat))

theorem WellFormed.of_perm (hfs : fs.WellFormed) (h : fs.Distinct)
    (hperm : fs'.nodes.Perm fs.nodes) : fs'.WellFormed := by
  refine ⟨fun e he => hfs.names e (hperm.mem_iff.mp he), fun e he => ?_⟩
  rw [h.at?_eq_of_perm hperm]
  exact hfs.parents e (hperm.mem_iff.mp he)

/-! ### Names in order -/

theorem pairwise_insertName {name : String} {ns : List String} (h : ns.Pairwise (· ≤ ·)) :
    (insertName name ns).Pairwise (· ≤ ·) := by
  induction ns with
  | nil => simp [insertName]
  | cons n ns ih =>
    obtain ⟨hn, hns⟩ := List.pairwise_cons.mp h
    unfold insertName
    split
    · rename_i hle
      refine List.pairwise_cons.mpr ⟨fun m hm => ?_, h⟩
      rcases List.mem_cons.mp hm with rfl | hm
      · exact hle
      · exact String.le_trans hle (hn m hm)
    · rename_i hlt
      have hle : n ≤ name := (String.le_total name n).resolve_left hlt
      refine List.pairwise_cons.mpr ⟨fun m hm => ?_, ih hns⟩
      rcases mem_insertName.mp hm with rfl | hm
      · exact hle
      · exact hn m hm

theorem pairwise_sortNames (ns : List String) : (sortNames ns).Pairwise (· ≤ ·) := by
  induction ns with
  | nil => exact List.Pairwise.nil
  | cons n ns ih => exact pairwise_insertName ih

theorem perm_insertName (name : String) (ns : List String) :
    (insertName name ns).Perm (name :: ns) := by
  induction ns with
  | nil => exact List.Perm.refl _
  | cons n ns ih =>
    unfold insertName
    split
    · exact List.Perm.refl _
    · exact (ih.cons n).trans (List.Perm.swap name n ns)

theorem perm_sortNames (ns : List String) : (sortNames ns).Perm ns := by
  induction ns with
  | nil => exact List.Perm.refl _
  | cons n ns ih => exact (perm_insertName n (sortNames ns)).trans (ih.cons n)

/-- **Listings.** A directory lists its entries in the order of their code points, each of them
    once. -/
theorem Distinct.pairwise_names (h : fs.Distinct) (dir : Location) :
    (fs.names dir).Pairwise (· < ·) := by
  have hentries : fs.nodes.filterMap (fun e => entryName? dir e.1) =
      (fs.nodes.map Prod.fst).filterMap (entryName? dir) := by
    rw [List.filterMap_map]
    rfl
  have honce : (fs.names dir).Nodup := by
    rw [names, (perm_sortNames _).nodup_iff, hentries]
    refine h.filterMap (fun l l' name hl hl' => ?_)
    rw [entryName?_eq_some_iff.mp hl, entryName?_eq_some_iff.mp hl']
  exact ((pairwise_sortNames _).and honce).imp (fun hab => Std.lt_of_le_of_ne hab.1 hab.2)

/-! ### Depth -/

/-- Nothing lies deeper than the depth of a file system. -/
theorem length_le_depth (h : fs.at? loc = some entry) : loc.length ≤ fs.depth := by
  by_cases hne : loc = []
  · rw [hne]
    exact Nat.zero_le _
  · rw [depth, List.foldl_max, Nat.zero_max]
    exact List.le_max?_getD_of_mem
      (List.mem_map_of_mem (f := fun e => e.1.length) (mem_of_at? hne h))

end PackageAtlas.FileSystem
