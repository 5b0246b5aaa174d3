import Mathlib.Data.List.Basic

namespace PackageAtlas

/-!
# The first of each key

Packages are listed by their names, and files of documentation are copied by their spelling: of all
elements that have a key in common the first is left, and no other one.

* `firstBy`: the first element of each key;
* `firstBy_sublist`, `pairwise_firstBy`: elements stay in their order, and no two have the same key;
* `filter_firstBy`: for each key that has not been seen, the first element of that key is left;
* `firstBy_concat`: whether the last element is left depends on those before it.
-/

variable {α β : Type} [DecidableEq β] {key : α → β} {seen : List β} {xs : List α} {x : α} {k : β}

/-- The first element of each key that is not in `seen`. -/
def firstBy (key : α → β) (seen : List β) : List α → List α
  | [] => []
  | x :: xs =>
    if seen.contains (key x) then firstBy key seen xs else x :: firstBy key (key x :: seen) xs

theorem firstBy_cons_of_mem (h : key x ∈ seen) :
    firstBy key seen (x :: xs) = firstBy key seen xs :=
  if_pos (List.contains_iff_mem.mpr h)

theorem firstBy_cons_of_notMem (h : key x ∉ seen) :
    firstBy key seen (x :: xs) = x :: firstBy key (key x :: seen) xs :=
  if_neg (by simpa using h)

theorem firstBy_sublist (key : α → β) (seen : List β) (xs : List α) :
    (firstBy key seen xs).Sublist xs := by
  induction xs generalizing seen with
  | nil => exact List.Sublist.refl _
  | cons x xs ih =>
    unfold firstBy
    split
    · exact (ih seen).cons x
    · exact (ih _).cons_cons x

theorem key_notMem_of_mem_firstBy (h : x ∈ firstBy key seen xs) : key x ∉ seen := by
  induction xs generalizing seen with
  | nil => simp [firstBy] at h
  | cons y xs ih =>
    by_cases hy : key y ∈ seen
    · rw [firstBy_cons_of_mem hy] at h
      exact ih h
    · rw [firstBy_cons_of_notMem hy] at h
      rcases List.mem_cons.mp h with rfl | h
      · exact hy
      · exact fun hx => ih h (List.mem_cons_of_mem _ hx)

/-- No two elements that are left have the same key. -/
theorem pairwise_firstBy (key : α → β) (seen : List β) (xs : List α) :
    (firstBy key seen xs).Pairwise (fun x y => key x ≠ key y) := by
  induction xs generalizing seen with
  | nil => exact List.Pairwise.nil
  | cons x xs ih =>
    unfold firstBy
    split
    · exact ih seen
    · refine List.pairwise_cons.mpr ⟨fun y hy heq => ?_, ih _⟩
      exact key_notMem_of_mem_firstBy hy (heq ▸ List.mem_cons_self)

/-- **The first of each key.** Of the elements of a key, the first is left. -/
theorem filter_firstBy (hk : k ∉ seen) (xs : List α) :
    (firstBy key seen xs).filter (fun x => key x == k) =
      (xs.find? (fun x => key x == k)).toList := by
  induction xs generalizing seen with
  | nil => rfl
  | cons x xs ih =>
    by_cases hx : key x = k
    · -- This is the first one, and no other one is left behind it.
      have hrest : (firstBy key (key x :: seen) xs).filter (fun y => key y == k) = [] := by
        refine List.filter_eq_nil_iff.mpr (fun y hy heq => ?_)
        refine key_notMem_of_mem_firstBy hy ?_
        rw [eq_of_beq heq, hx]
        exact List.mem_cons_self
      rw [firstBy_cons_of_notMem (hx ▸ hk), List.filter_cons_of_pos (by simpa using hx), hrest,
        List.find?_cons_of_pos (by simpa using hx)]
      rfl
    · rw [List.find?_cons_of_neg (by simpa using hx)]
      by_cases hseen : key x ∈ seen
      · rw [firstBy_cons_of_mem hseen]
        exact ih hk
      · rw [firstBy_cons_of_notMem hseen, List.filter_cons_of_neg (by simpa using hx), ih]
        exact List.not_mem_cons_of_ne_of_not_mem (Ne.symm hx) hk

/-- What is left is the first element of its key. -/
theorem find?_of_mem_firstBy (h : x ∈ firstBy key seen xs) :
    xs.find? (fun y => key y == key x) = some x := by
  have hmem : x ∈ (firstBy key seen xs).filter (fun y => key y == key x) :=
    List.mem_filter.mpr ⟨h, beq_self_eq_true _⟩
  rwa [filter_firstBy (key_notMem_of_mem_firstBy h), Option.mem_toList] at hmem

/-- No key is lost. -/
theorem exists_key_of_mem (h : x ∈ xs) (hx : key x ∉ seen) :
    ∃ y ∈ firstBy key seen xs, key y = key x := by
  obtain ⟨y, hy⟩ : ∃ y, xs.find? (fun y => key y == key x) = some y :=
    Option.isSome_iff_exists.mp (List.find?_isSome.mpr ⟨x, h, beq_self_eq_true _⟩)
  have hmem : y ∈ (firstBy key seen xs).filter (fun y => key y == key x) := by
    rw [filter_firstBy hx, hy]
    exact List.mem_singleton_self y
  obtain ⟨hleft, hkey⟩ := List.mem_filter.mp hmem
  exact ⟨y, hleft, eq_of_beq hkey⟩

/-- The last element is left if its key is not that of something before it. -/
theorem firstBy_concat (key : α → β) (seen : List β) (xs : List α) (x : α) :
    firstBy key seen (xs ++ [x]) =
      firstBy key seen xs ++ if key x ∈ seen ∨ key x ∈ xs.map key then [] else [x] := by
  induction xs generalizing seen with
  | nil => simp [firstBy]
  | cons y xs ih =>
    rw [List.cons_append, List.map_cons]
    by_cases hy : key y ∈ seen
    · have hmem : key x ∈ seen ∨ key x ∈ key y :: xs.map key ↔
          key x ∈ seen ∨ key x ∈ xs.map key := by
        rw [List.mem_cons]
        refine ⟨?_, Or.imp_right Or.inr⟩
        rintro (h | h | h)
        · exact Or.inl h
        · exact Or.inl (h ▸ hy)
        · exact Or.inr h
      rw [firstBy_cons_of_mem hy, firstBy_cons_of_mem hy, ih]
      simp only [hmem]
    · have hmem : key x ∈ key y :: seen ∨ key x ∈ xs.map key ↔
          key x ∈ seen ∨ key x ∈ key y :: xs.map key := by
        rw [List.mem_cons, List.mem_cons, or_assoc, or_left_comm]
      rw [firstBy_cons_of_notMem hy, firstBy_cons_of_notMem hy, ih, List.cons_append]
      simp only [hmem]

end PackageAtlas
