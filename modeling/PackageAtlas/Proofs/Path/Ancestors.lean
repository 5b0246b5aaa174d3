import Mathlib.Data.List.Infix
import PackageAtlas.Proofs.Path.Parts

namespace PackageAtlas.Path

/-!
# What paths lie below

What a path lies below is found by dropping its last piece again and again, until nothing is
dropped any more:

* `length_parent_lt`: a path from which something is dropped gets shorter, so this comes to an end;
* `ancestors_of_parent_eq`, `ancestors_of_parent_ne`: what is found, without a count of the steps;
* `ancestor_induction`: what holds at the end and on each step down holds of every path;
* `mem_ancestors_iff`: a normal path lies below those whose names it starts with.
-/

variable {text above : String}

/-! ### Dropping the last piece -/

theorem parent_isPrefix (text : String) : (parent text).toList <+: text.toList := by
  rw [parent]
  rcases split_cases text with ⟨-, hcut⟩ | ⟨head, name, htext, -, hcut⟩
  · rw [hcut]
    exact List.nil_prefix
  · rw [hcut, htext, String.toList_ofList]
    split
    · exact List.prefix_append _ _
    · exact (dropSlashes_isPrefix head).trans (by simp)

/-- A path from which something is dropped gets shorter. -/
theorem length_parent_lt (h : parent text ≠ text) : (parent text).length < text.length := by
  have hfront := parent_isPrefix text
  rw [← String.length_toList, ← String.length_toList]
  refine Nat.lt_of_le_of_ne hfront.length_le (fun hlength => h ?_)
  exact String.toList_inj.mp (hfront.eq_of_length hlength)

/-- What holds of a path from which nothing can be dropped, and of every other if it holds of what
    that one lies below, holds of all paths. -/
theorem ancestor_induction {motive : String → Prop}
    (ended : ∀ text, parent text = text → motive text)
    (down : ∀ text, parent text ≠ text → motive (parent text) → motive text) (text : String) :
    motive text := by
  induction hn : text.length using Nat.strong_induction_on generalizing text with
  | _ n ih =>
    by_cases hself : parent text = text
    · exact ended text hself
    · exact down text hself (ih _ (hn ▸ length_parent_lt hself) _ rfl)

/-! ### All that a path lies below -/

theorem ancestorsUpTo_of_parent_eq (h : parent text = text) (fuel : Nat) :
    ancestorsUpTo fuel text = [text] := by
  cases fuel with
  | zero => rfl
  | succ fuel => rw [ancestorsUpTo, if_pos (by simpa using h)]

/-- More steps than a path has characters find nothing more. -/
theorem ancestorsUpTo_of_length_le {fuel : Nat} (h : text.length ≤ fuel) :
    ancestorsUpTo fuel text = ancestors text := by
  rw [ancestors]
  generalize hn : text.length = n
  -- Both numbers of steps are enough for the path, and then for what it lies below.
  replace hn : text.length ≤ n := hn.le
  induction fuel generalizing text n with
  | zero =>
    have hself : parent text = text := by
      by_contra hne
      have := length_parent_lt hne
      omega
    rw [ancestorsUpTo_of_parent_eq hself, ancestorsUpTo_of_parent_eq hself]
  | succ fuel ih =>
    by_cases hself : parent text = text
    · rw [ancestorsUpTo_of_parent_eq hself, ancestorsUpTo_of_parent_eq hself]
    · have hlt := length_parent_lt hself
      obtain ⟨m, rfl⟩ : ∃ m, n = m + 1 := ⟨n - 1, by omega⟩
      rw [ancestorsUpTo, ancestorsUpTo, if_neg (by simpa using hself), if_neg (by simpa using hself),
        ih (by omega) m (by omega)]

theorem ancestors_of_parent_eq (h : parent text = text) : ancestors text = [text] :=
  ancestorsUpTo_of_parent_eq h _

theorem ancestors_of_parent_ne (h : parent text ≠ text) :
    ancestors text = text :: ancestors (parent text) := by
  have hlt := length_parent_lt h
  rw [← ancestorsUpTo_of_length_le (Nat.le_succ text.length), ancestorsUpTo,
    if_neg (by simpa using h), ancestorsUpTo_of_length_le hlt.le]

theorem mem_ancestors_self (text : String) : text ∈ ancestors text := by
  by_cases h : parent text = text
  · rw [ancestors_of_parent_eq h]
    exact List.mem_singleton_self text
  · rw [ancestors_of_parent_ne h]
    exact List.mem_cons_self

/-- What a path lies below is shorter. -/
theorem eq_or_length_lt_of_mem_ancestors (h : above ∈ ancestors text) :
    above = text ∨ above.length < text.length := by
  induction text using ancestor_induction with
  | ended text hself =>
    rw [ancestors_of_parent_eq hself] at h
    exact Or.inl (List.mem_singleton.mp h)
  | down text hne ih =>
    have hlt := length_parent_lt hne
    rw [ancestors_of_parent_ne hne] at h
    rcases List.mem_cons.mp h with rfl | h
    · exact Or.inl rfl
    · rcases ih h with rfl | hshort
      · exact Or.inr hlt
      · exact Or.inr (hshort.trans hlt)

/-- What is found first on the way up lies below all that could be found later. -/
theorem mem_ancestors_of_find? {f : String → Bool} (h : (ancestors text).find? f = some above)
    {other : String} (hother : other ∈ ancestors text) (hf : f other = true) :
    other ∈ ancestors above := by
  induction text using ancestor_induction with
  | ended text hself =>
    rw [ancestors_of_parent_eq hself, List.mem_singleton] at hother
    have hmem := List.mem_of_find?_eq_some h
    rw [ancestors_of_parent_eq hself, List.mem_singleton] at hmem
    rw [hother, hmem]
    exact mem_ancestors_self text
  | down text hne ih =>
    rw [ancestors_of_parent_ne hne, List.find?_cons] at h
    -- Either the path itself is found, or the other one lies above it.
    split at h
    · rw [← Option.some.inj h]
      exact hother
    · rename_i hnot
      rw [ancestors_of_parent_ne hne] at hother
      rcases List.mem_cons.mp hother with rfl | hother
      · rw [hf] at hnot
        simp at hnot
      · exact ih h hother

/-! ### Normal paths -/

section

variable {mark : String} {ns : List String}

/-- A normal path lies below what its mark makes of each of the first parts of its names. -/
theorem ancestors_mark_append (hmark : mark = "/" ∨ mark = "//") (hns : ∀ n ∈ ns, IsName n) :
    ancestors (mark ++ ofNames ns) = ns.inits.reverse.map (fun front => mark ++ ofNames front) := by
  induction ns using List.reverseRecOn with
  | nil =>
    rw [ancestors_of_parent_eq (by rcases hmark with rfl | rfl <;> decide)]
    rfl
  | append_singleton front name ih =>
    have hfront : ∀ n ∈ front, IsName n := fun n hn => hns n (by simp [hn])
    have hparent := parent_mark_append hmark hfront (hns name (by simp))
    -- A path with names lies below another one: it has one name more.
    have hne : parent (mark ++ ofNames (front ++ [name])) ≠ mark ++ ofNames (front ++ [name]) := by
      rw [hparent]
      intro heq
      have hnames := congrArg normalNames heq
      rw [normalNames_mark_append hmark hfront, normalNames_mark_append hmark hns] at hnames
      simp at hnames
    rw [ancestors_of_parent_ne hne, hparent, ih hfront, List.inits_append]
    simp

end

/-- A normal path lies below the normal paths whose names it starts with. -/
theorem mem_ancestors_iff (h : IsNormal text) :
    above ∈ ancestors text ↔ IsNormal above ∧ LiesBelow above text := by
  obtain ⟨mark, ns, hmark, hns, rfl⟩ := h
  simp only [ancestors_mark_append hmark hns, List.mem_map, List.mem_reverse, List.mem_inits]
  constructor
  · rintro ⟨front, hfront, rfl⟩
    have hnames : ∀ n ∈ front, IsName n := fun n hn => hns n (hfront.subset hn)
    refine ⟨⟨mark, front, hmark, hnames, rfl⟩, ?_, ?_⟩
    · rw [rootMark_mark_append hmark hns, rootMark_mark_append hmark hnames]
    · rwa [normalNames_mark_append hmark hns, normalNames_mark_append hmark hnames]
  · rintro ⟨⟨mark', front, hmark', hnames, rfl⟩, hroot, hprefix⟩
    rw [rootMark_mark_append hmark hns, rootMark_mark_append hmark' hnames] at hroot
    rw [normalNames_mark_append hmark hns, normalNames_mark_append hmark' hnames] at hprefix
    exact ⟨front, hprefix, by rw [hroot]⟩

end PackageAtlas.Path
