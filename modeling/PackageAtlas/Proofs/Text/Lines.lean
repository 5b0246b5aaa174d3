import Mathlib.Data.List.Basic
import PackageAtlas.Text.Lines

namespace PackageAtlas.Text

/-!
# How many lines

* `length_splitAfter`, `not_mem_of_mem_splitAfter`: pieces are told by the separators between them;
* `length_lines`: a text has one line more than it has line feeds;
* `not_mem_of_mem_lines`: no line holds a line feed;
* `count_joinLines`: so lines with line feeds between them have one line feed less.
-/

/-! ### Pieces -/

section Split

variable {α : Type} [BEq α] [LawfulBEq α] {sep : α} {done : List (List α)} {current as : List α}

/-- There is one piece more than there are separators. -/
theorem length_splitAfter (sep : α) (done : List (List α)) (current as : List α) :
    (splitAfter sep done current as).length = done.length + as.count sep + 1 := by
  induction as generalizing done current with
  | nil => simp [splitAfter]
  | cons a as ih =>
    rw [splitAfter]
    by_cases h : a = sep
    · subst h
      rw [if_pos (by simp), ih, List.length_cons, List.count_cons_self]
      omega
    · rw [if_neg (by simpa using h), ih, List.count_cons_of_ne h]

/-- No piece holds a separator. -/
theorem not_mem_of_mem_splitAfter (hdone : ∀ piece ∈ done, sep ∉ piece) (hcurrent : sep ∉ current)
    {piece : List α} (h : piece ∈ splitAfter sep done current as) : sep ∉ piece := by
  induction as generalizing done current with
  | nil =>
    rw [splitAfter, List.mem_reverse, List.mem_cons] at h
    rcases h with rfl | h
    · simpa using hcurrent
    · exact hdone piece h
  | cons a as ih =>
    rw [splitAfter] at h
    by_cases ha : a = sep
    · -- The current piece is done, and an empty one begins.
      rw [if_pos (by simp [ha])] at h
      refine ih (fun q hq => ?_) (by simp) h
      rcases List.mem_cons.mp hq with rfl | hq
      · simpa using hcurrent
      · exact hdone q hq
    · rw [if_neg (by simpa using ha)] at h
      exact ih hdone (by simp [Ne.symm ha, hcurrent]) h

end Split

/-! ### Lines -/

/-- Dropping carriage returns leaves as many lines as there were. -/
theorem length_dropReturns {ls : List (List Char)} (h : ls ≠ []) :
    (dropReturns ls).length = ls.length := by
  have hpos := List.length_pos_iff.mpr h
  rw [dropReturns, List.length_append, List.length_map, List.length_dropLast,
    List.getLast?_eq_some_getLast h]
  simp only [Option.toList_some, List.length_singleton]
  omega

/-- A text has one line more than it has line feeds. -/
theorem length_lines (text : String) : (lines text).length = text.toList.count '\n' + 1 := by
  have hrows : (rows text.toList).length = text.toList.count '\n' + 1 := by
    rw [rows, splitAt, length_splitAfter, List.length_nil]
    omega
  have hne : rows text.toList ≠ [] := List.length_pos_iff.mp (by omega)
  rw [lines, List.length_map, length_dropReturns hne, hrows]

theorem mem_of_mem_dropReturn {line : List Char} {c : Char} (h : c ∈ dropReturn line) :
    c ∈ line := by
  unfold dropReturn at h
  split at h
  · exact List.dropLast_subset line h
  · exact h

/-- A line is a row, or one without its carriage return. -/
theorem exists_row_of_mem_dropReturns {ls : List (List Char)} {line : List Char}
    (h : line ∈ dropReturns ls) : ∃ row ∈ ls, ∀ c ∈ line, c ∈ row := by
  rw [dropReturns, List.mem_append, List.mem_map, Option.mem_toList] at h
  rcases h with ⟨row, hrow, rfl⟩ | hlast
  · exact ⟨row, List.dropLast_subset ls hrow, fun c => mem_of_mem_dropReturn⟩
  · exact ⟨line, List.mem_of_getLast? hlast, fun c hc => hc⟩

/-- No line holds a line feed. -/
theorem not_mem_of_mem_lines {text line : String} (h : line ∈ lines text) :
    '\n' ∉ line.toList := by
  obtain ⟨chars, hchars, rfl⟩ := List.mem_map.mp h
  obtain ⟨row, hrow, hsub⟩ := exists_row_of_mem_dropReturns hchars
  rw [String.toList_ofList]
  intro hfeed
  exact not_mem_of_mem_splitAfter (by simp) (by simp) hrow (hsub _ hfeed)

/-- Lines with line feeds between them have one line feed less than there are lines. -/
theorem count_joinLines {ls : List String} (h : ∀ line ∈ ls, '\n' ∉ line.toList) :
    (joinLines ls).toList.count '\n' = ls.length - 1 := by
  rw [joinLines, String.toList_intercalate]
  induction ls with
  | nil => rfl
  | cons line ls ih =>
    have hline : line.toList.count '\n' = 0 :=
      List.count_eq_zero_of_not_mem (h line List.mem_cons_self)
    have hrest := ih (fun l hl => h l (List.mem_cons_of_mem line hl))
    cases ls with
    | nil => simpa using hline
    | cons next ls =>
      -- One line more comes with one line feed more.
      rw [List.map_cons, List.map_cons, List.intercalate_cons_cons, ← List.map_cons,
        List.count_append, List.count_append, hline, hrest]
      have hfeed : "\n".toList.count '\n' = 1 := by decide
      simp only [hfeed, List.length_cons]
      omega

end PackageAtlas.Text
