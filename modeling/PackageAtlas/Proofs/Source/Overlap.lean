import PackageAtlas.Proofs.Source.Window
import PackageAtlas.Proofs.Text.Breaks

namespace PackageAtlas.Source

open Text (joinLines)

/-!
# What a window overlaps

A window that starts before the first line is moved there, not cut, so it holds more lines than
those that it overlaps:

* `Window.overlap`: the lines whose numbers lie in a window;
* `Window.overlap_eq_lines`: they are those of a window that is cut at the first line;
* `Window.exists_lines_eq_append`: a window holds them, and maybe some more behind them;
* `Window.lines_eq_overlap_iff`, `Window.joinLines_eq_overlap_iff`: when there are no more.
-/

variable {α : Type} {w : Window} {ls : List α}

/-! ### Lines -/

/-- The lines that a window overlaps: those whose numbers lie in it. -/
def Window.overlap (w : Window) (ls : List α) : List α :=
  numbered ls w.start (w.start + w.count - 1)

/-- A window that is cut at the first line holds what the whole one overlaps. -/
theorem Window.overlap_eq_lines (w : Window) (ls : List α) :
    w.overlap ls = (Window.mk (max 1 w.start) (min 1 w.start + w.count - 1)).lines ls := by
  rw [Window.lines_eq_numbered]
  apply numbered_congr
  intro n hn _
  simp only
  omega

theorem Window.overlap_eq_take (w : Window) (ls : List α) :
    w.overlap ls = (ls.drop (w.start - 1).toNat).take (min 1 w.start + w.count - 1).toNat := by
  have hdrop : (max 1 w.start - 1).toNat = (w.start - 1).toNat := by omega
  rw [Window.overlap_eq_lines, Window.lines, hdrop]

/-- **More than the overlap.** A window holds the lines that it overlaps, and behind them no more
    lines than it starts before the first one. -/
theorem Window.exists_lines_eq_append (w : Window) (ls : List α) :
    ∃ more, w.lines ls = w.overlap ls ++ more ∧ more.length ≤ (1 - w.start).toNat := by
  rw [Window.overlap_eq_take, Window.lines]
  generalize ls.drop (w.start - 1).toNat = rest
  have hle : (min 1 w.start + w.count - 1).toNat ≤ w.count.toNat := by omega
  refine ⟨(rest.take w.count.toNat).drop (min 1 w.start + w.count - 1).toNat, ?_, ?_⟩
  · conv => lhs; rw [← List.take_append_drop (min 1 w.start + w.count - 1).toNat
      (rest.take w.count.toNat), List.take_take, Nat.min_eq_left hle]
  · rw [List.length_drop, List.length_take]
    omega

/-- A window holds what it overlaps and nothing else if it does not start before the first line, or
    if there are no lines to come behind those. -/
theorem Window.lines_eq_overlap_iff (hne : ls ≠ []) :
    w.lines ls = w.overlap ls ↔
      1 ≤ w.start ∨ w.count ≤ 0 ∨ (ls.length : Int) ≤ w.start + w.count - 1 := by
  have hlength := List.length_pos_iff.mpr hne
  rw [Window.overlap_eq_take, Window.lines, List.take_eq_take_iff, List.length_drop]
  omega

/-! ### Texts -/

/-- The lines of a window make the text of those that it overlaps if they are the same, or if the
    window holds one empty line and overlaps none. -/
theorem Window.joinLines_eq_overlap_iff (w : Window) (text : String) :
    joinLines (w.lines (Text.lines text)) = joinLines (w.overlap (Text.lines text)) ↔
      1 ≤ w.start ∨ w.count ≤ 0 ∨ ((Text.lines text).length : Int) ≤ w.start + w.count - 1 ∨
        w.overlap (Text.lines text) = [] ∧ w.lines (Text.lines text) = [""] := by
  have hne : Text.lines text ≠ [] := by
    have hlength := Text.length_lines text
    exact List.length_pos_iff.mp (by omega)
  obtain ⟨more, happend, -⟩ := w.exists_lines_eq_append (Text.lines text)
  have hfeed : ∀ line ∈ w.lines (Text.lines text), '\n' ∉ line.toList :=
    fun line hline => Text.not_mem_of_mem_take_lines hline
  have hfeed' : ∀ line ∈ w.overlap (Text.lines text), '\n' ∉ line.toList :=
    fun line hline => hfeed line (by rw [happend]; exact List.mem_append_left more hline)
  -- A window never holds less than it overlaps.
  have hless : ¬ (w.lines (Text.lines text) = [] ∧ w.overlap (Text.lines text) = [""]) := by
    rintro ⟨hnone, hone⟩
    rw [hnone, hone] at happend
    simp at happend
  rw [Text.joinLines_eq_iff hfeed hfeed', or_iff_right hless, Window.lines_eq_overlap_iff hne,
    or_assoc, or_assoc, and_comm]

end PackageAtlas.Source
