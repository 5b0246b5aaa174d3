import PackageAtlas.Source.Window

namespace PackageAtlas.Source

/-!
# Lines by their numbers

* `numbered`: the lines of a text from one number to another;
* `Window.lines_eq_numbered`: a window holds the lines of its numbers;
* `Window.around_lines`: so does the window of a declaration, as far as there are lines;
* `Window.around_zero_lines`: without lines around it, it starts with the first one of its own.
-/

variable {α : Type}

/-- The lines from the number `first` to the number `last`; the first line has the number one. -/
def numbered (ls : List α) (first last : Int) : List α :=
  ((ls.zipIdx 1).filter (fun l => first ≤ (l.2 : Int) ∧ (l.2 : Int) ≤ last)).map Prod.fst

/-- What has its number in a range stands between what is dropped and what is not taken. -/
theorem filter_zipIdx (ls : List α) (start low high : Nat) :
    ((ls.zipIdx start).filter (fun l => low ≤ l.2 ∧ l.2 < high)).map Prod.fst =
      (ls.drop (low - start)).take (high - max low start) := by
  induction ls generalizing start with
  | nil => simp
  | cons line ls ih =>
    rw [List.zipIdx_cons, List.filter_cons]
    rcases Nat.lt_or_ge start low with hlow | hlow
    · -- The line comes before the range.
      have hdrop : low - start = low - (start + 1) + 1 := by omega
      have hmax : max low start = max low (start + 1) := by omega
      rw [if_neg (by simp; omega), ih, hdrop, List.drop_succ_cons, hmax]
    · have hdrop : low - start = 0 := by omega
      have hdrop' : low - (start + 1) = 0 := by omega
      rcases Nat.lt_or_ge start high with hhigh | hhigh
      · have htake : high - max low start = high - max low (start + 1) + 1 := by omega
        rw [if_pos (by simp; omega), List.map_cons, ih, hdrop, hdrop', List.drop_zero,
          List.drop_zero, htake, List.take_succ_cons]
      · -- The line comes behind the range, and so do all others.
        have htake : high - max low start = 0 := by omega
        have htake' : high - max low (start + 1) = 0 := by omega
        rw [if_neg (by simp; omega), ih, htake, htake', List.take_zero, List.take_zero]

/-- Lines have numbers from one to how many there are. -/
theorem numbered_congr {ls : List α} {first last first' last' : Int}
    (h : ∀ n : Nat, 1 ≤ n → n ≤ ls.length →
      (first ≤ (n : Int) ∧ (n : Int) ≤ last ↔ first' ≤ (n : Int) ∧ (n : Int) ≤ last')) :
    numbered ls first last = numbered ls first' last' := by
  unfold numbered
  congr 1
  apply List.filter_congr
  intro l hl
  have hlow : 1 ≤ l.2 := List.le_snd_of_mem_zipIdx hl
  have hhigh : l.2 < ls.length + 1 := by
    have := List.snd_lt_add_of_mem_zipIdx hl
    omega
  exact decide_eq_decide.mpr (h l.2 hlow (by omega))

theorem Window.mem_of_mem_lines (w : Window) {ls : List α} {line : α} (h : line ∈ w.lines ls) :
    line ∈ ls := List.mem_of_mem_drop (List.mem_of_mem_take h)

/-- A window holds the lines of its numbers. -/
theorem Window.lines_eq_numbered (w : Window) (ls : List α) :
    w.lines ls = numbered ls w.start (max 1 w.start + w.count - 1) := by
  have hrange := filter_zipIdx ls 1 (max 1 w.start).toNat
    ((max 1 w.start).toNat + w.count.toNat)
  have hdrop : (max 1 w.start).toNat - 1 = (w.start - 1).toNat := by omega
  have htake : (max 1 w.start).toNat + w.count.toNat - max (max 1 w.start).toNat 1 =
      w.count.toNat := by omega
  rw [hdrop, htake] at hrange
  rw [Window.lines, ← hrange]
  -- There is no line before the first, so a window may begin there as well.
  have hsame : numbered ls w.start (max 1 w.start + w.count - 1) =
      numbered ls (max 1 w.start).toNat ((max 1 w.start).toNat + w.count.toNat - 1) :=
    numbered_congr (by intro n hn _; omega)
  rw [hsame, numbered]
  congr 1
  apply List.filter_congr
  intro l _
  apply decide_eq_decide.mpr
  omega

/-- The window of a declaration holds the lines around it, as far as there are lines. -/
theorem Window.around_lines (ls : List α) (first last padding : Int) :
    (Window.around first last padding).lines ls =
      numbered ls (max 1 (first - padding)) (min ls.length (last + padding)) := by
  rw [Window.lines_eq_numbered]
  apply numbered_congr
  intro n hn hlength
  simp only [Window.around]
  omega

/-- Without lines around it, the window of a declaration holds its own lines. -/
theorem Window.around_zero_lines {first : Nat} (hfirst : 1 ≤ first) (last : Nat) (ls : List α) :
    (Window.around first last 0).lines ls = (ls.drop (first - 1)).take (last + 1 - first) := by
  have hstart : max (1 : Int) (first - 0) = first := by omega
  have hdrop : ((first : Int) - 1).toNat = first - 1 := by omega
  have htake : ((last : Int) + 0 - first + 1).toNat = last + 1 - first := by omega
  simp only [Window.lines, Window.around, hstart, hdrop, htake]

end PackageAtlas.Source
