import PackageAtlas.Proofs.Source.Window
import PackageAtlas.Proofs.Text.Breaks

namespace PackageAtlas.Source

open Text (joinLines)

/-!
# Pages

A text is read page by page, each of them a window of as many lines, behind the one before it:

* `page`, `pageCount`: the windows, and how many of them start in a text;
* `lines_page_eq_numbered`: the lines of a page, by their numbers;
* `flatMap_page`: all pages together hold every line once, in order;
* `joinLines_map_joinLines`: lines may be joined in parts;
* `pages`, `joinLines_pages`: so the pages of a text make it when they are joined.
-/

variable {α : Type} {size : Nat}

/-! ### Lines of pages -/

/-- The page of a number, from zero, where pages have `size` lines. -/
def page (size number : Nat) : Window := ⟨1 + number * size, size⟩

/-- How many pages a number of lines makes. -/
def pageCount (size count : Nat) : Nat := (count + size - 1) / size

/-- A page is counted if it starts at a line. -/
theorem lt_pageCount_iff (hsize : 1 ≤ size) {number count : Nat} :
    number < pageCount size count ↔ 1 + number * size ≤ count := by
  rw [pageCount, ← Nat.succ_le_iff, Nat.le_div_iff_mul_le (by omega), Nat.succ_mul]
  omega

theorem lines_page (size number : Nat) (ls : List α) :
    (page size number).lines ls = (ls.drop (number * size)).take size := by
  have hdrop : (1 + (number * size : Nat) - 1 : Int).toNat = number * size := by omega
  have hstart : (page size number).start = 1 + (number * size : Nat) := by simp [page]
  rw [Window.lines, hstart, hdrop]
  rfl

/-- The lines of a page, by their numbers. -/
theorem lines_page_eq_numbered (size number : Nat) (ls : List α) :
    (page size number).lines ls = numbered ls (1 + number * size) ((number + 1) * size) := by
  rw [Window.lines_eq_numbered]
  apply numbered_congr
  intro n hn _
  have hnext : ((number : Int) + 1) * size = number * size + size := by
    rw [Int.add_mul, Int.one_mul]
  have hstart : (0 : Int) ≤ number * size :=
    Int.mul_nonneg (Int.natCast_nonneg number) (Int.natCast_nonneg size)
  simp only [page, hnext]
  omega

/-- The pages before one hold the lines before it. -/
theorem flatMap_range_page (size count : Nat) (ls : List α) :
    (List.range count).flatMap (fun i => (page size i).lines ls) = ls.take (count * size) := by
  induction count with
  | zero => simp
  | succ count ih =>
    rw [List.range_succ, List.flatMap_append, ih, List.flatMap_singleton, lines_page,
      Nat.succ_mul, List.take_add]

/-- All pages together hold every line once, in order. -/
theorem flatMap_page (hsize : 1 ≤ size) (ls : List α) :
    (List.range (pageCount size ls.length)).flatMap (fun i => (page size i).lines ls) = ls := by
  rw [flatMap_range_page]
  apply List.take_of_length_le
  -- A page behind the last one would start behind the last line.
  have hlast : ¬ 1 + pageCount size ls.length * size ≤ ls.length :=
    (lt_pageCount_iff hsize).not.mp (Nat.lt_irrefl _)
  omega

/-- Every page but the last is full. -/
theorem length_lines_page {number : Nat} {ls : List α} (h : (number + 1) * size ≤ ls.length) :
    ((page size number).lines ls).length = size := by
  rw [lines_page, List.length_take, List.length_drop]
  rw [Nat.succ_mul] at h
  omega

theorem lines_page_ne_nil (hsize : 1 ≤ size) {number : Nat} {ls : List α}
    (h : 1 + number * size ≤ ls.length) : (page size number).lines ls ≠ [] := by
  rw [← List.length_pos_iff, lines_page, List.length_take, List.length_drop]
  omega

/-- Nothing is left of a window that starts behind the last line. -/
theorem Window.lines_eq_nil {w : Window} {ls : List α} (h : ls.length < w.start) :
    w.lines ls = [] := by
  have hdrop : ls.length ≤ (w.start - 1).toNat := by omega
  rw [Window.lines, List.drop_eq_nil_of_le hdrop, List.take_nil]

/-! ### Joining lines -/

theorem joinLines_append {ls ms : List String} (hls : ls ≠ []) (hms : ms ≠ []) :
    joinLines (ls ++ ms) = joinLines ls ++ "\n" ++ joinLines ms := by
  unfold joinLines
  induction ls with
  | nil => exact absurd rfl hls
  | cons line ls ih =>
    by_cases hrest : ls = []
    · subst hrest
      rw [List.singleton_append, String.intercalate_cons_of_ne_nil hms]
      simp
    · rw [List.cons_append, String.intercalate_cons_of_ne_nil (by simp [hrest]), ih hrest,
        String.intercalate_cons_of_ne_nil hrest]
      simp only [String.append_assoc]

/-- Lines may be joined in parts, and these after that, if no part is empty. -/
theorem joinLines_map_joinLines {parts : List (List String)} (h : ∀ ls ∈ parts, ls ≠ []) :
    joinLines (parts.map joinLines) = joinLines parts.flatten := by
  induction parts with
  | nil => rfl
  | cons ls parts ih =>
    have hls := h ls List.mem_cons_self
    have hparts := fun ms hms => h ms (List.mem_cons_of_mem ls hms)
    rw [List.map_cons, List.flatten_cons]
    by_cases hrest : parts = []
    · subst hrest
      simp [joinLines]
    · obtain ⟨ms, others, rfl⟩ := List.exists_cons_of_ne_nil hrest
      -- A line feed stands between two parts, as between their lines.
      have hms : ms ≠ [] := hparts ms List.mem_cons_self
      have hflat : (ms :: others).flatten ≠ [] := by simp [hms]
      rw [joinLines_append hls hflat, ← ih hparts, joinLines,
        String.intercalate_cons_of_ne_nil (by simp)]
      rfl

/-! ### Pages of a text -/

/-- The pages of a text. -/
def pages (size : Nat) (text : String) : List String :=
  (List.range (pageCount size (Text.lines text).length)).map (fun i => excerpt text (page size i))

theorem length_pages (size : Nat) (text : String) :
    (pages size text).length = pageCount size (Text.lines text).length := by
  rw [pages, List.length_map, List.length_range]

/-- There is a page for every one that starts at a line. -/
theorem lt_length_pages_iff (hsize : 1 ≤ size) {number : Nat} {text : String} :
    number < (pages size text).length ↔ 1 + number * size ≤ (Text.lines text).length := by
  rw [length_pages, lt_pageCount_iff hsize]

theorem getElem?_pages {number : Nat} {text part : String}
    (h : (pages size text)[number]? = some part) : part = excerpt text (page size number) := by
  obtain ⟨hlt, rfl⟩ := List.getElem?_eq_some_iff.mp h
  simp [pages]

/-- A page is full if another one comes behind it. -/
theorem length_lines_of_next_page (hsize : 1 ≤ size) {number : Nat} {text : String}
    (h : number + 1 < (pages size text).length) :
    (Text.lines (excerpt text (page size number))).length = size := by
  have hnext := (lt_length_pages_iff hsize).mp h
  have hfull : ((page size number).lines (Text.lines text)).length = size :=
    length_lines_page (by omega)
  rw [excerpt, Text.length_lines_joinLines, hfull]
  · rw [← List.length_pos_iff, hfull]
    exact hsize
  · intro line hline
    exact Text.not_mem_of_mem_lines ((page size number).mem_of_mem_lines hline)

/-- **Pages make the text.** The pages of a text, joined by line feeds, are the text with a line
    feed in place of every carriage return and line feed. -/
theorem joinLines_pages (hsize : 1 ≤ size) (text : String) :
    joinLines (pages size text) = String.ofList (Text.unifyBreaks text.toList) := by
  have hparts : pages size text =
      ((List.range (pageCount size (Text.lines text).length)).map
        (fun i => (page size i).lines (Text.lines text))).map joinLines := by
    rw [List.map_map]
    rfl
  rw [hparts, joinLines_map_joinLines, ← List.flatMap_def, flatMap_page hsize,
    Text.joinLines_lines]
  intro ls hls
  obtain ⟨i, hi, rfl⟩ := List.mem_map.mp hls
  exact lines_page_ne_nil hsize ((lt_pageCount_iff hsize).mp (List.mem_range.mp hi))

end PackageAtlas.Source
