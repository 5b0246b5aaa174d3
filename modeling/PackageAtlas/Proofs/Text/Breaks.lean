import PackageAtlas.Proofs.Path.Pieces
import PackageAtlas.Proofs.Text.Case
import PackageAtlas.Proofs.Text.Lines
import PackageAtlas.Proofs.Text.Utf8

namespace PackageAtlas.Text

/-!
# Line breaks

A line ends with a line feed, or with a carriage return and a line feed, while a row ends with a
line feed only. The two differ by nothing else:

* `unifyBreaks`: a text with line feeds for both kinds of line ends; `joinLines_lines`: that is what
  the lines of a text make when they are joined;
* `joinLines_eq_iff`: lines are told from the text that they make;
* `map_trimList_lines`: lines and rows are the same without the white space at their ends;
* `head?_trimList`: no white space is left there;
* `Utf8.count_decode`: bytes have as many line feeds as their text.
-/

/-! ### Rows -/

@[simp] theorem rows_nil : rows [] = [[]] := rfl

@[simp] theorem rows_feed (cs : List Char) : rows ('\n' :: cs) = [] :: rows cs := by
  rw [rows, rows, splitAt_eq_splitOn, splitAt_eq_splitOn, List.splitOn_eq_splitOnP,
    List.splitOnP_cons_eq_if_modifyHead]
  rfl

/-- A character that is no line feed belongs to the first row. -/
theorem rows_cons {c : Char} (h : c ≠ '\n') (cs : List Char) :
    rows (c :: cs) = (rows cs).modifyHead (c :: ·) := by
  rw [rows, rows, splitAt_eq_splitOn, splitAt_eq_splitOn, List.splitOn_eq_splitOnP,
    List.splitOnP_cons_eq_if_modifyHead, if_neg (by simpa using h)]
  rfl

theorem rows_ne_nil (cs : List Char) : rows cs ≠ [] := by
  rw [rows, splitAt, splitAfter_eq]
  simp [List.splitOnP_ne_nil]

/-! ### Both kinds of line ends -/

/-- A text with a line feed in place of every carriage return and line feed. -/
def unifyBreaks : List Char → List Char
  | [] => []
  | '\r' :: '\n' :: cs => '\n' :: unifyBreaks cs
  | c :: cs => c :: unifyBreaks cs

theorem dropReturns_cons (row : List Char) {rest : List (List Char)} (h : rest ≠ []) :
    dropReturns (row :: rest) = dropReturn row :: dropReturns rest := by
  rw [dropReturns, dropReturns, List.dropLast_cons_of_ne_nil h, List.getLast?_cons_of_ne_nil h]
  rfl

theorem dropReturns_ne_nil {rs : List (List Char)} (h : rs ≠ []) : dropReturns rs ≠ [] := by
  rw [← List.length_pos_iff, length_dropReturns h, List.length_pos_iff]
  exact h

/-- A carriage return is kept where something else of its row follows it. -/
theorem dropReturn_cons {c : Char} {row : List Char} (h : row = [] → c ≠ '\r') :
    dropReturn (c :: row) = c :: dropReturn row := by
  unfold dropReturn
  cases row with
  | nil => simp [h rfl]
  | cons d row =>
    rw [List.getLast?_cons_cons]
    split <;> rfl

/-- The first row is empty only where the text ends or starts with a line feed. -/
theorem eq_feed_of_rows {cs : List Char} {rest : List (List Char)} (h : rows cs = [] :: rest)
    (hrest : rest ≠ []) : ∃ cs', cs = '\n' :: cs' := by
  cases cs with
  | nil =>
    rw [rows_nil, List.cons.injEq] at h
    exact absurd h.2.symm hrest
  | cons c cs =>
    by_cases hc : c = '\n'
    · exact ⟨cs, by rw [hc]⟩
    · rw [rows_cons hc] at h
      obtain ⟨first, others, hrows⟩ := List.exists_cons_of_ne_nil (rows_ne_nil cs)
      rw [hrows] at h
      simp at h

/-- The rows of a text without the carriage returns at their ends make, when they are joined, the
    text with both kinds of line ends as one. -/
theorem intercalate_dropReturns_rows (cs : List Char) :
    ['\n'].intercalate (dropReturns (rows cs)) = unifyBreaks cs := by
  have hne : ∀ cs, dropReturns (rows cs) ≠ [] := fun cs => dropReturns_ne_nil (rows_ne_nil cs)
  induction cs using unifyBreaks.induct with
  | case1 => rfl
  | case2 cs ih =>
    -- The first row is a carriage return.
    have hrows : rows ('\r' :: '\n' :: cs) = ['\r'] :: rows cs := by
      rw [rows_cons (by decide), rows_feed]
      rfl
    rw [hrows, dropReturns_cons _ (rows_ne_nil cs), List.intercalate_cons_of_ne_nil (hne cs), ih]
    rfl
  | case3 c cs hpair ih =>
    have hunify : unifyBreaks (c :: cs) = c :: unifyBreaks cs := by
      rw [unifyBreaks]
      exact hpair
    rw [hunify, ← ih]
    by_cases hc : c = '\n'
    · subst hc
      rw [rows_feed, dropReturns_cons _ (rows_ne_nil cs), List.intercalate_cons_of_ne_nil (hne cs)]
      rfl
    · obtain ⟨row, rest, hrows⟩ := List.exists_cons_of_ne_nil (rows_ne_nil cs)
      rw [rows_cons hc, hrows, List.modifyHead_cons]
      by_cases hrest : rest = []
      · -- What comes behind the last line feed stays as it is.
        subst hrest
        rfl
      · have hkeep : row = [] → c ≠ '\r' := by
          rintro rfl rfl
          obtain ⟨cs', rfl⟩ := eq_feed_of_rows hrows hrest
          exact hpair cs' rfl rfl
        have hlater := dropReturns_ne_nil hrest
        rw [dropReturns_cons _ hrest, dropReturns_cons _ hrest, dropReturn_cons hkeep,
          List.intercalate_cons_of_ne_nil hlater, List.intercalate_cons_of_ne_nil hlater]
        rfl

/-- **Lines make the text.** The lines of a text, joined by line feeds, are the text with a line
    feed in place of every carriage return and line feed. -/
theorem joinLines_lines (text : String) :
    joinLines (lines text) = String.ofList (unifyBreaks text.toList) := by
  rw [← String.toList_inj, joinLines, String.toList_intercalate, lines, List.map_map]
  have hself : String.toList ∘ String.ofList = id := by
    funext cs
    exact String.toList_ofList
  rw [hself, List.map_id]
  exact (intercalate_dropReturns_rows text.toList).trans String.toList_ofList.symm

/-- Lines that hold no line feed are the rows of what they make when they are joined. -/
theorem rows_joinLines {ls : List String} (hne : ls ≠ []) (h : ∀ line ∈ ls, '\n' ∉ line.toList) :
    rows (joinLines ls).toList = ls.map String.toList := by
  rw [rows, splitAt_eq_splitOn, joinLines, String.toList_intercalate]
  refine List.splitOn_intercalate '\n' (fun line hline => ?_) (by simpa using hne)
  obtain ⟨text, htext, rfl⟩ := List.mem_map.mp hline
  exact h text htext

/-- Lines are told from the text that they make, but for no line and one that is empty. -/
theorem joinLines_eq_iff {ls ms : List String} (hls : ∀ line ∈ ls, '\n' ∉ line.toList)
    (hms : ∀ line ∈ ms, '\n' ∉ line.toList) :
    joinLines ls = joinLines ms ↔ ls = ms ∨ ls = [] ∧ ms = [""] ∨ ls = [""] ∧ ms = [] := by
  -- No line at all and one empty line are both joined to the empty text.
  have hnil : ∀ {ks : List String}, ks ≠ [] → (∀ line ∈ ks, '\n' ∉ line.toList) →
      joinLines ks = joinLines [] → ks = [""] := by
    intro ks hne hks h
    have hrows := rows_joinLines hne hks
    rw [h] at hrows
    have hone : ks.map String.toList = [""].map String.toList := hrows.symm.trans (by decide)
    exact List.map_injective_iff.mpr (fun _ _ => String.toList_inj.mp) hone
  constructor
  · intro h
    by_cases hl : ls = []
    · by_cases hm : ms = []
      · exact Or.inl (hl.trans hm.symm)
      · exact Or.inr (Or.inl ⟨hl, hnil hm hms (by rw [← h, hl])⟩)
    · by_cases hm : ms = []
      · exact Or.inr (Or.inr ⟨hnil hl hls (by rw [h, hm]), hm⟩)
      · left
        have hrows := rows_joinLines hl hls
        rw [h, rows_joinLines hm hms] at hrows
        exact List.map_injective_iff.mpr (fun _ _ => String.toList_inj.mp) hrows.symm
  · rintro (rfl | ⟨rfl, rfl⟩ | ⟨rfl, rfl⟩) <;> rfl

/-- Lines of a text that follow each other hold no line feed. -/
theorem not_mem_of_mem_take_lines {text line : String} {before count : Nat}
    (h : line ∈ ((lines text).drop before).take count) : '\n' ∉ line.toList :=
  not_mem_of_mem_lines (List.mem_of_mem_drop (List.mem_of_mem_take h))

/-- Lines that hold no line feed are as many as there were when they have been joined. -/
theorem length_lines_joinLines {ls : List String} (hne : ls ≠ [])
    (h : ∀ line ∈ ls, '\n' ∉ line.toList) : (lines (joinLines ls)).length = ls.length := by
  have hpos := List.length_pos_iff.mpr hne
  rw [length_lines, count_joinLines h]
  omega

/-! ### White space -/

/-- White space at the end of a text is left out. -/
theorem trimList_concat {c : Char} (hc : isBlank c = true) (cs : List Char) :
    trimList (cs ++ [c]) = trimList cs := by
  unfold trimList
  rw [List.dropWhile_append]
  split
  · rename_i hempty
    rw [List.isEmpty_iff] at hempty
    rw [hempty]
    simp [hc]
  · rw [List.reverse_append, List.reverse_singleton, List.singleton_append,
      List.dropWhile_cons_of_pos hc]

theorem trimList_dropReturn (line : List Char) : trimList (dropReturn line) = trimList line := by
  unfold dropReturn
  split
  · rename_i hlast
    conv_rhs => rw [← List.dropLast_append_getLast? _ hlast]
    exact (trimList_concat (by decide) _).symm
  · rfl

/-- Without the white space at their ends, lines are rows. -/
theorem map_trimList_lines (text : String) :
    (lines text).map (fun line => trimList line.toList) = (rows text.toList).map trimList := by
  have hne := rows_ne_nil text.toList
  rw [lines, List.map_map, dropReturns, List.map_append, List.map_map]
  conv_rhs => rw [← List.dropLast_append_getLast? _ (List.getLast?_eq_some_getLast hne)]
  rw [List.map_append, List.getLast?_eq_some_getLast hne]
  refine congrArg₂ (· ++ ·) (List.map_congr_left (fun row _ => ?_)) ?_
  · rw [Function.comp_apply, Function.comp_apply, String.toList_ofList, trimList_dropReturn]
  · rw [Option.toList_some, List.map_singleton, List.map_singleton, Function.comp_apply,
      String.toList_ofList]

/-- The first of some lines is found again when they have been joined, but for a carriage return at
    its end. -/
theorem exists_head?_lines_joinLines {line : String} {more : List String}
    (h : ∀ l ∈ line :: more, '\n' ∉ l.toList) :
    ∃ first, (lines (joinLines (line :: more))).head? = some first ∧
      trimList first.toList = trimList line.toList := by
  have hmap := map_trimList_lines (joinLines (line :: more))
  rw [rows_joinLines (List.cons_ne_nil line more) h] at hmap
  have hhead := congrArg List.head? hmap
  rw [List.head?_map] at hhead
  exact Option.map_eq_some_iff.mp hhead

/-- What is left of a text begins the text without the white space in front. -/
theorem trimList_isPrefix (cs : List Char) : trimList cs <+: cs.dropWhile isBlank := by
  have h := List.reverse_prefix.mpr (List.dropWhile_suffix isBlank
    (l := (cs.dropWhile isBlank).reverse))
  rwa [List.reverse_reverse] at h

/-- No white space is left in front. -/
theorem head?_trimList {cs : List Char} {c : Char} (h : (trimList cs).head? = some c) :
    isBlank c = false := by
  obtain ⟨rest, hrest⟩ := trimList_isPrefix cs
  have hfirst : (cs.dropWhile isBlank).head? = some c := by
    rw [← hrest, List.head?_append, h, Option.some_or]
  have hnot := List.head?_dropWhile_not isBlank cs
  rwa [hfirst] at hnot

theorem mem_of_mem_trimList {cs : List Char} {c : Char} (h : c ∈ trimList cs) : c ∈ cs :=
  (List.dropWhile_suffix _).subset ((trimList_isPrefix cs).subset h)

/-! ### Bytes -/

namespace Utf8

/-- What the second byte of a long sequence may be: with the first, it makes more than a line
    feed. -/
theorem of_lead_long {b lo hi : UInt8} {more bits : Nat} (h : lead b = .long more lo hi bits) :
    0x80 ≤ lo.toNat ∧ 11 ≤ bits * 64 + (lo.toNat - 0x80) := by
  -- A first byte is one of few, and they are looked at one by one.
  have hbytes : ∀ n : Fin 256, (match lead (.ofFin n) with
      | .long _ lo _ bits => decide (0x80 ≤ lo.toNat ∧ 11 ≤ bits * 64 + (lo.toNat - 0x80))
      | _ => true) = true := by decide +kernel
  have hb := hbytes b.toFin
  rw [UInt8.ofFin_toFin, h] at hb
  exact of_decide_eq_true hb

theorem ofNat_eq_feed_iff {n : Nat} : Char.ofNat n = '\n' ↔ n = 10 := by
  refine ⟨eq_toNat_of_ofNat_eq (by decide), ?_⟩
  rintro rfl
  rfl

theorem replacement_ne_feed : replacement ≠ '\n' := by decide

/-- The rest of a sequence makes no line feed, and holds none. -/
theorem count_continuation (more : Nat) {bits : Nat} (hbits : 11 ≤ bits) (bs : List UInt8) :
    (continuation more bits bs).1 ≠ '\n' ∧
      (continuation more bits bs).2.count 10 = bs.count 10 := by
  fun_induction continuation more bits bs with
  | case1 bits bs =>
    refine ⟨fun h => ?_, rfl⟩
    rw [ofNat_eq_feed_iff] at h
    omega
  | case2 => exact ⟨replacement_ne_feed, rfl⟩
  | case3 bits more b bs hb ih =>
    obtain ⟨hchar, hcount⟩ := ih (by omega)
    refine ⟨hchar, ?_⟩
    rw [hcount, List.count_cons_of_ne]
    rintro rfl
    exact absurd hb (by decide)
  | case4 => exact ⟨replacement_ne_feed, rfl⟩

/-- A byte that is no character of its own takes no line feed with it, and gives none. -/
theorem count_next_of_long {b : UInt8} (hb : ¬ b < 0x80) (bs : List UInt8) :
    (next b bs).1 ≠ '\n' ∧ (next b bs).2.count 10 = bs.count 10 := by
  unfold next
  split
  · rename_i hlead
    unfold lead at hlead
    rw [if_neg hb] at hlead
    split_ifs at hlead
  · exact ⟨replacement_ne_feed, rfl⟩
  · rename_i more lo hi bits hlead
    obtain ⟨hlo, hbits⟩ := of_lead_long hlead
    cases bs with
    | nil => exact ⟨replacement_ne_feed, rfl⟩
    | cons c cs =>
      simp only
      split
      · rename_i hc
        rw [Bool.and_eq_true, decide_eq_true_iff, decide_eq_true_iff, UInt8.le_iff_toNat_le] at hc
        have hmore : 11 ≤ bits * 64 + (c.toNat - 0x80) := by omega
        obtain ⟨hchar, hcount⟩ := count_continuation more hmore cs
        refine ⟨hchar, ?_⟩
        -- A second byte is too large for a line feed.
        rw [hcount, List.count_cons_of_ne]
        rintro rfl
        exact absurd (Nat.le_trans hlo hc.1) (by decide)
      · exact ⟨replacement_ne_feed, rfl⟩

/-- **Line feeds.** A text has as many line feeds as its bytes. -/
theorem count_decode (bs : List UInt8) : (decode bs).count '\n' = bs.count 10 := by
  -- Each character is decoded from its first byte and some that are no line feeds.
  induction bs using decode_induction with
  | nil => simp
  | cons b bs hrest =>
    rw [decode_cons]
    by_cases hb : b < 0x80
    · have hnext : next b bs = (Char.ofNat b.toNat, bs) := by
        rw [next, lead, if_pos hb]
      have hfeed : Char.ofNat b.toNat = '\n' ↔ b = 10 := by
        rw [ofNat_eq_feed_iff, ← UInt8.toNat_inj]
        rfl
      rw [hnext] at hrest ⊢
      simp only [List.count_cons, hrest, beq_iff_eq, hfeed]
    · obtain ⟨hchar, hcount⟩ := count_next_of_long hb bs
      rw [List.count_cons_of_ne hchar, hrest, hcount, List.count_cons_of_ne]
      rintro rfl
      exact hb (by decide)

end Utf8

/-- A text has one line more than its bytes have line feeds. -/
theorem length_lines_decodeBytes (bytes : ByteArray) :
    (lines (Utf8.decodeBytes bytes)).length = bytes.toList.count 10 + 1 := by
  rw [length_lines, Utf8.decodeBytes, Utf8.decodeText, String.toList_ofList, Utf8.count_decode]

end PackageAtlas.Text
