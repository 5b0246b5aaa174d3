import PackageAtlas.Proofs.Text.Breaks
import PackageAtlas.Proofs.Text.Utf8

namespace PackageAtlas.Text

/-!
# Rows of bytes

Bytes are divided into rows by the byte of the line feed, and so is their text by the line feed.

* `Utf8.rows_decode`: it makes no difference whether bytes are divided or decoded first;
* `PieceAround`: the piece of a list that is divided around a place of it;
* `exists_pieceAround`: its number is that of the separators before the place.
-/

/-! ### Dividing lists -/

section Split

variable {α : Type} [BEq α] [LawfulBEq α] {sep : α}

theorem splitAt_of_not_mem {as : List α} (h : sep ∉ as) : splitAt sep as = [as] := by
  rw [splitAt_eq_splitOn, List.splitOn_eq_singleton h]

theorem splitAt_append_cons (sep : α) (front rest : List α) :
    splitAt sep (front ++ sep :: rest) = splitAt sep front ++ splitAt sep rest := by
  rw [splitAt_eq_splitOn, splitAt_eq_splitOn, splitAt_eq_splitOn, List.splitOn_append_cons_self]

end Split

/-! ### Decoding -/

namespace Utf8

/-- Bytes without line feeds are the bytes of one row. -/
theorem rows_decode_of_not_mem {bs : List UInt8} (h : 10 ∉ bs) :
    rows (decode bs) = [decode bs] := by
  have hnone : '\n' ∉ decode bs := by
    rw [← List.count_eq_zero, count_decode, List.count_eq_zero]
    exact h
  rw [rows, splitAt_of_not_mem hnone]

/-- **Rows.** The rows of a text are the texts of the rows of its bytes. -/
theorem rows_decode (bs : List UInt8) : rows (decode bs) = (splitAt 10 bs).map decode := by
  induction hn : bs.length using Nat.strongRecOn generalizing bs with
  | _ n ih =>
    by_cases hfeed : 10 ∈ bs
    · obtain ⟨row, rest, rfl, hrow⟩ := List.eq_append_cons_of_mem hfeed
      have hlt : rest.length < n := by
        rw [← hn, List.length_append, List.length_cons]
        omega
      have hchar : Char.ofNat (10 : UInt8).toNat = '\n' := rfl
      rw [decode_append_ascii row (by decide) rest, hchar, rows, splitAt_append_cons, ← rows,
        ← rows, rows_decode_of_not_mem hrow, ih _ hlt rest rfl, splitAt_append_cons,
        splitAt_of_not_mem hrow, List.map_append, List.map_singleton]
    · rw [rows_decode_of_not_mem hfeed, splitAt_of_not_mem hfeed, List.map_singleton]

end Utf8

/-! ### Places -/

section Place

variable {α : Type} {sep : α} {as before piece after : List α} {place : Nat}

/-- The piece around a place of a list that is divided by `sep`. -/
structure PieceAround (sep : α) (as : List α) (place : Nat) (before piece after : List α) :
    Prop where
  whole : as = before ++ piece ++ after
  start_le : before.length ≤ place
  le_stop : place ≤ before.length + piece.length
  not_mem : sep ∉ piece
  starts : ∀ a, before.getLast? = some a → a = sep
  stops : ∀ a, after.head? = some a → a = sep

/-- What stands before the first separator. -/
theorem exists_front (sep : α) (as : List α) :
    ∃ front rest, as = front ++ rest ∧ sep ∉ front ∧ ∀ a, rest.head? = some a → a = sep := by
  by_cases h : sep ∈ as
  · obtain ⟨front, rest, rfl, hfront⟩ := List.eq_append_cons_of_mem h
    exact ⟨front, sep :: rest, rfl, hfront, by simp [eq_comm]⟩
  · exact ⟨as, [], by simp, h, by simp⟩

/-- What stands behind the last one. -/
theorem exists_back (sep : α) (as : List α) :
    ∃ rest back, as = rest ++ back ∧ sep ∉ back ∧ ∀ a, rest.getLast? = some a → a = sep := by
  obtain ⟨back, rest, hsplit, hback, hrest⟩ := exists_front sep as.reverse
  refine ⟨rest.reverse, back.reverse, ?_, by simpa using hback, by simpa using hrest⟩
  rw [← List.reverse_append, ← hsplit, List.reverse_reverse]

/-- Around every place there is a piece. -/
theorem exists_pieceAround (sep : α) (h : place ≤ as.length) :
    ∃ before piece after, PieceAround sep as place before piece after := by
  obtain ⟨before, left, hleft, hnot, hstarts⟩ := exists_back sep (as.take place)
  obtain ⟨right, after, hright, hnot', hstops⟩ := exists_front sep (as.drop place)
  have hplace : before.length + left.length = place := by
    rw [← List.length_append, ← hleft, List.length_take, Nat.min_eq_left h]
  refine ⟨before, left ++ right, after, ?_, by omega, ?_, by simp [hnot, hnot'], hstarts, hstops⟩
  · rw [← List.take_append_drop place as, hleft, hright]
    simp only [List.append_assoc]
  · rw [List.length_append]
    omega

namespace PieceAround

variable [BEq α] [LawfulBEq α]

/-- As many separators stand before the place as before its piece. -/
theorem count_take (h : PieceAround sep as place before piece after) :
    (as.take place).count sep = before.count sep := by
  obtain ⟨rfl, hstart, hstop, hnot, -, -⟩ := h
  rw [List.append_assoc, List.take_append, List.take_of_length_le hstart,
    List.take_append_of_le_length (by omega), List.count_append, Nat.add_eq_left,
    List.count_eq_zero]
  exact fun hmem => hnot (List.mem_of_mem_take hmem)

/-- Fewer stand before every place in front of the piece and the separator that ends what is before
    it. -/
theorem count_take_lt (h : PieceAround sep as place before piece after) {n : Nat}
    (hn : n < before.length) : (as.take n).count sep < before.count sep := by
  obtain ⟨rfl, -, -, -, hstarts, -⟩ := h
  rcases List.eq_nil_or_concat' before with rfl | ⟨front, a, rfl⟩
  · exact absurd hn (Nat.not_lt_zero n)
  · obtain rfl := hstarts a (by simp)
    rw [List.length_append, List.length_singleton] at hn
    have hfront : n ≤ front.length := Nat.le_of_lt_succ hn
    rw [List.append_assoc, List.append_assoc, List.take_append_of_le_length hfront,
      List.count_append, List.count_singleton_self, Nat.lt_succ_iff]
    exact (List.take_sublist n front).count_le a

/-- The number of a piece is that of the separators before it. -/
theorem getElem?_splitAt (h : PieceAround sep as place before piece after) :
    (splitAt sep as)[before.count sep]? = some piece := by
  obtain ⟨rfl, -, -, hnot, hstarts, hstops⟩ := h
  -- The pieces from this one on.
  have hfirst : (splitAt sep (piece ++ after)).head? = some piece := by
    cases after with
    | nil => rw [List.append_nil, splitAt_of_not_mem hnot, List.head?_singleton]
    | cons a after =>
      obtain rfl := hstops a rfl
      rw [splitAt_append_cons, splitAt_of_not_mem hnot]
      rfl
  rw [List.append_assoc]
  rcases List.eq_nil_or_concat' before with rfl | ⟨front, a, rfl⟩
  · rwa [List.nil_append, List.count_nil, ← List.head?_eq_getElem?]
  · obtain rfl := hstarts a (by simp)
    have hlength : (splitAt a front).length = (front ++ [a]).count a := by
      rw [splitAt, length_splitAfter, List.count_append, List.count_singleton_self, List.length_nil,
        Nat.zero_add]
    rw [List.append_assoc, List.singleton_append, splitAt_append_cons,
      List.getElem?_append_right (Nat.le_of_eq hlength), hlength, Nat.sub_self,
      ← List.head?_eq_getElem?, hfirst]

/-- The last piece is the one behind which nothing stands. -/
theorem count_eq_iff (h : PieceAround sep as place before piece after) :
    before.count sep = as.count sep ↔ after = [] := by
  obtain ⟨rfl, -, -, hnot, -, hstops⟩ := h
  rw [List.count_append, List.count_append, List.count_eq_zero_of_not_mem hnot, Nat.add_zero]
  cases after with
  | nil => simp
  | cons a after =>
    obtain rfl := hstops a rfl
    simp

end PieceAround

end Place

/-! ### Lines -/

/-- Every row but the last loses the carriage return at its end. -/
theorem getElem?_dropReturns_concat (rs : List (List Char)) (last : List Char) (k : Nat) :
    (dropReturns (rs ++ [last]))[k]? =
      ((rs ++ [last])[k]?).map (fun row => if k = rs.length then row else dropReturn row) := by
  rw [dropReturns, List.dropLast_concat, List.getLast?_concat, Option.toList_some]
  rcases Nat.lt_trichotomy k rs.length with hlt | rfl | hgt
  · rw [List.getElem?_append_left (by simpa using hlt), List.getElem?_append_left hlt,
      List.getElem?_map]
    simp only [if_neg (Nat.ne_of_lt hlt)]
  · simp
  · have hover : rs.length + 1 ≤ k := hgt
    rw [List.getElem?_eq_none (by simpa using hover), List.getElem?_eq_none (by simpa using hover)]
    rfl

/-- A line is a row without the carriage return at its end, but the last line is all of its row. -/
theorem getElem?_lines (text : String) (k : Nat) :
    (lines text)[k]? = ((rows text.toList)[k]?).map (fun row =>
      String.ofList (if k = text.toList.count '\n' then row else dropReturn row)) := by
  have hlength : (rows text.toList).length = text.toList.count '\n' + 1 := by
    rw [rows, splitAt, length_splitAfter, List.length_nil, Nat.zero_add]
  rw [lines, List.getElem?_map]
  obtain ⟨front, last, heq⟩ := (List.eq_nil_or_concat' _).resolve_left (rows_ne_nil text.toList)
  rw [heq, List.length_append, List.length_singleton, Nat.add_right_cancel_iff] at hlength
  rw [heq, getElem?_dropReturns_concat, Option.map_map, hlength]
  rfl

end PackageAtlas.Text
