import PackageAtlas.Declaration.Extract
import PackageAtlas.Proofs.Text.Rows
import PackageAtlas.Syntax.Source

namespace PackageAtlas

/-!
# Rows of sources

A parser tells where something stands by the row and the column of a byte, and the rows of a source
are looked up in its text:

* `Text.lastStart_eq`: what is found by bisection is the last row that starts soon enough;
* `Syntax.Source.point_eq`: the row of a place is the number of line feeds before it, and its column
  that of bytes behind the last of these;
* `Syntax.Source.TellsRows`: a parser tells rows so, as the points of a source do;
* `Declaration.decoding_keeps_rows`: so the row of a place is the text of the bytes around it.
-/

/-! ### Bisection -/

namespace Text

/-- Where the first rows and no others start soon enough, up to the one at `k`, that one is
    found. -/
theorem lastStart_eq {α : Type} {f : α → Nat} {rows : Array α} {n k : Nat}
    (hk : k < rows.size) (h : ∀ j (hj : j < rows.size), f rows[j] ≤ n ↔ j ≤ k) {lo hi : Nat}
    (hhi : hi ≤ rows.size) :
    (k < lo → lastStart f rows n lo hi = none) ∧
      (lo ≤ k → k < hi → lastStart f rows n lo hi = some rows[k]) := by
  fun_induction lastStart f rows n lo hi with
  | case1 lo hi hb hmid mid hle row hrow ih =>
    -- Something is found behind the middle, so the middle is not the last one.
    obtain ⟨hbefore, hbehind⟩ := ih hb.2
    have hmidk : (lo + hi) / 2 ≤ k := (h _ hmid).mp hle
    rcases Nat.lt_or_ge ((lo + hi) / 2) k with hlt | hge
    · exact ⟨fun _ => by omega, fun _ hk' => hrow ▸ hbehind hlt hk'⟩
    · rw [hbefore (by omega)] at hrow
      cases hrow
  | case2 lo hi hb hmid mid hle hrow ih =>
    obtain ⟨hbefore, hbehind⟩ := ih hb.2
    have hmidk : (lo + hi) / 2 ≤ k := (h _ hmid).mp hle
    refine ⟨fun _ => by omega, fun _ hk' => ?_⟩
    rcases Nat.lt_or_ge ((lo + hi) / 2) k with hlt | hge
    · rw [hbehind hlt hk'] at hrow
      cases hrow
    · obtain rfl : k = (lo + hi) / 2 := by omega
      rfl
  | case3 lo hi hb hmid mid hle ih =>
    have hkmid : k < (lo + hi) / 2 := by
      rw [← Nat.not_le]
      exact fun hge => hle ((h _ hmid).mpr hge)
    obtain ⟨hbefore, hbehind⟩ := ih (by omega)
    exact ⟨hbefore, fun hlo _ => hbehind hlo hkmid⟩
  | case4 lo hi hb => exact ⟨fun _ => rfl, fun _ hk' => absurd ⟨by omega, hhi⟩ hb⟩

end Text

/-! ### Places -/

namespace Syntax.Source

/-- A byte array as a list holds the same bytes. -/
theorem toList_eq (bytes : ByteArray) : bytes.toList = bytes.data.toList := by
  -- The loop collects the bytes from its place on, behind those that it has.
  have hloop : ∀ (left i : Nat) (done : List UInt8), bytes.size - i = left →
      ByteArray.toList.loop bytes i done = done.reverse ++ bytes.data.toList.drop i := by
    intro left
    induction left with
    | zero =>
      intro i done hleft
      have hi : bytes.data.toList.length ≤ i := by simpa using Nat.sub_eq_zero_iff_le.mp hleft
      rw [ByteArray.toList.loop, if_neg (by omega), List.drop_eq_nil_of_le hi, List.append_nil]
    | succ left ih =>
      intro i done hleft
      have hi : i < bytes.data.toList.length := by
        have : i < bytes.size := by omega
        simpa using this
      have hget : bytes.get! i = bytes.data.toList[i] := by
        rw [ByteArray.get!, getElem!_pos bytes.data i (by simpa using hi), Array.getElem_toList]
      rw [ByteArray.toList.loop, if_pos (by omega), ih _ _ (by omega), hget, List.reverse_cons,
        List.append_assoc, List.singleton_append, ← List.drop_eq_getElem_cons hi]
  exact hloop bytes.size 0 [] rfl

theorem size_eq (bytes : ByteArray) : bytes.toList.length = bytes.size := by
  rw [toList_eq]
  rfl

/-- What the table of starts holds once `n` bytes have been looked at: where the number of line
    feeds becomes that of a row. -/
structure Starts (bs : List UInt8) (n : Nat) (starts : Array (Nat × Nat)) : Prop where
  size : starts.size = (bs.take n).count 10 + 1
  number : ∀ k (h : k < starts.size), starts[k].2 = k
  count : ∀ k (h : k < starts.size), (bs.take starts[k].1).count 10 = k
  least : ∀ k (h : k < starts.size) place, place < starts[k].1 → (bs.take place).count 10 < k

variable {bs : List UInt8} {n place place' : Nat} {starts : Array (Nat × Nat)}

theorem count_take_mono (h : place ≤ place') :
    (bs.take place).count 10 ≤ (bs.take place').count 10 :=
  (List.take_sublist_take_left h).count_le 10

theorem count_take_succ (bs : List UInt8) (n : Nat) :
    (bs.take (n + 1)).count 10 = (bs.take n).count 10 + if bs[n]? = some 10 then 1 else 0 := by
  rw [List.take_add_one, List.count_append]
  congr 1
  rcases bs[n]? with _ | b
  · rfl
  · simp [List.count_singleton]

theorem starts_zero (bs : List UInt8) : Starts bs 0 #[(0, 0)] where
  size := rfl
  number k h := by
    obtain rfl : k = 0 := by simpa using h
    rfl
  count k h := by
    obtain rfl : k = 0 := by simpa using h
    rfl
  least k h place hplace := by
    obtain rfl : k = 0 := by simpa using h
    exact absurd hplace (Nat.not_lt_zero place)

/-- One more byte starts a row behind it if it is a line feed. -/
theorem Starts.step (h : Starts bs n starts) :
    Starts bs (n + 1) (if bs[n]? == some 10 then starts.push (n + 1, starts.size) else starts) := by
  have hcount := count_take_succ bs n
  by_cases hfeed : bs[n]? = some 10
  · rw [if_pos hfeed] at hcount
    rw [if_pos (by simp [hfeed])]
    refine ⟨by rw [Array.size_push, h.size, hcount], fun k hk => ?_, fun k hk => ?_,
      fun k hk place hplace => ?_⟩
    all_goals
      rw [Array.size_push] at hk
      -- A start is one of those before, or the new one.
      rcases Nat.lt_or_ge k starts.size with hlt | hge
    · rw [Array.getElem_push_lt hlt]
      exact h.number k hlt
    · obtain rfl : k = starts.size := by omega
      rw [Array.getElem_push_eq]
    · rw [Array.getElem_push_lt hlt]
      exact h.count k hlt
    · obtain rfl : k = starts.size := by omega
      rw [Array.getElem_push_eq, hcount, h.size]
    · rw [Array.getElem_push_lt hlt] at hplace
      exact h.least k hlt place hplace
    · obtain rfl : k = starts.size := by omega
      rw [Array.getElem_push_eq] at hplace
      rw [h.size, Nat.lt_succ_iff]
      exact count_take_mono (Nat.le_of_lt_succ hplace)
  · rw [if_neg hfeed] at hcount
    rw [if_neg (by simpa using hfeed)]
    exact ⟨by rw [h.size, hcount, Nat.add_zero], h.number, h.count, h.least⟩

theorem starts_ofBytes (bytes : ByteArray) :
    Starts bytes.toList bytes.size (ofBytes bytes).rowStarts := by
  have hget : ∀ i : Nat, bytes[i]? = bytes.toList[i]? := by
    intro i
    rw [toList_eq, Array.getElem?_toList]
    rfl
  unfold ofBytes
  simp only [hget]
  induction bytes.size with
  | zero => exact starts_zero _
  | succ n ih =>
    rw [List.range_succ, List.foldl_append]
    exact ih.step

/-- **Points.** The row of a place is the number of line feeds before it, and its column that of the
    bytes behind the last of them. -/
theorem point_eq {bytes : ByteArray} {before row after : List UInt8}
    (h : Text.PieceAround 10 bytes.toList place before row after) :
    (ofBytes bytes).point place = ⟨before.count 10, place - before.length⟩ := by
  have hstarts := starts_ofBytes bytes
  generalize hrows : (ofBytes bytes).rowStarts = starts at hstarts
  have hcount := h.count_take
  have hk : before.count 10 < starts.size := by
    rw [hstarts.size, Nat.lt_succ_iff, ← hcount, ← size_eq, List.take_length]
    exact (List.take_sublist _ _).count_le 10
  have hfound := (Text.lastStart_eq (f := (·.1)) (n := place) hk (fun j hj => ?_)
    (Nat.le_refl starts.size)).2 (Nat.zero_le _) hk
  · -- The row starts where the piece around the place does.
    have hstart : starts[before.count 10].1 = before.length := by
      apply Nat.le_antisymm
      · rw [← Nat.not_lt]
        intro hlt
        have hfew := hstarts.least _ hk _ hlt
        rw [h.whole, List.append_assoc, List.take_left] at hfew
        exact Nat.lt_irrefl _ hfew
      · rw [← Nat.not_lt]
        intro hlt
        have hfew := h.count_take_lt hlt
        rw [hstarts.count _ hk] at hfew
        exact Nat.lt_irrefl _ hfew
    rw [point, hrows, hfound]
    simp only [hstart, hstarts.number]
  · -- A row starts up to a place if there are enough line feeds before the place.
    rw [← hcount]
    constructor
    · intro hle
      rw [← hstarts.count j hj]
      exact count_take_mono hle
    · intro hle
      rw [← Nat.not_lt]
      exact fun hlt => absurd (hstarts.least j hj place hlt) (Nat.not_lt.mpr hle)

/-- The row of every place is told as the number of line feeds before it. -/
def TellsRows (bytes : ByteArray) (rowOf : Nat → Nat) : Prop :=
  ∀ place, place ≤ bytes.size → rowOf place = (bytes.toList.take place).count 10

theorem TellsRows.eq_count {bytes : ByteArray} {rowOf : Nat → Nat} (hrows : TellsRows bytes rowOf)
    {before row after : List UInt8} (h : Text.PieceAround 10 bytes.toList place before row after) :
    rowOf place = before.count 10 := by
  have hplace : place ≤ bytes.size := by
    have hstop := h.le_stop
    rw [← size_eq, h.whole, List.length_append, List.length_append]
    omega
  rw [hrows place hplace, h.count_take]

/-- So are the rows of the points of a source. -/
theorem tellsRows_point (bytes : ByteArray) :
    TellsRows bytes (fun place => ((ofBytes bytes).point place).row) := by
  intro place hplace
  rw [← size_eq] at hplace
  obtain ⟨before, row, after, h⟩ := Text.exists_pieceAround 10 hplace
  show ((ofBytes bytes).point place).row = _
  rw [point_eq h, h.count_take]

end Syntax.Source

/-! ### Decoded rows -/

namespace Declaration

open Syntax.Source (TellsRows tellsRows_point)
open Text (PieceAround dropReturn lines rows splitAt)
open Text.Utf8 (Decodes decode decodeBytes)

/-- **Rows of sources.** Decoding gives a replacement for every sequence that is broken, and nothing
    else but characters for their bytes. Whatever the bytes, the rows of their text are the texts of
    their rows; there is one more than there are line feeds, and so there is of the lines that are
    read. Where a parser tells the row of a place as the number of line feeds before it, the row of
    that number is the text of the row of bytes around the place, and so is the line, without the
    carriage return of a line end; and the points of a source tell rows so. -/
theorem decoding_keeps_rows (bytes : ByteArray) :
    (∀ text, Decodes bytes.toList text ↔ decode bytes.toList = text) ∧
    rows (decode bytes.toList) = (splitAt 10 bytes.toList).map decode ∧
    (Source.ofBytes bytes).rows.size = bytes.toList.count 10 + 1 ∧
    (lines (decodeBytes bytes)).length = bytes.toList.count 10 + 1 ∧
    (∀ place, place ≤ bytes.size → ∃ before row after,
      PieceAround 10 bytes.toList place before row after) ∧
    (∀ rowOf : Nat → Nat, TellsRows bytes rowOf → ∀ place before row after,
      PieceAround 10 bytes.toList place before row after →
        (Source.ofBytes bytes).rows[rowOf place]? = some (decode row) ∧
        (lines (decodeBytes bytes))[rowOf place]? =
          some (String.ofList (if after = [] then decode row else dropReturn (decode row)))) ∧
    ∀ place before row after, PieceAround 10 bytes.toList place before row after →
      (Syntax.Source.ofBytes bytes).point place = ⟨before.count 10, place - before.length⟩ ∧
      (Source.ofBytes bytes).rows[before.count 10]? = some (decode row) ∧
      (lines (decodeBytes bytes))[before.count 10]? =
        some (String.ofList (if after = [] then decode row else dropReturn (decode row))) := by
  -- The row of this number is that of the same number among the rows of bytes, decoded.
  have hrows := Text.Utf8.rows_decode bytes.toList
  have hbytes : (decodeBytes bytes).toList = decode bytes.toList := by
    rw [decodeBytes, Text.Utf8.decodeText, String.toList_ofList]
  have hselects : ∀ place before row after, PieceAround 10 bytes.toList place before row after →
      (Source.ofBytes bytes).rows[before.count 10]? = some (decode row) ∧
      (lines (decodeBytes bytes))[before.count 10]? =
        some (String.ofList (if after = [] then decode row else dropReturn (decode row))) := by
    intro place before row after h
    have hrow : (rows (decode bytes.toList))[before.count 10]? = some (decode row) := by
      rw [hrows, List.getElem?_map, h.getElem?_splitAt, Option.map_some]
    constructor
    · rw [Source.ofBytes, List.getElem?_toArray, hrow]
    · rw [Text.getElem?_lines, hbytes, hrow, Option.map_some, Text.Utf8.count_decode]
      simp only [h.count_eq_iff]
  refine ⟨fun text => Text.Utf8.decodes_iff, hrows, ?_, Text.length_lines_decodeBytes bytes,
    fun place hplace => ?_, fun rowOf htells place before row after h => ?_,
    fun place before row after h => ⟨Syntax.Source.point_eq h, hselects place before row after h⟩⟩
  · rw [Source.ofBytes, List.size_toArray, hrows, List.length_map, splitAt, Text.length_splitAfter,
      List.length_nil, Nat.zero_add]
  · rw [← Syntax.Source.size_eq] at hplace
    exact Text.exists_pieceAround 10 hplace
  · rw [htells.eq_count h]
    exact hselects place before row after h

/-- Bytes with a sequence that is broken off before a line feed, a byte that no sequence starts
    with, and half of a pair at the end. -/
def brokenBytes : ByteArray := ⟨#[0xE2, 0x82, 0x0A, 0xC0, 0x41, 0x0D, 0x0A, 0xED, 0xA0, 0x80]⟩

/-- The line feed is not part of what is broken off before it, and the row behind it is decoded by
    itself. -/
theorem decoding_keeps_rows_broken :
    PieceAround 10 brokenBytes.toList 4 [0xE2, 0x82, 0x0A] [0xC0, 0x41, 0x0D]
      [0x0A, 0xED, 0xA0, 0x80] ∧
    (lines (decodeBytes brokenBytes)).length = 3 ∧
    (Syntax.Source.ofBytes brokenBytes).point 4 = ⟨1, 1⟩ ∧
    (Source.ofBytes brokenBytes).rows[((Syntax.Source.ofBytes brokenBytes).point 4).row]? =
      some [Text.Utf8.replacement, 'A', '\r'] ∧
    (lines (decodeBytes brokenBytes))[((Syntax.Source.ofBytes brokenBytes).point 4).row]? =
      some (String.ofList [Text.Utf8.replacement, 'A']) := by
  have haround : PieceAround 10 brokenBytes.toList 4 [0xE2, 0x82, 0x0A] [0xC0, 0x41, 0x0D]
      [0x0A, 0xED, 0xA0, 0x80] :=
    ⟨by rw [Syntax.Source.toList_eq]; rfl, by decide, by decide, by decide, by simp, by simp⟩
  have hdecode : decode [0xC0, 0x41, 0x0D] = [Text.Utf8.replacement, 'A', '\r'] := by
    decide +kernel
  obtain ⟨-, -, -, hlength, -, hparser, hplaces⟩ := decoding_keeps_rows brokenBytes
  obtain ⟨hpoint, -⟩ := hplaces 4 _ _ _ haround
  obtain ⟨hrow, hline⟩ := hparser _ (tellsRows_point brokenBytes) 4 _ _ _ haround
  rw [hdecode] at hrow hline
  refine ⟨haround, ?_, hpoint, hrow, hline⟩
  rw [hlength, Syntax.Source.toList_eq]
  rfl

end Declaration

end PackageAtlas
