namespace PackageAtlas.Text

/-!
# Sets and maps of code points

Properties of characters are tables of a standard, held as sorted arrays that are searched by
bisection. Those of sets are written as text, one word per range of code points in hexadecimal
(`"41-5a 61-7a aa"`).

* `CodePoints`: a set of code points, `CodePoints.contains`;
* `CodeShift`: a partial map that moves each range by a fixed distance, `CodeShift.apply?`.
-/

/-- The value of a hexadecimal digit. -/
def hexDigit? (c : Char) : Option Nat :=
  if '0' ≤ c && c ≤ '9' then some (c.toNat - '0'.toNat)
  else if 'a' ≤ c && c ≤ 'f' then some (c.toNat - 'a'.toNat + 10)
  else if 'A' ≤ c && c ≤ 'F' then some (c.toNat - 'A'.toNat + 10)
  else none

/-- The number written by the hexadecimal digits of a list; other characters are skipped. -/
def hexNumber (cs : List Char) : Nat :=
  cs.foldl (fun n c => match hexDigit? c with
    | some d => n * 16 + d
    | none => n) 0

/-- The parts of a list between the characters that satisfy `p`, which are dropped. -/
def splitList (p : Char → Bool) (cs : List Char) : List (List Char) :=
  let parts := cs.foldl (fun (acc : List (List Char) × List Char) c =>
    if p c then (acc.2.reverse :: acc.1, []) else (acc.1, c :: acc.2)) ([], [])
  (parts.2.reverse :: parts.1).reverse

/-- The words of a table. -/
def tableWords (text : String) : List (List Char) :=
  (splitList (fun c => c == ' ' || c == '\n') text.toList).filter (fun w => !w.isEmpty)

/-- A set of code points as disjoint ranges in ascending order. -/
structure CodePoints where
  /-- First and last member of each range. -/
  ranges : Array (Nat × Nat)

/-- The range that a word such as `41-5a` or `aa` names. -/
def rangeOfWord (w : List Char) : Nat × Nat :=
  match splitList (· == '-') w with
  | [a, b] => (hexNumber a, hexNumber b)
  | _ => (hexNumber w, hexNumber w)

/-- Reads a set from its table. -/
def CodePoints.ofTable (text : String) : CodePoints :=
  ⟨((tableWords text).map rangeOfWord).toArray⟩

/-- The position in `[lo, hi)` of the last range that starts at or before `n`, if there is one. -/
def lastStart {α : Type} (first : α → Nat) (rows : Array α) (n lo hi : Nat) : Option α :=
  if h : lo < hi ∧ hi ≤ rows.size then
    have : (lo + hi) / 2 < rows.size := by omega
    let row := rows[(lo + hi) / 2]
    if first row ≤ n then
      match lastStart first rows n ((lo + hi) / 2 + 1) hi with
      | some r => some r
      | none => some row
    else lastStart first rows n lo ((lo + hi) / 2)
  else none
  termination_by hi - lo

/-- Whether a code point is in the set. -/
def CodePoints.contains (s : CodePoints) (n : Nat) : Bool :=
  match lastStart (·.1) s.ranges n 0 s.ranges.size with
  | some (_, last) => n ≤ last
  | none => false

/-- One row of a map: the code points `first`, `first + step`, … up to `last` move by `delta`. -/
structure ShiftRow where
  first : Nat
  last : Nat
  step : Nat
  delta : Int

/-- A map that moves runs of code points, and is undefined elsewhere. -/
structure CodeShift where
  rows : Array ShiftRow

/-- The image of a code point. -/
def CodeShift.apply? (s : CodeShift) (n : Nat) : Option Nat :=
  match lastStart (·.first) s.rows n 0 s.rows.size with
  | some row =>
    if n ≤ row.last ∧ (n - row.first) % row.step = 0 then some ((n : Int) + row.delta).toNat
    else none
  | none => none

end PackageAtlas.Text
