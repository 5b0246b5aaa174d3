import PackageAtlas.Text.Classes

namespace PackageAtlas.Text

/-!
# Integers in text

An integer is written in decimal digits of any script, with single underscores between them, a
sign before them and white space around them. A text of too many digits is no integer.

* `digitLimit`: the largest number of digits;
* `integer?`: the integer that a text stands for.
-/

/-- The largest number of digits that is read. -/
def digitLimit : Nat := 4300

/-- White space around an integer: that of ASCII without the separators of records, and all
    white space outside of ASCII. -/
def isIntegerBlank (c : Char) : Bool :=
  if c.toNat < 0x7F then c.toNat == 0x20 || (0x09 ≤ c.toNat && c.toNat ≤ 0x0D) else isBlank c

/-- The values of the digits of a text, last one first; an underscore stands only between two
    digits. -/
def digitValuesAfter (done : List Nat) : List Char → Option (List Nat)
  | [] => some done
  | '_' :: c :: cs =>
    match done, decimalValue? c with
    | _ :: _, some d => digitValuesAfter (d :: done) cs
    | _, _ => none
  | c :: cs =>
    match decimalValue? c with
    | some d => digitValuesAfter (d :: done) cs
    | none => none

/-- The number that a text of digits stands for. -/
def natural? (cs : List Char) : Option Nat :=
  match digitValuesAfter [] cs with
  | none => none
  | some [] => none
  | some ds =>
    if digitLimit < ds.length then none
    else some (ds.foldr (fun d n => n * 10 + d) 0)

/-- A list of characters without the white space around an integer. -/
def trimInteger (cs : List Char) : List Char :=
  ((cs.dropWhile isIntegerBlank).reverse.dropWhile isIntegerBlank).reverse

/-- The integer that a text stands for. -/
def integer? (text : String) : Option Int :=
  match trimInteger text.toList with
  | '-' :: cs => (natural? cs).map (fun n => -(n : Int))
  | '+' :: cs => (natural? cs).map (fun n => (n : Int))
  | cs => (natural? cs).map (fun n => (n : Int))

end PackageAtlas.Text
