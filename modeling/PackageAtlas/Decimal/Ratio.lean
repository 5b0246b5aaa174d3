namespace PackageAtlas.Decimal

/-!
# Rounded ratios

* `roundDiv`: the quotient of two numbers, rounded to the nearest number, halves to the even one;
* `Binary`: a number of double precision, as a multiple of a power of two;
* `binaryRatio`: the double nearest to a ratio;
* `thousandths`: a ratio in thousandths, by way of the double nearest to it.
-/

/-- The quotient, rounded to the nearest number; a half goes to the even neighbour. -/
def roundDiv (num den : Nat) : Nat :=
  let q := num / den
  let r := num % den
  if den < 2 * r then q + 1
  else if 2 * r = den && q % 2 = 1 then q + 1
  else q

/-- The number `mantissa / 2 ^ scale`. -/
structure Binary where
  mantissa : Nat
  scale : Nat
deriving Repr, DecidableEq

/-- The number of bits of a mantissa. -/
def mantissaBits : Nat := 53

/-- The double nearest to `num / den`, where `num ≤ den`. -/
def binaryRatio (num den : Nat) : Binary :=
  if num = 0 then ⟨0, 0⟩
  else
    let scale := mantissaBits + den.log2 - num.log2
    if num * Nat.pow 2 scale / den < Nat.pow 2 mantissaBits then
      ⟨roundDiv (num * Nat.pow 2 scale) den, scale⟩
    else ⟨roundDiv (num * Nat.pow 2 (scale - 1)) den, scale - 1⟩

/-- The double nearest to `num / den`, rounded to thousandths. -/
def thousandths (num den : Nat) : Nat :=
  let b := binaryRatio num den
  roundDiv (b.mantissa * 1000) (Nat.pow 2 b.scale)

end PackageAtlas.Decimal
