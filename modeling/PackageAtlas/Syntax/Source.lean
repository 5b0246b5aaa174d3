import PackageAtlas.Syntax.Node
import PackageAtlas.Text.CodePoints
import PackageAtlas.Text.Utf8

namespace PackageAtlas.Syntax

/-!
# Sources

A source is read by places, which count bytes.

* `Source`: the bytes with the starts of their rows; `row`, `point`, `extent`;
* `Source.glyph`: the character at a place and the place behind it;
* `Source.skipWhile`: past the characters of a class;
* `Source.isAt`: whether a text stands at a place.
-/

/-- A source that is read. -/
structure Source where
  bytes : ByteArray
  /-- Where each row starts, with the number of the row. -/
  rowStarts : Array (Nat × Nat)

/-- A character at a place. -/
structure Glyph where
  /-- The code point; zero stands for the end of the source, as it does for the character zero. -/
  code : Nat
  /-- The place behind the character. -/
  stop : Nat
deriving Repr, DecidableEq

/-- The code of a byte that is no part of a character; it is above all code points. -/
def brokenCode : Nat := 0x110000

namespace Source

/-- The number of bytes. -/
def size (s : Source) : Nat := s.bytes.size

/-- The byte at a place, zero past the end. -/
def byte (s : Source) (i : Nat) : UInt8 :=
  if h : i < s.bytes.size then s.bytes[i] else 0

/-- The source of some bytes. -/
def ofBytes (bytes : ByteArray) : Source :=
  ⟨bytes, (List.range bytes.size).foldl (fun (acc : Array (Nat × Nat)) i =>
    if bytes[i]? == some 0x0A then acc.push (i + 1, acc.size) else acc) #[(0, 0)]⟩

/-- The row of a place, from zero. -/
def row (s : Source) (i : Nat) : Nat :=
  match Text.lastStart (·.1) s.rowStarts i 0 s.rowStarts.size with
  | some (_, row) => row
  | none => 0

/-- The point of a place. -/
def point (s : Source) (i : Nat) : Point :=
  match Text.lastStart (·.1) s.rowStarts i 0 s.rowStarts.size with
  | some (start, row) => ⟨row, i - start⟩
  | none => ⟨0, i⟩

/-- What lies between two places. -/
def extent (s : Source) (i j : Nat) : Extent := ⟨s.point i, s.point j, i, j⟩

/-! ### Characters -/

/-- The code of a sequence that started at `start`, of which `more` bytes from `i` on and the
    payload `bits` of those before are left; the sequence is broken if they do not continue it. -/
def glyphRest (s : Source) (start : Nat) : Nat → Nat → Nat → Glyph
  | 0, bits, i => ⟨bits, max i (start + 1)⟩
  | more + 1, bits, i =>
    if Text.Utf8.isContinuation (s.byte i) then
      glyphRest s start more (bits * 64 + ((s.byte i).toNat - 0x80)) (i + 1)
    else ⟨brokenCode, start + 1⟩

/-- The character at a place. A byte that is part of none is passed over on its own. -/
def glyph (s : Source) (i : Nat) : Glyph :=
  if i < s.size then
    match Text.Utf8.lead (s.byte i) with
    | .ascii => ⟨(s.byte i).toNat, i + 1⟩
    | .stray => ⟨brokenCode, i + 1⟩
    | .long more lo hi bits =>
      if lo ≤ s.byte (i + 1) && s.byte (i + 1) ≤ hi then
        glyphRest s i more (bits * 64 + ((s.byte (i + 1)).toNat - 0x80)) (i + 2)
      else ⟨brokenCode, i + 1⟩
  else ⟨0, i⟩

/-- The code of the character at a place. -/
def code (s : Source) (i : Nat) : Nat := (s.glyph i).code

theorem lt_glyphRest_stop (s : Source) (start more bits i : Nat) :
    start < (s.glyphRest start more bits i).stop := by
  induction more generalizing bits i with
  | zero => simp only [glyphRest]; omega
  | succ more ih =>
    simp only [glyphRest]
    split
    · exact ih _ _
    · exact Nat.lt_succ_self start

/-- Reading a character moves on. -/
theorem lt_glyph_stop (s : Source) {i : Nat} (h : i < s.size) : i < (s.glyph i).stop := by
  unfold glyph
  rw [if_pos h]
  split
  · exact Nat.lt_succ_self i
  · exact Nat.lt_succ_self i
  · split
    · exact lt_glyphRest_stop s i _ _ _
    · exact Nat.lt_succ_self i

/-- The first place at or after `i` whose character is not in a class, the end at the latest. -/
def skipWhile (s : Source) (p : Nat → Bool) (i : Nat) : Nat :=
  if h : i < s.size then
    have := s.lt_glyph_stop h
    if p (s.glyph i).code then skipWhile s p (s.glyph i).stop else i
  else i
  termination_by s.size - i

/-- Whether some bytes stand at a place. -/
def isAt (s : Source) (i : Nat) : List UInt8 → Bool
  | [] => true
  | b :: bs => i < s.size && s.byte i == b && isAt s (i + 1) bs

/-- The text between two places, which holds whole characters. -/
def slice (s : Source) (i j : Nat) : String := (String.fromUTF8? (s.bytes.extract i j)).getD ""

end Source

end PackageAtlas.Syntax
