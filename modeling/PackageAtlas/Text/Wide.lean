import PackageAtlas.Text.Quoted

namespace PackageAtlas.Text

/-!
# Wide texts

A wide text is a sequence of code points that may also hold halves of pairs, which no character
has. A text with such a half can be compared but not written.

* `WideText`, `WideText.ofString`, `WideText.toString?`;
* `WideText.contains`: whether one text holds another;
* `UnwritableText`: where the first halves stand in a text that cannot be written.
-/

/-- A sequence of code points. -/
structure WideText where
  codes : List Nat
deriving Repr, DecidableEq, Inhabited

/-- Whether a code point is half of a pair. -/
def isHalf (n : Nat) : Bool := 0xD800 ≤ n && n ≤ 0xDFFF

/-- Whether `xs` stands somewhere in `ys`. -/
def holdsList {α : Type} [BEq α] (xs : List α) : List α → Bool
  | [] => xs.isEmpty
  | y :: ys => xs.isPrefixOf (y :: ys) || holdsList xs ys

/-- Whether a text stands somewhere in another. -/
def holdsText (part whole : String) : Bool := holdsList part.toList whole.toList

/-- Where halves stand in a text: the place of the first, and how many follow each other. -/
structure UnwritableText where
  place : Nat
  count : Nat
  /-- The first half. -/
  code : Nat
deriving Repr, DecidableEq

/-- The wording for a text that cannot be written. -/
def UnwritableText.message (e : UnwritableText) : String :=
  if e.count = 1 then
    let escape := String.ofList ('\\' :: 'u' :: hexText 4 e.code)
    s!"'utf-8' codec can't encode character '{escape}' in position {e.place}: surrogates not allowed"
  else
    let last := e.place + e.count - 1
    s!"'utf-8' codec can't encode characters in position {e.place}-{last}: surrogates not allowed"

namespace WideText

/-- A text as a wide text. -/
def ofString (text : String) : WideText := ⟨text.toList.map Char.toNat⟩

/-- One wide text behind another. -/
def append (a b : WideText) : WideText := ⟨a.codes ++ b.codes⟩

/-- Whether a text has no code points. -/
def isEmpty (t : WideText) : Bool := t.codes.isEmpty

/-- Whether a text stands somewhere in a wide text. -/
def contains (whole : WideText) (part : String) : Bool :=
  holdsList (part.toList.map Char.toNat) whole.codes

/-- The halves that stand first in a text. -/
def firstHalves? (t : WideText) : Option UnwritableText :=
  let place := (t.codes.takeWhile (fun n => !isHalf n)).length
  match t.codes.drop place with
  | [] => none
  | n :: ns => some ⟨place, (ns.takeWhile isHalf).length + 1, n⟩

/-- The text, with marks in place of halves. -/
def shown (t : WideText) : String := String.ofList (t.codes.map Char.ofNat)

/-- The text, if it holds no halves. -/
def toString? (t : WideText) : Except UnwritableText String :=
  match t.firstHalves? with
  | some e => .error e
  | none => .ok t.shown

end WideText

end PackageAtlas.Text
