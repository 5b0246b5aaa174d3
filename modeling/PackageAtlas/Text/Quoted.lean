import PackageAtlas.Text.Classes

namespace PackageAtlas.Text

/-!
# Quoted text

A text between quotes, with escapes for what cannot be seen. Single quotes are used unless the text
holds a single quote and no double quote.

* `quoted`: a text in quotes; `quotedBytes`: bytes in quotes;
* `hexText`: a number in hexadecimal digits, padded with zeros.
-/

/-- A hexadecimal digit. -/
def hexDigitChar (n : Nat) : Char :=
  if n < 10 then Char.ofNat (0x30 + n) else Char.ofNat (0x61 + (n - 10))

/-- The last `width` hexadecimal digits of a number, behind those of `done`. -/
def hexTextAfter (done : List Char) : Nat → Nat → List Char
  | 0, _ => done
  | width + 1, n => hexTextAfter (hexDigitChar (n % 16) :: done) width (n / 16)

/-- The last `width` hexadecimal digits of a number. -/
def hexText (width n : Nat) : List Char := hexTextAfter [] width n

/-- The single quote. -/
def singleQuote : Char := Char.ofNat 0x27

/-- The double quote. -/
def doubleQuote : Char := Char.ofNat 0x22

/-- The quote to put around some characters. -/
def quoteFor (cs : List Char) : Char :=
  if cs.contains singleQuote && !cs.contains doubleQuote then doubleQuote else singleQuote

/-- The escape of a character that needs one whatever the quote. -/
def commonEscape? (c : Char) : Option (List Char) :=
  if c == '\\' then some ['\\', '\\']
  else if c == '\t' then some ['\\', 't']
  else if c == '\n' then some ['\\', 'n']
  else if c == '\r' then some ['\\', 'r']
  else none

/-- A character between quotes `q`. -/
def quotedChar (q c : Char) : List Char :=
  match commonEscape? c with
  | some cs => cs
  | none =>
    if c == q then ['\\', c]
    else if isPrintable c then [c]
    else if c.toNat < 0x100 then '\\' :: 'x' :: hexText 2 c.toNat
    else if c.toNat < 0x10000 then '\\' :: 'u' :: hexText 4 c.toNat
    else '\\' :: 'U' :: hexText 8 c.toNat

/-- A text in quotes. -/
def quoted (text : String) : String :=
  let q := quoteFor text.toList
  String.ofList (q :: text.toList.flatMap (quotedChar q) ++ [q])

/-- A byte between quotes `q`. -/
def quotedByte (q : Char) (b : UInt8) : List Char :=
  let c := Char.ofNat b.toNat
  match commonEscape? c with
  | some cs => cs
  | none =>
    if c == q then ['\\', c]
    else if 0x20 ≤ b && b < 0x7F then [c]
    else '\\' :: 'x' :: hexText 2 b.toNat

/-- Bytes in quotes, with a mark that they are bytes. -/
def quotedBytes (bytes : List UInt8) : String :=
  let q := quoteFor (bytes.map (fun b => Char.ofNat b.toNat))
  String.ofList ('b' :: q :: bytes.flatMap (quotedByte q) ++ [q])

end PackageAtlas.Text
