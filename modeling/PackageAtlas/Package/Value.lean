import PackageAtlas.Text.Integer
import PackageAtlas.Text.Wide

namespace PackageAtlas.Package

open Text (WideText)

/-!
# Values in manifests

A manifest is written as a value: texts, numbers, lists and records of values. Besides the numbers
of the format there are three that are no finite numbers, written as words.

* `Value`, `Value.get?`, `Value.holds`: values, their fields, and whether they count as true;
* `readValue`: reads a value; `valueOf?`: the value of a whole text.
-/

/-- A value. -/
inductive Value where
  | null
  | truth (b : Bool)
  /-- A number; only whether it is zero is of interest. -/
  | number (isZero : Bool)
  | text (t : WideText)
  | list (items : List Value)
  | record (fields : List (WideText × Value))
deriving Inhabited

/-- A field of a record; of several with one name, the last. -/
def Value.get? : Value → String → Option Value
  | .record fields, key =>
    ((fields.filter (fun f => f.1 == WideText.ofString key)).getLast?).map (·.2)
  | _, _ => none

/-- Whether a value counts as true: all but null, false, zero and what is empty. -/
def Value.holds : Value → Bool
  | .null => false
  | .truth b => b
  | .number isZero => !isZero
  | .text t => !t.isEmpty
  | .list items => !items.isEmpty
  | .record fields => !fields.isEmpty

/-- The text in a value, if it is a text that is not empty. -/
def Value.text? : Value → Option WideText
  | .text t => if t.isEmpty then none else some t
  | _ => none

/-! ### Texts -/

/-- Whether a character is white space between values. -/
def isValueBlank (c : Char) : Bool := c == ' ' || c == '\t' || c == '\n' || c == '\r'

/-- What is left behind white space. -/
def skipBlank (cs : List Char) : List Char := cs.dropWhile isValueBlank

/-- The code point of four hexadecimal digits. -/
def fourDigits? : List Char → Option (Nat × List Char)
  | a :: b :: c :: d :: rest =>
    if [a, b, c, d].all (fun x => (Text.hexDigit? x).isSome) then
      some (Text.hexNumber [a, b, c, d], rest)
    else none
  | _ => none

/-- The code point of two halves. -/
def joinHalves (high low : Nat) : Nat := 0x10000 + (high - 0xD800) * 0x400 + (low - 0xDC00)

/-- A code point in hexadecimal digits behind its mark; two halves of a pair are one. -/
def unicodeEscape? (cs : List Char) : Option (Nat × List Char) :=
  match fourDigits? cs with
  | none => none
  | some (high, rest) =>
    if 0xD800 ≤ high && high ≤ 0xDBFF then
      match rest with
      | '\\' :: 'u' :: more =>
        match fourDigits? more with
        | some (low, rest') =>
          if 0xDC00 ≤ low && low ≤ 0xDFFF then some (joinHalves high low, rest')
          else some (high, rest)
        | none => none
      | _ => some (high, rest)
    else some (high, rest)

/-- The character that a letter stands for behind a backslash. -/
def letterEscape? : Char → Option Char
  | '"' => some '"'
  | '\\' => some '\\'
  | '/' => some '/'
  | 'b' => some '\x08'
  | 'f' => some '\x0c'
  | 'n' => some '\n'
  | 'r' => some '\r'
  | 't' => some '\t'
  | _ => none

/-- The text up to its closing quote, behind the code points in `done`, which are held in
    reverse. -/
def readText : Nat → List Nat → List Char → Option (WideText × List Char)
  | 0, _, _ => none
  | _ + 1, _, [] => none
  | fuel + 1, done, c :: cs =>
    if c == '"' then some (⟨done.reverse⟩, cs)
    else if c == '\\' then
      match cs with
      | 'u' :: rest =>
        match unicodeEscape? rest with
        | some (n, rest) => readText fuel (n :: done) rest
        | none => none
      | e :: rest =>
        match letterEscape? e with
        | some d => readText fuel (d.toNat :: done) rest
        | none => none
      | [] => none
    else if c.toNat < 0x20 then none
    else readText fuel (c.toNat :: done) cs

/-! ### Numbers -/

/-- Whether a character is a digit. -/
def isValueDigit (c : Char) : Bool := '0' ≤ c && c ≤ '9'

/-- The digits at the start of a text, and what is left. -/
def digits (cs : List Char) : List Char × List Char :=
  (cs.takeWhile isValueDigit, cs.dropWhile isValueDigit)

/-- The number that some digits stand for. -/
def digitsValue (ds : List Char) : Nat := ds.foldl (fun n c => n * 10 + (c.toNat - 48)) 0

/-- The digits behind a point, if there are any. -/
def fraction? : List Char → Option (List Char × List Char)
  | '.' :: cs => match digits cs with
    | ([], _) => none
    | (ds, rest) => some (ds, rest)
  | _ => none

/-- The exponent behind its mark, if there is one. -/
def exponent? : List Char → Option (Int × List Char)
  | c :: cs =>
    if c == 'e' || c == 'E' then
      let (negative, cs) := match cs with
        | '-' :: cs => (true, cs)
        | '+' :: cs => (false, cs)
        | cs => (false, cs)
      match digits cs with
      | ([], _) => none
      | (ds, rest) =>
        let n := (digitsValue ds : Int)
        some (if negative then -n else n, rest)
    else none
  | [] => none

/-- Whether `m` times ten to the power `e` is rounded to zero: it is at most half of the smallest
    positive number of double precision. -/
def roundsToZero (m : Nat) (e : Int) : Bool :=
  if m = 0 then true
  else if 0 ≤ e then false
  else
    let k := (-e).toNat
    if m.log2 + 1076 < 3 * k then true else m * Nat.pow 2 1075 ≤ Nat.pow 10 k

/-- A number behind its sign. -/
def readNumber (cs : List Char) : Option (Value × List Char) :=
  let whole := match cs with
    | '0' :: rest => (['0'], rest)
    | _ => digits cs
  match whole with
  | ([], _) => none
  | (ds, rest) =>
    match fraction? rest, exponent? ((fraction? rest).elim rest (·.2)) with
    | none, none =>
      if Text.digitLimit < ds.length then none
      else some (.number (digitsValue ds == 0), rest)
    | some (fs, rest'), none =>
      some (.number (roundsToZero (digitsValue (ds ++ fs)) (-fs.length)), rest')
    | none, some (e, rest') => some (.number (roundsToZero (digitsValue ds) e), rest')
    | some (fs, _), some (e, rest') =>
      some (.number (roundsToZero (digitsValue (ds ++ fs)) (e - fs.length)), rest')

/-! ### Values -/

/-- What is left behind a word, if the text starts with it. -/
def behindWord? (word : String) (cs : List Char) : Option (List Char) :=
  if word.toList.isPrefixOf cs then some (cs.drop word.length) else none

/-- A value that is a word or a number. -/
def readPlain (cs : List Char) : Option (Value × List Char) :=
  let words : List (String × Value) :=
    [("null", .null), ("true", .truth true), ("false", .truth false), ("NaN", .number false),
      ("Infinity", .number false), ("-Infinity", .number false)]
  match words.findSome? (fun (w, v) => (behindWord? w cs).map (fun rest => (v, rest))) with
  | some r => some r
  | none => match cs with
    | '-' :: rest => readNumber rest
    | _ => readNumber cs

mutual

/-- Reads a value that holds values less than `depth` deep. -/
def readValue : Nat → List Char → Option (Value × List Char)
  | 0, _ => none
  | depth + 1, cs =>
    match cs with
    | '"' :: rest => match readText (rest.length + 1) [] rest with
      | some (t, rest) => some (.text t, rest)
      | none => none
    | '[' :: rest =>
      match skipBlank rest with
      | ']' :: rest => some (.list [], rest)
      | rest => match readItems depth [] rest with
        | some (items, rest) => some (.list items, rest)
        | none => none
    | '\x7b' :: rest =>
      match skipBlank rest with
      | '\x7d' :: rest => some (.record [], rest)
      | rest => match readFields depth [] rest with
        | some (fields, rest) => some (.record fields, rest)
        | none => none
    | _ => readPlain cs

/-- Reads the items of a list up to its closing bracket, behind those in `done`, which are held
    in reverse. -/
def readItems : Nat → List Value → List Char → Option (List Value × List Char)
  | 0, _, _ => none
  | depth + 1, done, cs =>
    match readValue depth cs with
    | none => none
    | some (v, rest) =>
      match skipBlank rest with
      | ']' :: rest => some ((v :: done).reverse, rest)
      | ',' :: rest => readItems depth (v :: done) (skipBlank rest)
      | _ => none

/-- Reads the fields of a record up to its closing brace, behind those in `done`, which are held
    in reverse. -/
def readFields : Nat → List (WideText × Value) → List Char →
    Option (List (WideText × Value) × List Char)
  | 0, _, _ => none
  | depth + 1, done, cs =>
    match cs with
    | '"' :: rest =>
      match readText (rest.length + 1) [] rest with
      | none => none
      | some (key, rest) =>
        match skipBlank rest with
        | ':' :: rest =>
          match readValue depth (skipBlank rest) with
          | none => none
          | some (v, rest) =>
            match skipBlank rest with
            | '\x7d' :: rest => some (((key, v) :: done).reverse, rest)
            | ',' :: rest => readFields depth ((key, v) :: done) (skipBlank rest)
            | _ => none
        | _ => none
    | _ => none

end

/-- The value that a whole text is. -/
def valueOf? (text : String) : Option Value :=
  let cs := skipBlank text.toList
  match readValue (cs.length + 1) cs with
  | some (v, rest) => if (skipBlank rest).isEmpty then some v else none
  | none => none

end PackageAtlas.Package
