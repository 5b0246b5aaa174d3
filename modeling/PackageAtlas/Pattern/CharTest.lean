import PackageAtlas.Pattern.Expr
import PackageAtlas.Text.Case
import PackageAtlas.Text.Classes

namespace PackageAtlas.Pattern

/-!
# Tests of one character

A set of characters under given flags.

* `Folding`: what is done to a character before it is looked up;
* `CharTest`, `CharTest.accepts`: a set, perhaps negated, and what it accepts;
* `Single`: a test with its form; `Single.ofCode`, `Single.ofSet`, `Single.dot`: the tests of a
  pattern.

If case is ignored, a set holds its members in small letters, with the further letters that are
written like them, and a character is put in small letters before it is looked up. A set without
letters that have a case is looked up as it is.
-/

/-- What is done to a character before it is looked up. -/
inductive Folding where
  | keep
  /-- ASCII letters are made small. -/
  | ascii
  /-- Letters of all scripts are made small. -/
  | full
deriving Repr, DecidableEq

/-- The small letter of an ASCII letter. -/
def asciiLower (c : Char) : Char :=
  if 'A' ≤ c && c ≤ 'Z' then Char.ofNat (c.toNat + 32) else c

/-- A character as it is looked up. -/
def Folding.apply : Folding → Char → Char
  | .keep, c => c
  | .ascii, c => asciiLower c
  | .full, c => Text.foldChar c

/-- A member of a test. -/
inductive TestMember where
  | code (n : Nat)
  | range (lo hi : Nat)
  /-- A range that holds a character or its capital. -/
  | eitherCase (lo hi : Nat)
  | category (c : Category) (negated ascii : Bool)
deriving Repr, DecidableEq

/-- Whether a character is of a class. -/
def Category.holds (c : Char) (ascii : Bool) : Category → Bool
  | .digit => if ascii then '0' ≤ c && c ≤ '9' else Text.isDecimal c
  | .space =>
    if ascii then c.toNat == 0x20 || (0x09 ≤ c.toNat && c.toNat ≤ 0x0D) else Text.isBlank c
  | .word =>
    c == '_' ||
      if ascii || c.toNat < 0x80 then c.isAlphanum else Text.isAlphanumeric c

/-- Whether a member holds a character. -/
def TestMember.holds (c : Char) : TestMember → Bool
  | .code n => c.toNat == n
  | .range lo hi => lo ≤ c.toNat && c.toNat ≤ hi
  | .eitherCase lo hi =>
    (lo ≤ c.toNat && c.toNat ≤ hi) ||
      (let d := Text.capitalChar c
       lo ≤ d.toNat && d.toNat ≤ hi)
  | .category k negated ascii => k.holds c ascii != negated

/-- A test of one character. -/
structure CharTest where
  folding : Folding
  negated : Bool
  members : List TestMember
deriving Repr, DecidableEq

/-- Whether a test accepts a character. -/
def CharTest.accepts (t : CharTest) (c : Char) : Bool :=
  let d := t.folding.apply c
  t.members.any (·.holds d) != t.negated

/-! ### Case -/

/-- The character of a code point, if it is one. -/
def charOfCode? (n : Nat) : Option Char :=
  if h : n.isValidChar then some (Char.ofNatAux n h) else none

/-- How case is ignored under some flags. -/
def Flags.folding (f : Flags) : Folding :=
  if !f.ignoreCase then .keep else if f.unicode then .full else .ascii

/-- A code point as it is looked up. -/
def Folding.code (f : Folding) (n : Nat) : Nat :=
  match charOfCode? n with
  | some c => (f.apply c).toNat
  | none => n

/-- Whether a code point has a case. -/
def Folding.isCased (f : Folding) (n : Nat) : Bool :=
  match f, charOfCode? n with
  | .full, some c => Text.isCasedChar c
  | .ascii, some c => c.isAlpha
  | _, _ => false

/-- The code points that are looked up for one, with those written like it. -/
def Folding.codes (f : Folding) (n : Nat) : List Nat :=
  let m := f.code n
  match f with
  | .full => m :: Text.caseSiblings m
  | _ => [m]

/-- The last code point that is folded by itself. -/
def lastPlainCode : Nat := 0xFFFF

/-- The code points from `lo` on, `count` of them. -/
def codesFrom (lo count : Nat) : List Nat := (List.range count).map (lo + ·)

/-- The code points of a range that have a case. -/
def Folding.casedIn (f : Folding) (lo hi : Nat) : List Nat :=
  (codesFrom lo (hi + 1 - lo)).filter f.isCased

/-- A member of a set as members of a test, and whether it has a case. -/
def Folding.members (f : Folding) (ascii : Bool) : Member → List TestMember × Bool
  | .category c negated => ([.category c negated ascii], false)
  | .code n =>
    if f == .keep then ([.code n], false)
    else if lastPlainCode < n then ([.code n], true)
    else ((f.codes n).map .code, f.isCased n)
  | .range lo hi =>
    if f == .keep then ([.range lo hi], false)
    else
      let cased := f.casedIn lo (min hi lastPlainCode)
      let folded := (cased.flatMap f.codes).map TestMember.code
      if lastPlainCode < hi then (.eitherCase lo hi :: folded, true)
      else (.range lo hi :: folded, !cased.isEmpty)

/-! ### The tests of a pattern -/

/-- The forms of tests, which differ in how a run of characters is counted. -/
inductive TestForm where
  /-- One character, without regard to any other. -/
  | exact (code : Nat)
  /-- A set that is looked up as it is. -/
  | listed
  /-- A character of either case, or any but some. -/
  | plain
  /-- A set of either case, for which characters are counted one after another. -/
  | stepped
deriving Repr, DecidableEq

/-- A test of one character, with its form. -/
structure Single where
  test : CharTest
  form : TestForm
deriving Repr, DecidableEq

/-- Whether a test accepts a character. -/
def Single.accepts (s : Single) (c : Char) : Bool :=
  match s.form with
  | .exact n => c.toNat == n
  | _ => s.test.accepts c

/-- The test for a character, or for all others. -/
def Single.ofCode (flags : Flags) (negated : Bool) (n : Nat) : Single :=
  let f := flags.folding
  if f.isCased n then
    let codes := f.codes n
    ⟨⟨f, negated, codes.map .code⟩, if codes.length = 1 then .plain else .stepped⟩
  else ⟨⟨.keep, negated, [.code n]⟩, if negated then .plain else .exact n⟩

/-- The test for a set of characters. -/
def Single.ofSet (flags : Flags) (negated : Bool) (ms : List Member) : Single :=
  let parts := ms.map (flags.folding.members (!flags.unicode))
  let cased := parts.any (·.2)
  ⟨⟨if cased then flags.folding else .keep, negated, parts.flatMap (·.1)⟩,
    if cased then .stepped else .listed⟩

/-- The test for any character; line feeds are accepted only if flags say so. -/
def Single.dot (flags : Flags) : Single :=
  ⟨⟨.keep, true, if flags.dotAll then [] else [.code 10]⟩, .plain⟩

end PackageAtlas.Pattern
