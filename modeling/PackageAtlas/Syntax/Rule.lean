namespace PackageAtlas.Syntax

/-!
# The language of grammars

A grammar says of each construct what it is made of.

* `Lexeme`, `Terminal`: the tokens that a grammar may ask for;
* `Rule`: what a construct is made of, with `the`, `parts`, `oneOf`, `optional`, `many`, `commas`;
* `Rank`, `Side`: which of two readings of the same tokens is meant;
* `Grammar`: the rules of all constructs, and how their ranks compare.
-/

/-! ### Tokens -/

/-- Tokens that are no fixed texts. -/
inductive Lexeme where
  | name
  | secretName
  | number
  | comment
  /-- A first line that names the program to run. -/
  | hashBang
  | doubleText
  | singleText
  | escape
  /-- A regular expression between its slashes. -/
  | pattern
  | patternEnd
  | patternFlags
  /-- Text of a template. -/
  | templateText
  /-- The question mark of a choice between two values. -/
  | choiceMark
  /-- A statement end that is implied by the end of a line, a block or the source. -/
  | impliedEnd
  /-- The same behind the head of a function. -/
  | impliedHeadEnd
  /-- A comment in the form that web pages use. -/
  | pageComment
  /-- Text between the tags of an element. -/
  | elementText
  | dashedName
  | reference
  | doubleValue
  | singleValue
deriving Repr, DecidableEq, Hashable, Inhabited

/-- A token that a grammar may ask for. -/
inductive Terminal where
  /-- The end of the source. -/
  | finish
  | literal (text : String)
  | lexeme (kind : Lexeme)
deriving Repr, DecidableEq, Hashable, Inhabited

/-! ### Ranks -/

/-- How tightly a part of a rule binds. -/
inductive Rank where
  | plain
  /-- Numbers compare with each other, and with `plain` as zero. -/
  | level (n : Int)
  /-- Names compare as the orders of a grammar say. -/
  | named (name : String)
deriving Repr, DecidableEq, Hashable, Inhabited

/-- The side on which constructs of the same rank group. -/
inductive Side where
  | left
  | right
deriving Repr, DecidableEq, Hashable, Inhabited

/-- A member of an order of ranks, from the tightest on: a name, or all that a construct is made
    of. -/
inductive RankEntry where
  | named (name : String)
  | construct (name : String)
deriving Repr, DecidableEq

/-! ### Rules -/

/-- What a construct is made of. -/
inductive Rule where
  | blank
  | terminal (t : Terminal)
  | construct (name : String)
  | seq (first second : Rule)
  | choice (first second : Rule)
  /-- Once or more often. -/
  | repeated (item : Rule)
  | ranked (rank : Rank) (side : Option Side) (inner : Rule)
  /-- Among complete readings the heavier one is preferred. -/
  | weighted (weight : Int) (inner : Rule)
  /-- The inner parts fill a field of the construct. -/
  | field (name : String) (inner : Rule)
  /-- The inner parts are shown under another kind, as a node with syntax or as a token. -/
  | shown (kind : String) (named : Bool) (inner : Rule)
deriving Repr, DecidableEq, Inhabited

namespace Rule

/-- A text stands for itself. -/
instance : Coe String Rule := ⟨fun text => .terminal (.literal text)⟩

/-- A lexeme stands for its tokens. -/
instance : Coe Lexeme Rule := ⟨fun kind => .terminal (.lexeme kind)⟩

/-- A construct that has a rule of its own. -/
def the (name : String) : Rule := .construct name

/-- One part behind the other. -/
def parts : List Rule → Rule
  | [] => .blank
  | [r] => r
  | r :: rs => .seq r (parts rs)

/-- One of several parts. -/
def oneOf : List Rule → Rule
  | [] => .blank
  | [r] => r
  | r :: rs => .choice r (oneOf rs)

/-- A part that may be missing. -/
def optional (r : Rule) : Rule := .choice r .blank

/-- A part any number of times. -/
def many (r : Rule) : Rule := optional (.repeated r)

/-- Parts with separators between them. -/
def separated (separator item : Rule) : Rule := .seq item (many (.seq separator item))

/-- Parts with commas between them. -/
def commas1 (item : Rule) : Rule := separated (.terminal (.literal ",")) item

/-- Parts with commas between them, if there are any. -/
def commas (item : Rule) : Rule := optional (commas1 item)

/-- A rule of a named rank. -/
def rank (name : String) (r : Rule) : Rule := .ranked (.named name) none r

/-- A rule of a named rank that groups from the left. -/
def rankLeft (name : String) (r : Rule) : Rule := .ranked (.named name) (some .left) r

/-- A rule of a named rank that groups from the right. -/
def rankRight (name : String) (r : Rule) : Rule := .ranked (.named name) (some .right) r

/-- A rule that groups from the left. -/
def left (r : Rule) : Rule := .ranked .plain (some .left) r

/-- A rule that groups from the right. -/
def right (r : Rule) : Rule := .ranked .plain (some .right) r

/-- Parts shown as nodes of another kind. -/
def named (kind : String) (r : Rule) : Rule := .shown kind true r

end Rule

/-- The rules of a source. -/
structure Grammar where
  /-- What each construct is made of; the first one is the whole source. -/
  rules : List (String × Rule)
  /-- Constructs that are replaced by what they are made of wherever they are asked for. -/
  inlined : List String
  /-- Constructs that are mere choices between others, and no nodes of the tree. -/
  groups : List String
  /-- Words that are nodes of the tree with syntax of their own. -/
  wordNodes : List String
  /-- Orders of ranks, each from the tightest on. -/
  orders : List (List RankEntry)
  /-- Tokens that may stand anywhere. -/
  extras : List Terminal

end PackageAtlas.Syntax
