import PackageAtlas.Text.Quoted

namespace PackageAtlas.Tool

/-!
# Arguments

What is given to a tool is known by name, and may be of any sort of value; whether it is of a sort
that is of use is found out where it is used. All numbers are integers, as those of the tools are
declared to be.

* `Argument`, `Arguments`: what is given, by name; `ArgumentSort`: the sorts of arguments;
* `Argument.holds`: whether an argument counts as given;
* `Argument.shown`, `Argument.inText`: an argument as it is written by itself, and inside a text;
* `Misfit`: an argument of the wrong sort, with its wording.
-/

/-- What is given. -/
inductive Argument where
  | nothing
  | truth (value : Bool)
  /-- An integer: no tool has a number of another sort. -/
  | number (value : Int)
  | text (value : String)
  | list (members : List Argument)
  | record (fields : List (String × Argument))
deriving Repr, Inhabited

/-- Arguments by their names, in the order in which they are given. -/
abbrev Arguments := List (String × Argument)

/-- The argument of a name, or what stands for it if there is none. -/
def Arguments.get (args : Arguments) (name : String) (otherwise : Argument) : Argument :=
  (args.lookup name).getD otherwise

/-- The sorts of arguments. -/
inductive ArgumentSort where
  | nothing
  | truth
  | number
  | text
  | list
  | record
deriving Repr, DecidableEq

/-- The name of a sort. -/
def ArgumentSort.name : ArgumentSort → String
  | .nothing => "NoneType"
  | .truth => "bool"
  | .number => "int"
  | .text => "str"
  | .list => "list"
  | .record => "dict"

namespace Argument

/-- The sort of an argument. -/
def sort : Argument → ArgumentSort
  | .nothing => .nothing
  | .truth _ => .truth
  | .number _ => .number
  | .text _ => .text
  | .list _ => .list
  | .record _ => .record

/-- Whether an argument counts as given: what is empty or zero does not. -/
def holds : Argument → Bool
  | .nothing => false
  | .truth value => value
  | .number value => value != 0
  | .text value => !value.isEmpty
  | .list members => !members.isEmpty
  | .record fields => !fields.isEmpty

/-- The text of an argument that is one. -/
def text? : Argument → Option String
  | .text value => some value
  | _ => none

/-- The number that an argument counts as: the two truth values count as one and zero. -/
def number? : Argument → Option Int
  | .number value => some value
  | .truth value => some (if value then 1 else 0)
  | _ => none

mutual

/-- An argument as it is written by itself; texts have quotes. -/
def shown : Argument → String
  | .nothing => "None"
  | .truth true => "True"
  | .truth false => "False"
  | .number value => toString value
  | .text value => Text.quoted value
  | .list members => "[" ++ String.intercalate ", " (shownMembers members) ++ "]"
  | .record fields => "\x7b" ++ String.intercalate ", " (shownFields fields) ++ "\x7d"

/-- The members of a list as they are written. -/
def shownMembers : List Argument → List String
  | [] => []
  | a :: rest => a.shown :: shownMembers rest

/-- The fields of a record as they are written. -/
def shownFields : List (String × Argument) → List String
  | [] => []
  | (name, a) :: rest => (Text.quoted name ++ ": " ++ a.shown) :: shownFields rest

end

/-- An argument as it is written inside a text, where texts have no quotes. -/
def inText (a : Argument) : String := a.text?.getD a.shown

end Argument

/-! ### Arguments of the wrong sort -/

/-- What cannot be done with an argument of a sort. -/
inductive Misfit where
  /-- It is not smaller or larger than a number. -/
  | unordered (sort : ArgumentSort)
  /-- It is in no text. -/
  | notInText (sort : ArgumentSort)
  | notPath (sort : ArgumentSort)
  | notPattern
  /-- It is no key. -/
  | notKey (sort : ArgumentSort)
  /-- It has no members. -/
  | noMembers (sort : ArgumentSort)
  /-- It has no such operation. -/
  | lacks (sort : ArgumentSort) (operation : String)
deriving Repr, DecidableEq

/-- The wording for an argument of the wrong sort. -/
def Misfit.message : Misfit → String
  | .unordered sort =>
    s!"'<' not supported between instances of '{sort.name}' and '{ArgumentSort.number.name}'"
  | .notInText sort => s!"'in <string>' requires string as left operand, not {sort.name}"
  | .notPath sort => s!"expected str, bytes or os.PathLike object, not {sort.name}"
  | .notPattern => "first argument must be string or compiled pattern"
  | .notKey sort => s!"unhashable type: '{sort.name}'"
  | .noMembers sort => s!"'{sort.name}' object is not iterable"
  | .lacks sort operation => s!"'{sort.name}' object has no attribute '{operation}'"

end PackageAtlas.Tool
