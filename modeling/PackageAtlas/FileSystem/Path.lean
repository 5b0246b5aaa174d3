import PackageAtlas.Text.Lines

namespace PackageAtlas.Path

/-!
# Paths as texts

A path is a text of pieces with slashes between them. These functions look at the text alone, not
at what lies in a file system.

* `pieces`: what stands between the slashes; `parts`: the pieces that name something;
* `join`: one path below another;
* `normalize`: a path without empty pieces, `.` and, where it can be, `..`;
* `absolute`: the same from the root on;
* `split`, `parent`, `ancestors`: what a path lies below.
-/

/-- What stands between the slashes of a path. -/
def pieces (text : String) : List String := (Text.splitAt '/' text.toList).map String.ofList

/-- Whether a piece says nothing about where a path leads. -/
def isIdle (piece : String) : Bool := piece == "" || piece == "."

/-- The pieces that name something. -/
def parts (text : String) : List String := (pieces text).filter (fun p => !isIdle p)

/-- Whether a path starts at the root. -/
def isAbsolute (text : String) : Bool := text.toList.head? == some '/'

/-- Names with slashes between them. -/
def ofNames (names : List String) : String := String.intercalate "/" names

/-- The path of `part` below `base`; one that starts at the root is not moved. -/
def join (base part : String) : String :=
  if isAbsolute part then part
  else if base.isEmpty || base.toList.getLast? == some '/' then base ++ part
  else base ++ "/" ++ part

/-! ### Normal paths -/

/-- The pieces of a normal path, last one first, after one more piece. Above the root there is
    nothing, so `..` is dropped there if the path is `rooted`. -/
def addPiece (rooted : Bool) (done : List String) (piece : String) : List String :=
  if isIdle piece then done
  else if piece == ".." then
    match done with
    | [] => if rooted then [] else [piece]
    | last :: before => if last == ".." then piece :: done else before
  else piece :: done

/-- The pieces of a normal path. -/
def normalPieces (rooted : Bool) (ps : List String) : List String :=
  (ps.foldl (addPiece rooted) []).reverse

/-- The slashes that a normal path starts with: two are kept, any other number becomes one. -/
def rootMark (text : String) : String :=
  match text.toList with
  | '/' :: '/' :: '/' :: _ => "/"
  | '/' :: '/' :: _ => "//"
  | '/' :: _ => "/"
  | _ => ""

/-- A path without pieces that say nothing, and without `..` where it can be left out. -/
def normalize (text : String) : String :=
  let mark := rootMark text
  let path := mark ++ ofNames (normalPieces (mark != "") (pieces text))
  if path.isEmpty then "." else path

/-- The normal path from the root on, where `here` is where one stands. -/
def absolute (here text : String) : String := normalize (join here text)

/-! ### What a path lies below -/

/-- A list of characters without the slashes at its end. -/
def dropSlashes (cs : List Char) : List Char := (cs.reverse.dropWhile (· == '/')).reverse

/-- A path without its last piece, and that piece. -/
def split (text : String) : String × String :=
  let cs := text.toList
  let tail := (cs.reverse.takeWhile (· != '/')).reverse
  let head := cs.take (cs.length - tail.length)
  let trimmed := dropSlashes head
  (String.ofList (if trimmed.isEmpty then head else trimmed), String.ofList tail)

/-- A path without its last piece. -/
def parent (text : String) : String := (split text).1

/-- A path and what it lies below, up to `fuel` of them. -/
def ancestorsUpTo : Nat → String → List String
  | 0, text => [text]
  | fuel + 1, text =>
    if parent text == text then [text] else text :: ancestorsUpTo fuel (parent text)

/-- A path and all that it lies below, nearest first. -/
def ancestors (text : String) : List String := ancestorsUpTo text.length text

/-- The last piece that names something. -/
def lastName (text : String) : String := ((parts text).getLast?).getD ""

end PackageAtlas.Path
