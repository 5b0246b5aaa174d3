import PackageAtlas.Text.Classes

namespace PackageAtlas.Text

/-!
# Lines and trimming

* `splitAt`: the pieces of a list between the members that equal a separator;
* `rows`: the pieces between line feeds;
* `lines`: the same without the carriage return that ends a piece before a line feed;
* `joinLines`: pieces with line feeds between them;
* `trim`: a text without the white space at its ends.
-/

/-- The pieces between the occurrences of `sep`, behind the pieces in `done` and the members in
    `current`, which are both held in reverse. -/
def splitAfter {α : Type} [BEq α] (sep : α) (done : List (List α)) (current : List α) :
    List α → List (List α)
  | [] => (current.reverse :: done).reverse
  | a :: as =>
    if a == sep then splitAfter sep (current.reverse :: done) [] as
    else splitAfter sep done (a :: current) as

/-- The pieces of a list between the occurrences of `sep`; one more than there are occurrences. -/
def splitAt {α : Type} [BEq α] (sep : α) (as : List α) : List (List α) := splitAfter sep [] [] as

/-- The pieces of a text between line feeds. -/
def rows (cs : List Char) : List (List Char) := splitAt '\n' cs

/-- A line without the carriage return at its end. -/
def dropReturn (line : List Char) : List Char :=
  if line.getLast? = some '\r' then line.dropLast else line

/-- Drops the carriage return at the end of every line but the last. -/
def dropReturns (ls : List (List Char)) : List (List Char) :=
  ls.dropLast.map dropReturn ++ ls.getLast?.toList

/-- The lines of a text: a line ends with a line feed, or with a carriage return and a line
    feed. -/
def lines (text : String) : List String := (dropReturns (rows text.toList)).map String.ofList

/-- Lines with line feeds between them. -/
def joinLines (ls : List String) : String := String.intercalate "\n" ls

/-- A list of characters without the white space at its ends. -/
def trimList (cs : List Char) : List Char :=
  ((cs.dropWhile isBlank).reverse.dropWhile isBlank).reverse

/-- A text without the white space at its ends. -/
def trim (text : String) : String := String.ofList (trimList text.toList)

end PackageAtlas.Text
