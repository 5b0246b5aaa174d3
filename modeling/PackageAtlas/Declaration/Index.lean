import PackageAtlas.Declaration.Language
import PackageAtlas.FileSystem.Walk

namespace PackageAtlas.Declaration

open Syntax (Parser)

/-!
# Indexes of packages

The index of a package is the list of the declarations of its files, file after file.

* `Indexer`: which files are indexed, and how many at most;
* `Indexer.files`, `Indexer.index`: the files, and the declarations in them.
-/

/-- Which files of a package are indexed. -/
structure Indexer where
  /-- How many files at most. -/
  maxFiles : Int
  filter : FileFilter
deriving Repr, DecidableEq

/-- The declarations of a file; none if it cannot be read or its language is unknown. -/
def declarationsOf (parse : Parser) (fs : FileSystem) (here : Standpoint) (dir file : String) :
    List Record :=
  match Language.ofFile? file, fs.read here (Path.join dir file) with
  | some l, .ok bytes => l.declarations file bytes parse
  | _, _ => []

/-- The files of a directory that are indexed. -/
def Indexer.files (i : Indexer) (fs : FileSystem) (here : Standpoint) (dir : String) :
    Except FileError (List String) :=
  fs.walkFirst here i.filter (some i.maxFiles) dir

/-- The declarations of the files of a directory. -/
def Indexer.index (i : Indexer) (fs : FileSystem) (here : Standpoint) (dir : String)
    (parse : Parser := Syntax.treeOf) : Except FileError (List Record) := do
  return (← i.files fs here dir).flatMap (declarationsOf parse fs here dir)

end PackageAtlas.Declaration
