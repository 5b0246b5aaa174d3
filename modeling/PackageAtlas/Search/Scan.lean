import PackageAtlas.Docs.Replica
import PackageAtlas.Search.Hit
import PackageAtlas.Text.Utf8

namespace PackageAtlas.Search

open Docs (KeepingError Replica)
open Pattern (SpanError)

/-!
# Searches

A package is searched file by file: first the documentation that has been copied, then the files
of the package itself, until there are as many hits as are asked for.

* `SearchError`: why a search fails;
* `Source`: a file to search; `docsSources`, `codeSources`: the files of a package;
* `hitsOf`: the hits in a file; `hitsUpTo`: the first hits in some files;
* `firstHits`: the first hits in the files of a package.
-/

/-- Why a search fails. -/
inductive SearchError where
  | keeping (error : KeepingError)
  | span (error : SpanError)
deriving Repr, DecidableEq

/-- A file to search: where it lies, and its path from there on. -/
structure Source where
  base : String
  file : String
deriving Repr, DecidableEq

/-- The copies of the documentation of a package, in the order in which they are searched. -/
def docsSources (r : Replica) (p : Package) : Except KeepingError (List Source) := do
  let base ← Docs.orUnwritable (r.packageDirectory p)
  let files ← Docs.orUnwritable (r.docs p)
  return files.map (fun f => ⟨base, f⟩)

/-- The files of a package, in the order in which they are searched. -/
def codeSources (fs : FileSystem) (here : Standpoint) (p : Package) :
    Except KeepingError (List Source) :=
  match fs.walkFirst here FileFilter.search none p.directory with
  | .ok files => .ok (files.map (fun f => ⟨p.directory, f⟩))
  | .error e => .error (.file e)

/-- The hits in a file, `limit` at most; none if it cannot be read. -/
def hitsOf (fs : FileSystem) (here : Standpoint) (r : Pattern.Regex) (context : Int) (limit : Nat)
    (s : Source) : Except SpanError (List Hit) :=
  match fs.read here (Path.join s.base s.file) with
  | .ok bytes => hitsIn r s.file context limit (Text.lines (Text.Utf8.decodeBytes bytes))
  | .error _ => .ok []

/-- The first hits in some files, `limit` at most. -/
def hitsUpTo (fs : FileSystem) (here : Standpoint) (r : Pattern.Regex) (context : Int) :
    Nat → List Source → Except SpanError (List Hit)
  | _, [] => .ok []
  | limit, s :: rest => do
    let found ← hitsOf fs here r context limit s
    if limit ≤ found.length then return found
    else return found ++ (← hitsUpTo fs here r context (limit - found.length) rest)

/-- A result, or the error of a search that another error means. -/
def orSearchError {ε α : Type} (f : ε → SearchError) : Except ε α → Except SearchError α
  | .ok a => .ok a
  | .error e => .error (f e)

/-- The first hits in the files of a package, one at least if there is any. The files of the package
    itself are looked at only if the documentation does not hold enough. -/
def firstHits (fs : FileSystem) (here : Standpoint) (replica : Option Replica) (p : Package)
    (r : Pattern.Regex) (context limit : Int) : Except SearchError (List Hit) := do
  let wanted := (max 1 limit).toNat
  let docs ← match replica with
    | some r => orSearchError .keeping (docsSources r p)
    | none => pure []
  let found ← orSearchError .span (hitsUpTo fs here r context wanted docs)
  if wanted ≤ found.length then return found
  let code ← orSearchError .keeping (codeSources fs here p)
  return found ++ (← orSearchError .span
    (hitsUpTo fs here r context (wanted - found.length) code))

end PackageAtlas.Search
