import PackageAtlas.Tool.Failure
import PackageAtlas.Tool.Session

namespace PackageAtlas.Tool

open Declaration (CacheStats Record)

/-!
# Requests and answers

* `Request`: what a tool can be asked; `Answer`: what it says;
* `Answer.total?`: how many things it says that it lists;
* `Absence`: why there is nothing to say, with its wording.
-/

/-- What a tool can be asked. A project that is not given is the one in which one stands; what is
    not given for copies and indexes are those of the session. -/
inductive Request where
  /-- The packages whose names hold a text. -/
  | packages (root filter : Argument)
  /-- The lines in the files of a package in which a pattern matches. -/
  | search (package pattern root flags context limit copies : Argument)
  /-- The text of a file of a package, or some of its lines. -/
  | file (package file root start count copies : Argument)
  /-- The declarations of a package of a kind, whose names hold a text. -/
  | declarations (package root kind name limit indexes : Argument)
  /-- The lines of one declaration. -/
  | declaration (package file name root padding indexes : Argument)
  /-- The counts of the indexes. -/
  | stats (indexes : Argument)
deriving Repr

/-- Why there is nothing to say. -/
inductive Absence where
  | package (name : String)
  | file (path : String)
  | declaration (name file : String)
  /-- A pattern that makes no sense. -/
  | pattern (pattern : String) (error : Pattern.Error)
deriving Repr, DecidableEq

/-- The wording for what is absent. -/
def Absence.message : Absence → String
  | .package name => s!"Module not found: {name}"
  | .file path => s!"File not found: {path}"
  | .declaration name path => s!"Symbol not found: {name} in {path}"
  | .pattern text e => s!"Invalid regex: {e.message text}"

/-- What a tool says. -/
inductive Answer where
  | packages (root : String) (found : List Package)
  | hits (package : Package) (found : List Search.Hit)
  | file (package : Package) (file text : String)
  | declarations (package : Package) (found : List Record)
  | declaration (package : Package) (file : String) (found : Record) (code : String)
  | stats (counts : CacheStats)
  | absent (what : Absence)
deriving Repr, DecidableEq

/-- How many things an answer says that it lists, if it lists any. -/
def Answer.total? : Answer → Option Nat
  | .packages _ found => some found.length
  | .hits _ found => some found.length
  | .declarations _ found => some found.length
  | _ => none

end PackageAtlas.Tool
