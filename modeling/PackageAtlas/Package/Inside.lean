import PackageAtlas.FileSystem.Path

namespace PackageAtlas.Package

/-!
# Paths inside packages

A file of a package is asked for by its path from the package's directory on. Backslashes count as
slashes, and a path that could lead out of the directory is refused.

* `PathError`: why a path is refused, with its wording;
* `withSlashes`: a path with slashes only; `insidePath`: the path of a file of a package.
-/

/-- Why a path is refused. -/
inductive PathError where
  | empty
  | absolute (path : String)
  | escaping (path : String)
deriving Repr, DecidableEq

/-- The wording of a refusal. -/
def PathError.message : PathError → String
  | .empty => "Path is empty"
  | .absolute path => s!"Absolute paths are not allowed: {path}"
  | .escaping path => s!"Path escapes module directory: {path}"

/-- A path with slashes in place of backslashes. -/
def withSlashes (path : String) : String :=
  String.ofList (path.toList.map (fun c => if c == '\\' then '/' else c))

/-- Whether a character is a letter of ASCII. -/
def isDriveLetter (c : Char) : Bool := ('a' ≤ c && c ≤ 'z') || ('A' ≤ c && c ≤ 'Z')

/-- Whether a path starts with the letter of a drive. -/
def hasDrive (path : String) : Bool :=
  match path.toList with
  | c :: ':' :: d :: _ => isDriveLetter c && d == '/'
  | _ => false

/-- A directory with names added one after another. -/
def extend (dir : String) (names : List String) : String := names.foldl Path.join dir

/-- The path of a file of a package in `dir`. -/
def insidePath (dir path : String) : Except PathError String :=
  let slashed := withSlashes path
  if slashed.isEmpty then .error .empty
  else if Path.isAbsolute slashed || hasDrive slashed then .error (.absolute path)
  else if (Path.parts slashed).contains ".." then .error (.escaping path)
  else .ok (extend dir (Path.parts slashed))

end PackageAtlas.Package
