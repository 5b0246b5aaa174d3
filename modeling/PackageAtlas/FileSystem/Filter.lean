import PackageAtlas.Text.Case

namespace PackageAtlas

/-!
# File filters

A filter says which files are of interest, by the end of their names, and which directories are
not entered. Names that start with a dot are never of interest.

* `FileFilter`: the filters, with `rejectsDirectory` and `rejectsFile`;
* `FileFilter.declarations`, `FileFilter.search`, `FileFilter.docs`: the filters in use.
-/

/-- Which files and directories are of interest. -/
structure FileFilter where
  /-- Ends of names of files, in small letters. -/
  suffixes : List String
  /-- Names of directories that are not entered. -/
  excluded : List String
deriving Repr, DecidableEq

/-- Whether a name is hidden. -/
def isHidden (name : String) : Bool := name.toList.head? == some '.'

namespace FileFilter

/-- The filter of some ends of names, which are put in small letters. -/
def ofSuffixes (suffixes excluded : List String) : FileFilter :=
  ⟨suffixes.map Text.lower, excluded⟩

/-- Whether a directory is not entered. -/
def rejectsDirectory (f : FileFilter) (name : String) : Bool :=
  isHidden name || f.excluded.contains name

/-- Whether a file is of no interest. -/
def rejectsFile (f : FileFilter) (name : String) : Bool :=
  isHidden name ||
    !(f.suffixes.any (fun s => s.toList.isSuffixOf (Text.lower name).toList))

/-- Ends of names of files that hold declarations. -/
def declarationSuffixes : List String :=
  [".d.ts", ".d.mts", ".d.cts", ".ts", ".mts", ".cts", ".tsx"]

/-- Directories without declarations of interest. -/
def declarationExcluded : List String :=
  ["node_modules", "dist", "build", "test", "tests", "__tests__"]

/-- Files that hold declarations, outside of some directories. -/
def declarationsOutside (excluded : List String) : FileFilter :=
  ofSuffixes declarationSuffixes excluded

/-- Files that hold declarations. -/
def declarations : FileFilter := declarationsOutside declarationExcluded

/-- Files that are searched. -/
def search : FileFilter :=
  ofSuffixes [".d.ts", ".ts", ".tsx", ".jsx", ".css", ".scss", ".sass", ".less"]
    ["node_modules", "test", "tests", "examples", "coverage"]

/-- Files that hold documentation. -/
def docs : FileFilter := ofSuffixes [".md"] ["node_modules", "test", "tests"]

end FileFilter

end PackageAtlas
