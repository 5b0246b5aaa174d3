import PackageAtlas.Declaration.Extract
import PackageAtlas.Syntax.Tree
import PackageAtlas.Text.Case

namespace PackageAtlas.Declaration

open Syntax (Parser)

/-!
# Languages

* `Language`: the languages whose declarations are read, with their names;
* `Language.ofName`: the language of a name; `UnknownLanguage`: that there is none;
* `Language.ofFile?`: the language of a file, by the end of its name;
* `Language.declarations`: the declarations of a file of a language.
-/

/-- A language whose declarations are read. -/
inductive Language where
  | typescript
  /-- The same language with elements among its expressions. -/
  | tsx
deriving Repr, DecidableEq

/-- The name of a language. -/
def Language.name : Language → String
  | .typescript => "typescript"
  | .tsx => "tsx"

/-- The language of a name. -/
def Language.ofName? : String → Option Language
  | "typescript" => some .typescript
  | "tsx" => some .tsx
  | _ => none

/-- A name that no language has. -/
structure UnknownLanguage where
  name : String
deriving Repr, DecidableEq

/-- The wording for a name that no language has. -/
def UnknownLanguage.message (e : UnknownLanguage) : String := s!"Unsupported language: {e.name}"

/-- The language of a name, or the error that there is none. -/
def Language.ofName (name : String) : Except UnknownLanguage Language :=
  match Language.ofName? name with
  | some l => .ok l
  | none => .error ⟨name⟩

/-- Ends of the names of files of a language. -/
def Language.suffixes : Language → List String
  | .typescript => [".ts", ".mts", ".cts"]
  | .tsx => [".tsx"]

/-- The language of a file, by the end of its name in small letters. -/
def Language.ofFile? (file : String) : Option Language :=
  let name := (Text.lower file).toList
  [Language.tsx, .typescript].find? (fun l => l.suffixes.any (fun s => s.toList.isSuffixOf name))

/-- The declarations of a file, in source order. -/
def Language.declarations (l : Language) (file : String) (bytes : ByteArray)
    (parse : Parser := Syntax.treeOf) : List Record :=
  records file bytes (parse (l == .tsx) bytes)

theorem Language.ofName?_name (l : Language) : Language.ofName? l.name = some l := by
  cases l <;> rfl

end PackageAtlas.Declaration
