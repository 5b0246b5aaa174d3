import PackageAtlas.Text.Quoted

namespace PackageAtlas.Tool

/-!
# Failures

A failure is what a caller is told of an error: its cause in one sentence.

* `Failure`: the kinds of causes; `Failure.text`: the sentence;
* `withFlag`: the fields of an answer, with a flag that says that it is one.
-/

/-- The kinds of causes. A file is named if its name is known. -/
inductive Failure where
  | missingFile (name : Option String)
  | forbiddenFile (name : Option String)
  | deniedFile (name : Option String)
  | undecodable (bytes : List UInt8)
  | invalidValue (message : String)
  | other (message : String)
deriving Repr, DecidableEq

/-- The name of a file, or a word in its place. -/
def fileName (name : Option String) : String := name.getD "None"

/-- How many bytes are shown of those that cannot be decoded. -/
def shownBytes : Nat := 40

/-- The sentence for a failure. What was being done then is told only for causes of no special
    kind. -/
def Failure.text (context : String) : Failure → String
  | .missingFile name => s!"File not found: {fileName name}"
  | .forbiddenFile name => s!"Permission denied: {fileName name}"
  | .deniedFile name => s!"Access denied: {fileName name}"
  | .undecodable bytes =>
    s!"File encoding error: cannot decode {Text.quotedBytes (bytes.take shownBytes)}"
  | .invalidValue message => s!"Invalid value: {message}"
  | .other message => if context.isEmpty then message else s!"{context}: {message}"

/-- The name of the flag. -/
def flagName : String := "success"

/-- The fields of an answer, with the flag set to `yes` if there is none. -/
def withFlag {α : Type} (yes : α) (fields : List (String × α)) : List (String × α) :=
  if (fields.lookup flagName).isSome then fields else fields ++ [(flagName, yes)]

end PackageAtlas.Tool
