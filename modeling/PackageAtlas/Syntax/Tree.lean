import PackageAtlas.Syntax.Grammar
import PackageAtlas.Syntax.Run

namespace PackageAtlas.Syntax

/-!
# Syntax trees of sources

* `scriptLexicon`: the grammar of sources, worked out when it is first needed;
* `treeOf`: the syntax tree of a source.
-/

/-- The grammar of sources with elements. -/
def elementLexicon : Thunk Lexicon := Thunk.mk (fun _ => .ofGrammar (Grammar.script true))

/-- The grammar of sources without elements. -/
def plainLexicon : Thunk Lexicon := Thunk.mk (fun _ => .ofGrammar (Grammar.script false))

/-- The grammar of sources; `elements` tells whether they may hold elements. -/
def scriptLexicon (elements : Bool) : Lexicon :=
  if elements then elementLexicon.get else plainLexicon.get

/-- The syntax tree of a source; `elements` tells whether it may hold elements. -/
def treeOf : Parser := fun elements bytes =>
  let l := scriptLexicon elements
  let s := Source.ofBytes bytes
  let nodes := match readSource l s with
    | some p => p.addNodes l.tables s ⟨none, none⟩ []
    | none => []
  nodes.headD (.mk "program" none true (s.extent 0 s.size) [])

end PackageAtlas.Syntax
