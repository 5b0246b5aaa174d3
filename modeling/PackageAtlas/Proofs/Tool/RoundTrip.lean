import PackageAtlas.Proofs.Package.Inside
import PackageAtlas.Proofs.Source.Window
import PackageAtlas.Proofs.Tool.Listing
import PackageAtlas.Proofs.Tool.Transparency

namespace PackageAtlas.Tool

open Declaration (IndexCache Indexer Record Surroundings Visit recordsAfter recordsAfter_nil
  recordsAfter_of_none recordsAfter_of_some)
open FileSystem (LinksSuffice)
open PackageAtlas.Path (IsName)

/-!
# What is listed can be read

Every declaration that is listed can be read by its file and its name:

* `Session.Filled`: the indexes that are kept were made of the files that are there;
* `yields_listDeclarations`: what is listed comes from the index of the package that is meant;
* `read_of_mem_index`: the file of a declaration is found below the package, by whatever path;
* `yields_readDeclaration_of_read`: the lines of a declaration, where its file is found;
* `listed_declarations_are_read`: both together.
-/

variable {s s' : Session} {p : Package} {index : List Record} {r : Record}

/-! ### Indexes of the files that are there -/

/-- An index was made of the files that are there, for a key. -/
def MadeFor (s : Session) (key : String) (index : List Record) : Prop :=
  ∃ (dir : String) (indexer : Indexer), s.fs.canonical s.here dir = .ok key ∧
    indexer.index s.fs s.here dir s.parse = .ok index

/-- All indexes that are kept were made of the files that are there. -/
def Session.Filled (s : Session) : Prop :=
  ∀ key index, s.index.lookup? key = some index → MadeFor s key index

/-- What is found was made of the files that are there, and is kept. -/
theorem madeFor_of_yields_indexOf (hs : s.Filled) (h : Yields (indexOf p) s index s') :
    ∃ key, indexKey s p = .ok key ∧ s'.index.lookup? key = some index ∧ MadeFor s key index := by
  obtain ⟨key, hkey, hkept⟩ := lookup?_of_yields_indexBy h
  refine ⟨key, hkey, hkept, ?_⟩
  obtain ⟨key', hkey', ⟨hlook, -⟩ | ⟨-, indexer, t, -, hmade, -⟩⟩ := yields_indexBy.mp h
  · rw [hkey, Except.ok.injEq] at hkey'
    subst hkey'
    exact hs key index hlook
  · exact ⟨p.directory, indexer, hkey, hmade⟩

/-- **Found again.** The file of a declaration is found below every path of its package, if there
    are few enough links on the way. -/
theorem read_of_mem_index (hs : s.WellFormed) {key : String} {loc : Location}
    (hkey : indexKey s p = .ok key) (hmade : MadeFor s key index) (hr : r ∈ index)
    (hloc : s.fs.find? s.here p.directory = .ok (loc, .directory))
    (hlinks : LinksSuffice s.fs s.here (Path.join p.directory r.file)) :
    ∃ names bytes, names ≠ [] ∧ (∀ n ∈ names, IsName n) ∧ r.file = Path.ofNames names ∧
      s.fs.read s.here (Path.join p.directory r.file) = .ok bytes := by
  obtain ⟨dir, indexer, hkey', hindex⟩ := hmade
  obtain ⟨loc', names, bytes, hloc', hne, hnames, hfile, hread⟩ :=
    Indexer.exists_file_of_mem_index hs.files hindex hr
  -- The index was made below another path, but that one leads to the same directory.
  obtain rfl := FileSystem.eq_of_canonical_eq hs.here hkey hkey' hloc hloc'
  have hrel : Path.isAbsolute r.file = false := by
    rw [hfile]
    exact Path.isAbsolute_ofNames hnames
  exact ⟨names, bytes, hne, hnames, hfile, FileSystem.read_join_of_find? hrel
    (FileSystem.settled_of_canonical hkey') (FileSystem.settled_of_canonical hkey) hloc' hloc
    hlinks hread⟩

/-! ### Lists -/

/-- What is listed comes from the index of the package that is meant. -/
theorem yields_listDeclarations {package root kind name limit indexes : Argument}
    {found : List Record}
    (h : Yields (listDeclarations package root kind name limit indexes) s (.declarations p found)
      s') :
    ∃ settings index, Yields (findPackage package root) s (some p) s ∧
      Yields (indexOf p) { s with settings := some settings } index s' ∧
      ∀ r ∈ found, r ∈ index := by
  obtain ⟨settings, n, wanted, index, -, -, hrange, hwanted, hindexed, hpick⟩ :=
    yields_listDeclarations_iff.mp h
  obtain ⟨hfound, -, hindex⟩ := yields_findIndexed_some.mp hindexed
  refine ⟨settings, index, (looksOnly_findPackage package root).yields_of_same hfound rfl rfl,
    hindex, fun r hr => ?_⟩
  obtain ⟨-, rfl⟩ := (pickFrom_eq_ok_iff hwanted (one_le_of_inRange.mp hrange).1).mp hpick
  exact (List.mem_filter.mp (List.mem_of_mem_take hr)).1

/-! ### Lines -/

/-- The lines of a declaration that are shown: those with numbers around its own. -/
def linesAround (text : String) (r : Record) (padding : Int) : String :=
  let ls := Text.lines text
  Text.joinLines (Source.numbered ls (max 1 (r.startLine - padding))
    (min ls.length (r.endLine + padding)))

theorem yields_readAround {path : String} {bytes : ByteArray} (padding : Int) (r : Record)
    (hread : s.fs.read s.here path = .ok bytes) :
    Yields (readAround path r.startLine r.endLine padding) s
      (linesAround (Text.Utf8.decodeBytes bytes) r padding) s := by
  unfold readAround readRange
  refine yields_bind.mpr ⟨_, s, yields_readText.mpr ⟨bytes, hread, rfl, rfl⟩, ?_⟩
  refine yields_pure.mpr ⟨?_, rfl⟩
  rw [linesAround, Source.excerpt, ← Source.Window.around_lines]
  rfl

/-- The lines of a declaration are shown where its file is found. -/
theorem yields_readDeclaration_of_read {package root : Argument} {file name : String}
    {padding : Int} {bytes : ByteArray} {path : String}
    (hfound : Yields (findPackage package root) s (some p) s)
    (hindex : Yields (indexOf p) s index s') (hpadding : 0 ≤ padding)
    (hr : index.find? (fun q => q.file == file && q.name == name) = some r)
    (hslashes : Package.withSlashes file = file)
    (hpath : Package.insidePath p.directory file = .ok path)
    (hread : s'.fs.read s'.here path = .ok bytes) :
    Yields (readDeclaration package (.text file) (.text name) root (.number padding) .nothing) s
      (.declaration p file r (linesAround (Text.Utf8.decodeBytes bytes) r padding)) s' := by
  unfold readDeclaration
  refine yields_requireRange_bind.mpr ⟨padding, rfl, by simp [inRange, hpadding], ?_⟩
  refine yields_bind.mpr ⟨some (p, index), s',
    yields_findIndexed_some.mpr ⟨hfound, rfl, hindex⟩, ?_⟩
  refine yields_requireText_bind.mpr ⟨file, rfl, ?_⟩
  -- The name is given as a text, and compared as what the text is.
  have hfirst : index.find? (fun q => q.file == file && (Argument.text name).text? == some q.name)
      = some r := by
    rw [← hr]
    congr 1
    funext q
    simp [Argument.text?, Bool.beq_comm]
  simp only [hslashes, hfirst]
  refine yields_pathInside_bind.mpr ⟨path, hpath, ?_⟩
  rw [yields_isFile_bind, FileSystem.isFile_of_read hread]
  exact yields_bind.mpr ⟨_, s', yields_readAround padding r hread, yields_pure.mpr ⟨rfl, rfl⟩⟩

/-! ### The round trip -/

/-- The arguments by which a declaration is read that was listed with `args`. -/
def readArguments (args : Arguments) (r : Record) (padding : Int) : Arguments :=
  [("module", args.get "module" .nothing), ("file", .text r.file), ("name", .text r.name),
    ("root", args.get "root" .nothing), ("padding", .number padding)]

/-- **Round trip.** Where all indexes were made of the files that are there, every declaration that
    is listed can be read by its file and its name, with any number of lines around it: it is the
    first one of its file and name in the index of the package. There have to be few enough links on
    the way to its file. -/
theorem listed_declarations_are_read {s s' : Session} {args : Arguments} {p : Package}
    {found : List Record} (hs : s.WellFormed) (hfilled : s.Filled)
    (hlist : Name.listSymbols.invoke args s = (.done (.declarations p found), s')) :
    ∃ key index, indexKey s p = .ok key ∧ s'.index.lookup? key = some index ∧
      ∀ r ∈ found, r ∈ index ∧
        ('\\' ∉ r.file.toList →
        (¬ ∃ letter rest, letter.isAlpha = true ∧ r.file.toList = letter :: ':' :: '/' :: rest) →
        LinksSuffice s.fs s.here (Path.join p.directory r.file) →
        ∀ padding : Int, 0 ≤ padding → ∃ first bytes s'',
          index.find? (fun q => q.file == r.file && q.name == r.name) = some first ∧
          s.fs.read s.here (Path.join p.directory r.file) = .ok bytes ∧
          Name.getSymbol.invoke (readArguments args r padding) s' =
            (.done (.declaration p r.file first
              (linesAround (Text.Utf8.decodeBytes bytes) first padding)), s'')) := by
  obtain ⟨settings, index, hfound, hindex, hmem⟩ :=
    yields_listDeclarations (invoke_eq_done_iff.mp hlist).2
  obtain ⟨key, hkey, hkept, hmade⟩ :=
    madeFor_of_yields_indexOf (s := { s with settings := some settings }) hfilled hindex
  refine ⟨key, index, hkey, hkept, fun r hr => ⟨hmem r hr, ?_⟩⟩
  intro hback hdrive hlinks padding hpadding
  -- The package leads to a directory, and so the file of the declaration is found below it.
  obtain ⟨name, top, -, htop, hfind, -⟩ := yields_findPackage_some.mp hfound
  obtain ⟨loc, hloc⟩ :=
    (Package.isListed_of_find? hfind).exists_find? hs.files (isNormal_of_rootOf htop)
  obtain ⟨names, bytes, hne, hnames, hfile, hread⟩ :=
    read_of_mem_index hs hkey hmade (hmem r hr) hloc hlinks
  have hpath : Package.insidePath p.directory r.file = .ok (Path.join p.directory r.file) := by
    rw [← Package.hasDrive_iff, Bool.not_eq_true] at hdrive
    rw [hfile] at hback hdrive ⊢
    exact Package.insidePath_ofNames p.directory hne hnames hback hdrive
  obtain ⟨first, hfirst⟩ : ∃ first,
      index.find? (fun q => q.file == r.file && q.name == r.name) = some first :=
    Option.isSome_iff_exists.mp (List.find?_isSome.mpr ⟨r, hmem r hr, by simp⟩)
  -- Nothing but the indexes has changed since the declaration was listed.
  have hlook := keeps_look_indexOf.of_yields hindex
  have hfs : s'.fs = s.fs := congrArg (fun l => l.1) hlook
  have hhere : s'.here = s.here := congrArg (fun l => l.2.1) hlook
  have hagain : Yields (indexOf p) s' index { s' with index := s'.index.hit } := by
    refine yields_indexBy.mpr ⟨key, ?_, Or.inl ⟨hkept, rfl⟩⟩
    rw [indexKey, hfs, hhere]
    exact hkey
  refine ⟨first, bytes, { s' with index := s'.index.hit }, hfirst, hread, ?_⟩
  refine invoke_eq_done_iff.mpr ⟨rfl, ?_⟩
  exact yields_readDeclaration_of_read
    ((looksOnly_findPackage _ _).yields_of_same hfound hfs hhere) hagain hpadding hfirst
    (Package.withSlashes_eq_self hback) hpath (by rw [hfs, hhere]; exact hread)

/-! ### Where the round trip ends -/

/-- The source of the small project declares what its record says. -/
theorem records_smallTree : Declaration.records "x.ts" smallSource smallTree = [smallRecord] := by
  have hname : Text.Utf8.decode (smallSource.extract 5 6).toList = ['A'] := by
    rw [Text.Utf8.decode_of_ascii (by decide +kernel)]
    decide +kernel
  have hrows : Text.rows (Text.Utf8.decode smallSource.toList) =
      ["enum A \x7b\x7d".toList, []] := by
    rw [Text.Utf8.decode_of_ascii (by decide +kernel)]
    decide +kernel
  let src := Declaration.Source.ofBytes smallSource
  let inside := Surroundings.root.inside smallTree
  have hdeclared : Declaration.declaredName src smallNode = "A" := by
    show String.ofList (Text.Utf8.decode (smallSource.extract 5 6).toList) = "A"
    rw [hname]
  have hsignature : Declaration.signatureAt src 1 = "enum A \x7b\x7d" := by
    show Declaration.signatureAt
      ⟨smallSource, (Text.rows (Text.Utf8.decode smallSource.toList)).toArray⟩ 1 = _
    rw [hrows]
    decide +kernel
  have hrecord : Declaration.record "x.ts" src inside smallNode .enum = smallRecord := by
    show (⟨.enum, Declaration.declaredName src smallNode, "x.ts", 1, 1,
      Declaration.signatureAt src 1⟩ : Record) = smallRecord
    rw [hdeclared, hsignature]
    rfl
  -- The root, the declaration, its name and its body are visited in this order.
  calc Declaration.records "x.ts" smallSource smallTree
      = recordsAfter "x.ts" src [] [⟨smallNode, inside⟩] := recordsAfter_of_none rfl
    _ = recordsAfter "x.ts" src [smallRecord] (Visit.next ⟨smallNode, inside⟩) := by
        rw [recordsAfter_of_some (k := .enum) rfl, hrecord, List.append_nil]
    _ = [smallRecord] :=
        (recordsAfter_of_none rfl).trans ((recordsAfter_of_none rfl).trans recordsAfter_nil)

theorem index_smallSource {fs : FileSystem} {here : Standpoint} {dir : String}
    (hfiles : smallIndexer.files fs here dir = .ok ["x.ts"])
    (hread : fs.read here (Path.join dir "x.ts") = .ok smallSource) :
    smallIndexer.index fs here dir (fun _ _ => smallTree) = .ok [smallRecord] := by
  have hlanguage : Declaration.Language.ofFile? "x.ts" = some .typescript := by decide
  rw [Indexer.index, hfiles]
  show Except.ok (List.flatMap _ ["x.ts"]) = Except.ok [smallRecord]
  rw [List.flatMap_singleton, Declaration.declarationsOf, hread, hlanguage]
  exact congrArg Except.ok records_smallTree

/-- A session that keeps one index, which was made of the files that are there. -/
theorem filled_of_entries {key : String} (hentries : s.index.entries = [(key, index)])
    (hmade : MadeFor s key index) : s.Filled := by
  intro key' index' hlook
  rw [IndexCache.lookup?, hentries, List.lookup_cons] at hlook
  split at hlook
  · rename_i heq
    obtain rfl := eq_of_beq heq
    obtain rfl := Option.some.inj hlook
    exact hmade
  · simp at hlook

/-- The small project, where the index was made under one name of the package and is used under the
    other. -/
theorem listed_declarations_are_read_small :
    ∃ s' s'' first text,
      Name.listSymbols.invoke [("module", .text "b")] smallSessionLater =
        (.done (.declarations (smallPackage "b") [smallRecord]), s') ∧
      Name.getSymbol.invoke (readArguments [("module", .text "b")] smallRecord 3) s' =
        (.done (.declaration (smallPackage "b") "x.ts" first (linesAround text first 3)), s'') := by
  have hs : smallSessionLater.WellFormed := ⟨by decide +kernel, by decide +kernel⟩
  have hfilled : smallSessionLater.Filled :=
    filled_of_entries rfl ⟨"/W/node_modules/a", smallIndexer, by decide +kernel,
      index_smallSource (by decide +kernel) (by decide +kernel)⟩
  have hlist : (Name.listSymbols.invoke [("module", .text "b")] smallSessionLater).1 =
      .done (.declarations (smallPackage "b") [smallRecord]) := by decide +kernel
  rcases hr : Name.listSymbols.invoke [("module", .text "b")] smallSessionLater with ⟨response, s'⟩
  rw [hr] at hlist
  obtain rfl : response = _ := hlist
  obtain ⟨key, index, -, -, hread⟩ := listed_declarations_are_read hs hfilled hr
  obtain ⟨-, hround⟩ := hread smallRecord (by simp)
  have hexists : smallSessionLater.fs.exists? smallSessionLater.here
      (Path.join (smallPackage "b").directory smallRecord.file) = true := by decide +kernel
  obtain ⟨found, hfound⟩ := FileSystem.exists?_eq_true_iff.mp hexists
  have hlinks := FileSystem.linksSuffice_of_find? (Or.inl (by decide +kernel)) hfound
  have hdrive : ¬ ∃ letter rest, letter.isAlpha = true ∧
      smallRecord.file.toList = letter :: ':' :: '/' :: rest := by
    rw [← Package.hasDrive_iff]
    decide +kernel
  obtain ⟨first, bytes, s'', -, -, hdone⟩ :=
    hround (by decide +kernel) hdrive hlinks 3 (by decide)
  exact ⟨s', s'', first, _, rfl, hdone⟩

/-- The names of the links in a long chain. -/
def chainNames : List String :=
  ["l1", "l2", "l3", "l4", "l5", "l6", "l7", "l8", "l9", "l10", "l11", "l12", "l13", "l14", "l15",
    "l16", "l17", "l18", "l19", "l20", "l21", "l22", "l23", "l24", "l25", "l26", "l27", "l28",
    "l29", "l30", "l31", "l32", "l33", "l34", "l35", "l36", "l37", "l38", "l39"]

/-- A project with one package, which is installed once more behind a chain of as many links as can
    be followed; one more link leads to its source. -/
def farFiles : FileSystem :=
  ⟨[(["W"], .directory),
    (["W", "package.json"], .file "\x7b\x7d".toUTF8),
    (["W", "node_modules"], .directory),
    (["W", "node_modules", "a"], .directory),
    (["W", "node_modules", "a", "package.json"], .file "\x7b\x7d".toUTF8),
    (["W", "node_modules", "a", "real.txt"], .file smallSource),
    (["W", "node_modules", "a", "x.ts"], .link "real.txt"),
    (["W", "node_modules", "b"], .link "../links/l39"),
    (["W", "links"], .directory),
    (["W", "links", "l1"], .link "../node_modules/a")] ++
    (chainNames.tail.zip chainNames).map (fun link => (["W", "links", link.1], .link link.2))⟩

/-- A session in that project, in which the declarations of the package have been looked for under
    its own name. -/
def farSession : Session :=
  { smallSessionLater with fs := farFiles }

/-- **Out of reach.** Where there are too many links on the way to the file of a declaration, it can
    be listed and yet not be read. -/
theorem listed_declaration_out_of_reach :
    farSession.WellFormed ∧ farSession.Filled ∧
    (Name.listSymbols.invoke [("module", .text "b")] farSession).1 =
      .done (.declarations (smallPackage "b") [smallRecord]) ∧
    '\\' ∉ smallRecord.file.toList ∧ Package.hasDrive smallRecord.file = false ∧
    (Name.getSymbol.invoke (readArguments [("module", .text "b")] smallRecord 0)
      (Name.listSymbols.invoke [("module", .text "b")] farSession).2).1 =
        .done (.absent (.file "x.ts")) := by
  refine ⟨⟨by decide +kernel, by decide +kernel⟩, ?_, by decide +kernel, by decide +kernel,
    by decide +kernel, by decide +kernel⟩
  exact filled_of_entries rfl ⟨"/W/node_modules/a", smallIndexer, by decide +kernel,
    index_smallSource (by decide +kernel) (by decide +kernel)⟩

end PackageAtlas.Tool
