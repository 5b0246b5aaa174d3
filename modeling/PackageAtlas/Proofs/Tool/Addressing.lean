import PackageAtlas.Proofs.Declaration.Index
import PackageAtlas.Proofs.Docs.Reports
import PackageAtlas.Proofs.Search.Hits
import PackageAtlas.Proofs.Tool.Containment

namespace PackageAtlas.Tool

open Declaration (Indexer Record)
open Docs (IsDocsFile Replica)
open Package (hasDrive hasDrive_iff insidePath withSlashes)
open PackageAtlas.Path (IsName)
open Search (Hit)
open Source (Window)

/-!
# Paths that name what they were given for

Walks tell files by their paths, and tools are asked for files by such paths.

* `IsNamed`: a path is made of names, as those of walks, declarations, hits and copies are;
* `Addressable`: a path is read as it stands, from a directory on;
* `IsPlain`, `IsNamed.addressable_iff`: which of the paths that are made of names can be read so;
* `walked_paths_are_addressable`: the paths that are told, and what tools show for them.
-/

variable {dir file : String}

/-- A path is made of names. -/
def IsNamed (file : String) : Prop :=
  ∃ names, names ≠ [] ∧ (∀ n ∈ names, IsName n) ∧ file = Path.ofNames names

/-- A path is read as it stands, and leads to itself below a directory. -/
def Addressable (dir file : String) : Prop :=
  withSlashes file = file ∧ insidePath dir file = .ok (Path.join dir file)

/-- A path has no backslash, and does not start with the letter of a drive. -/
def IsPlain (file : String) : Prop :=
  '\\' ∉ file.toList ∧
    ¬ ∃ letter rest, letter.isAlpha = true ∧ file.toList = letter :: ':' :: '/' :: rest

/-- **What can be read back.** A path that is made of names is read as it stands exactly if it is
    plain. -/
theorem IsNamed.addressable_iff (h : IsNamed file) (dir : String) :
    Addressable dir file ↔ IsPlain file := by
  obtain ⟨names, hne, hnames, rfl⟩ := h
  constructor
  · -- What is turned into slashes or refused is not addressable.
    rintro ⟨hslashes, hinside⟩
    refine ⟨hslashes ▸ Package.not_mem_withSlashes _, fun hletter => ?_⟩
    apply Package.not_escapes_of_insidePath hinside
    unfold Package.Escapes
    rw [hslashes]
    exact Or.inr (Or.inr (Or.inl hletter))
  · rintro ⟨hback, hletter⟩
    rw [← hasDrive_iff, Bool.not_eq_true] at hletter
    exact ⟨Package.withSlashes_eq_self hback,
      Package.insidePath_ofNames dir hne hnames hback hletter⟩

/-! ### Paths that are told -/

section Told

variable {fs : FileSystem} {here : Standpoint}

theorem isNamed_of_mem_walkFirst (hfs : fs.WellFormed) {filter : FileFilter} {limit : Option Int}
    {files : List String} (hfiles : fs.walkFirst here filter limit dir = .ok files)
    (h : file ∈ files) : IsNamed file := by
  obtain ⟨loc, names, -, hnames, rfl⟩ := FileSystem.exists_names_of_mem_walkFirst hfiles h
  obtain ⟨hne, hall⟩ := FileSystem.isName_of_mem_walkFrom hfs hnames
  exact ⟨names, hne, hall, rfl⟩

theorem isNamed_of_mem_index (hfs : fs.WellFormed) {i : Indexer} {parse : Syntax.Parser}
    {index : List Record} {r : Record} (hindex : i.index fs here dir parse = .ok index)
    (h : r ∈ index) : IsNamed r.file := by
  obtain ⟨loc, names, bytes, -, hne, hall, hfile, -⟩ :=
    Indexer.exists_file_of_mem_index hfs hindex h
  exact ⟨names, hne, hall, hfile⟩

theorem isNamed_of_isDocsFile (h : IsDocsFile file) : IsNamed file := by
  obtain ⟨names, hne, hall, hfile, -⟩ := h
  exact ⟨names, hne, hall, hfile⟩

theorem isNamed_of_mem_docs {r : Replica} (hr : r.Reached) {key : String} {files : List String}
    (hlook : r.memo.lookup key = some files) (h : file ∈ files) : IsNamed file :=
  isNamed_of_isDocsFile (hr.documents key files hlook file h)

theorem isNamed_of_mem_firstHits (hfs : fs.WellFormed) {replica : Option Replica}
    (hreplica : ∀ r, replica = some r → r.Reached) {p : Package} {regex : Pattern.Regex}
    {context limit : Int} {found : List Hit} {hit : Hit}
    (hfound : Search.firstHits fs here replica p regex context limit = .ok found)
    (h : hit ∈ found) : IsNamed hit.file := by
  obtain ⟨source, ⟨bytes, j, -, hfile, -⟩, hsource⟩ :=
    Search.exists_source?_of_mem_firstHits hfound h
  rw [hfile]
  rcases hsource with ⟨r, docs, hr, hdocs, hmem⟩ | ⟨code, hcode, hmem⟩
  · -- A hit in a copy is told by a path that the replica remembers.
    obtain ⟨key, -, -, hkept⟩ := Search.exists_key_of_mem_docsSources hdocs hmem
    rcases hlook : r.memo.lookup key with _ | files
    · simp [hlook] at hkept
    · rw [hlook] at hkept
      exact isNamed_of_mem_docs (hreplica r hr) hlook hkept
  · -- All other hits are in files of a walk.
    unfold Search.codeSources at hcode
    split at hcode
    · rename_i files hfiles
      obtain rfl := Except.ok.inj hcode
      obtain ⟨f, hf, rfl⟩ := List.mem_map.mp hmem
      exact isNamed_of_mem_walkFirst hfs hfiles hf
    · simp at hcode

end Told

/-! ### Files that are shown for a path -/

/-- **Paths name what they were given for.** The paths of the files of a walk, of declarations, of
    hits and of copies are read as they stand, and lead to themselves below any directory, exactly
    if they are plain. What is shown for such a path are the lines that are asked for of the file
    that it leads to below its package, or, if it is documentation that has been copied, of the copy
    that it leads to. -/
theorem walked_paths_are_addressable :
    (∀ fs here filter limit dir files, FileSystem.WellFormed fs →
      fs.walkFirst here filter limit dir = .ok files →
      ∀ f ∈ files, Addressable dir f ↔ IsPlain f) ∧
    (∀ (i : Indexer) fs here dir parse index, FileSystem.WellFormed fs →
      i.index fs here dir parse = .ok index →
      ∀ r ∈ index, Addressable dir r.file ↔ IsPlain r.file) ∧
    (∀ fs here replica p regex context limit found, FileSystem.WellFormed fs →
      (∀ r : Replica, replica = some r → r.Reached) →
      Search.firstHits fs here replica p regex context limit = .ok found →
      ∀ hit ∈ found, ∀ dir, Addressable dir hit.file ↔ IsPlain hit.file) ∧
    (∀ (r : Replica) key files, r.Reached → r.memo.lookup key = some files →
      ∀ f ∈ files, ∀ dir, Addressable dir f ↔ IsPlain f) ∧
    (∀ args s p name r text s' f, args.get "file" .nothing = .text f →
      Addressable p.directory f →
      Name.getSymbol.invoke args s = (.done (.declaration p name r text), s') →
      name = f ∧ r.file = f ∧ ∃ padding,
        (args.get "padding" (.number 10)).number? = some padding ∧
        ShowsFile s (Path.join p.directory f)
          (some (Window.around r.startLine r.endLine padding)) text) ∧
    (∀ args s p name text s' f, args.get "file" .nothing = .text f →
      (∀ dir, Addressable dir f) →
      Name.readFile.invoke args s = (.done (.file p name text), s') →
      name = f ∧ ∃ w, AsksLines s (args.get "start_line" .nothing) (args.get "count" .nothing) w ∧
        (ShowsFile s (Path.join p.directory f) w text ∨
          isDocs f = true ∧ ∃ replica dir, s'.replica = some replica ∧
            replica.packageDirectory p = .ok dir ∧ ShowsFile s (Path.join dir f) w text)) := by
  refine ⟨?_, ?_, ?_, ?_, ?_, ?_⟩
  · intro fs here filter limit dir files hfs hfiles f hf
    exact (isNamed_of_mem_walkFirst hfs hfiles hf).addressable_iff dir
  · intro i fs here dir parse index hfs hindex r hr
    exact (isNamed_of_mem_index hfs hindex hr).addressable_iff dir
  · intro fs here replica p regex context limit found hfs hreplica hfound hit hhit
    exact (isNamed_of_mem_firstHits hfs hreplica hfound hhit).addressable_iff
  · intro r key files hr hlook f hf
    exact (isNamed_of_mem_docs hr hlook hf).addressable_iff
  · intro args s p name r text s' f hfile haddressable hdone
    rcases yields_readDeclaration (invoke_eq_done_iff.mp hdone).2 with ⟨what, hwhat⟩ |
      ⟨q, inner, r', padding, text', path, -, hinner, hpadding, hanswer, hrecord, -, hshows,
        hinside⟩
    · simp at hwhat
    obtain rfl := Argument.text.inj (hfile.symm.trans hinner)
    obtain ⟨rfl, rfl, rfl, rfl⟩ := Answer.declaration.inj hanswer
    obtain ⟨hslashes, hjoin⟩ := haddressable
    -- The path that was read is the one that an addressable path leads to.
    rw [hslashes] at hinside hrecord ⊢
    obtain rfl := Except.ok.inj (hjoin.symm.trans hinside)
    exact ⟨rfl, hrecord, padding, hpadding, hshows⟩
  · intro args s p name text s' f hfile haddressable hdone
    rcases yields_readFile (invoke_eq_done_iff.mp hdone).2 with
      ⟨what, hwhat⟩ | ⟨q, inner, text', path, w, -, hinner, hanswer, hasks, hshows, hpath⟩
    · simp at hwhat
    obtain rfl := Argument.text.inj (hfile.symm.trans hinner)
    obtain ⟨rfl, rfl, rfl⟩ := Answer.file.inj hanswer
    have hslashes := (haddressable p.directory).1
    rw [hslashes] at hpath ⊢
    refine ⟨rfl, w, hasks, ?_⟩
    rcases hpath with hinside | ⟨hdocs, replica, dir, hreplica, hdir, hinside⟩
    · obtain rfl := Except.ok.inj ((haddressable p.directory).2.symm.trans hinside)
      exact Or.inl hshows
    · obtain rfl := Except.ok.inj ((haddressable dir).2.symm.trans hinside)
      exact Or.inr ⟨hdocs, replica, dir, hreplica, hdir, hshows⟩

/-- A directory with a file of a plain name, one with a backslash in its name and one below a
    directory with the name of a drive. -/
def oddFiles : FileSystem :=
  ⟨[(["W"], .directory), (["W", "p.ts"], .file "".toUTF8), (["W", "x\\y.ts"], .file "".toUTF8),
    (["W", "C:"], .directory), (["W", "C:", "z.ts"], .file "".toUTF8)]⟩

theorem walkFirst_oddFiles :
    oddFiles.walkFirst (FileSystem.standing ["W"]) .search none "/W" =
      .ok ["p.ts", "x\\y.ts", "C:/z.ts"] := by
  decide

/-- One of these paths is plain and names its file, and so does that of the small project. -/
theorem walked_paths_are_addressable_odd :
    Addressable "/W" "p.ts" ∧
    (let args := [("module", .text "b"), ("file", .text "x.ts"), ("name", .text "A")]
      ∃ p r text, (Name.getSymbol.invoke args smallSessionLater).1 =
          .done (.declaration p "x.ts" r text) ∧
        ShowsFile smallSessionLater (Path.join p.directory "x.ts")
          (some (Window.around r.startLine r.endLine 10)) text) ∧
    (let args := [("module", .text "b"), ("file", .text "x.ts")]
      ∃ p text, (Name.readFile.invoke args smallSession).1 = .done (.file p "x.ts" text) ∧
        ShowsFile smallSession (Path.join p.directory "x.ts") none text) := by
  obtain ⟨hwalk, -, -, -, hsymbol, hread⟩ := walked_paths_are_addressable
  have hplain : ∀ name, name = "p.ts" ∨ name = "x.ts" → IsPlain name := by
    rintro name (rfl | rfl)
    all_goals
      refine ⟨by decide +kernel, ?_⟩
      rw [← hasDrive_iff]
      decide +kernel
  have hsmall : ∀ dir, Addressable dir "x.ts" := by
    have hnamed : IsNamed "x.ts" := ⟨["x.ts"], by simp, by decide +kernel, by decide +kernel⟩
    exact fun dir => (hnamed.addressable_iff dir).mpr (hplain _ (Or.inr rfl))
  refine ⟨?_, ?_, ?_⟩
  · exact (hwalk oddFiles _ _ _ "/W" _ (by decide +kernel) walkFirst_oddFiles "p.ts"
      (by simp)).mpr (hplain _ (Or.inl rfl))
  · have hnone : (Name.getSymbol.invoke
        [("module", .text "b"), ("file", .text "x.ts"), ("name", .text "A")]
        smallSessionLater).1.error? = none := by decide +kernel
    obtain ⟨a, s', hdone, habsent⟩ := exists_answer_of_error?_eq_none hnone
    rcases yields_readDeclaration (invoke_eq_done_iff.mp hdone).2 with
      ⟨what, rfl⟩ | ⟨p, inner, r, padding, text, path, -, -, -, rfl, -⟩
    · exact absurd rfl (habsent what)
    · obtain ⟨hname, -, around, haround, hshows⟩ :=
        hsymbol _ _ _ _ _ _ _ "x.ts" rfl (hsmall _) hdone
      obtain rfl : (10 : Int) = around := Option.some.inj haround
      exact ⟨p, r, text, by rw [hdone, hname], hshows⟩
  · have hnone : (Name.readFile.invoke [("module", .text "b"), ("file", .text "x.ts")]
        smallSession).1.error? = none := by decide +kernel
    obtain ⟨a, s', hdone, habsent⟩ := exists_answer_of_error?_eq_none hnone
    rcases yields_readFile (invoke_eq_done_iff.mp hdone).2 with
      ⟨what, rfl⟩ | ⟨p, inner, text, path, w, -, -, rfl, -⟩
    · exact absurd rfl (habsent what)
    · obtain ⟨hname, w, hasks, hshows⟩ := hread _ _ _ _ _ _ "x.ts" rfl hsmall hdone
      change AsksLines smallSession .nothing .nothing w at hasks
      cases hasks with
      | whole =>
        rcases hshows with hshows | ⟨hdocs, -⟩
        · exact ⟨p, text, by rw [hdone, hname], hshows⟩
        · exact absurd hdocs (by decide +kernel)
      | front hcount => cases hcount
      | window hstart => cases hstart
      | rest hstart => cases hstart

/-- **Paths that are not read as they stand.** A backslash in the name of a file is read as a slash,
    and a directory of the name of a drive makes a path that is refused. -/
theorem walked_paths_misread :
    oddFiles.WellFormed ∧
    oddFiles.walkFirst (FileSystem.standing ["W"]) .search none "/W" =
      .ok ["p.ts", "x\\y.ts", "C:/z.ts"] ∧
    withSlashes "x\\y.ts" = "x/y.ts" ∧ insidePath "/W" "x\\y.ts" = .ok "/W/x/y.ts" ∧
    withSlashes "C:/z.ts" = "C:/z.ts" ∧
    insidePath "/W" "C:/z.ts" = .error (.absolute "C:/z.ts") := by
  decide +kernel

end PackageAtlas.Tool
