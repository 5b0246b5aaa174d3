import PackageAtlas.Proofs.Package.Inside
import PackageAtlas.Proofs.Tool.Overlooks

namespace PackageAtlas.Tool

open Declaration (Indexer)
open Docs (Replica)
open Package (Escapes innerNames insidePath)
open PackageAtlas.Path (LiesBelow)
open Source (Window)

/-!
# Containment of what tools read

Whatever a tool is asked, the file whose text it shows was opened below the directory of a package,
or below the directory of the copies of the package's documentation:

* `Session.files`: what a session sees of files, which no step of a tool changes;
* `ShowsFile`: a text is that of a file, or of the lines of a window of it;
* `AsksLines`: which lines of a file the arguments for them ask for;
* `IsCopyOf`: a path is that of the copy of a file;
* `yields_readFile`, `yields_readDeclaration`: which files answers show, and which lines of them;
* `reads_stay_inside`: the path of a file is refused, or it lies below its directory.
-/

variable {s s' : Session}

/-! ### Files that are shown -/

/-- What a session sees of files. -/
def Session.files (s : Session) : FileSystem × Standpoint := (s.fs, s.here)

/-- What is shown of a text: all of it, or the lines of a window. -/
def shownOf (text : String) : Option Window → String
  | none => text
  | some w => Source.excerpt text w

/-- A text is what is shown of the file at a path. -/
def ShowsFile (s : Session) (path : String) (w : Option Window) (text : String) : Prop :=
  ∃ bytes, s.fs.read s.here path = .ok bytes ∧ text = shownOf (Text.Utf8.decodeBytes bytes) w

theorem Session.files_eq_iff {s t : Session} :
    s.files = t.files ↔ s.fs = t.fs ∧ s.here = t.here := Prod.mk.injEq .. ▸ Iff.rfl

theorem ShowsFile.of_files {path text : String} {w : Option Window} (h : ShowsFile s path w text)
    (hfiles : s.files = s'.files) : ShowsFile s' path w text := by
  obtain ⟨hfs, hhere⟩ := Session.files_eq_iff.mp hfiles
  unfold ShowsFile at h ⊢
  rw [← hfs, ← hhere]
  exact h

/-- The lines of a file that are asked for by the first one and their number: all of them if neither
    is given, those from the first line on if only the number is, and as many as the settings say if
    only the first line is. -/
inductive AsksLines (s : Session) : Argument → Argument → Option Window → Prop where
  | whole : AsksLines s .nothing .nothing none
  | front {count : Argument} {number : Int} (hcount : count.number? = some number) :
      AsksLines s .nothing count (some ⟨1, number⟩)
  | window {start count : Argument} {first number : Int} (hstart : start.number? = some first)
      (hcount : count.number? = some number) : AsksLines s start count (some ⟨first, number⟩)
  | rest {start : Argument} {first : Int} {c : Settings} (hstart : start.number? = some first)
      (hconfig : s.config = .ok c) : AsksLines s start .nothing (some ⟨first, c.defaultReadLines⟩)

/-- A number that may be given is that of its argument. -/
theorem yields_rangeIfGiven {label : String} {least : Int} {most : Action (Option Int)}
    {value : Argument} {n : Option Int} (h : Yields (rangeIfGiven label least most value) s n s') :
    value = .nothing ∧ n = none ∨ ∃ k, value.number? = some k ∧ n = some k := by
  unfold rangeIfGiven at h
  split at h
  · exact Or.inl ⟨rfl, (yields_pure.mp h).1⟩
  · obtain ⟨m, t, -, h⟩ := yields_bind.mp h
    obtain ⟨k, hk, -, h⟩ := yields_requireRange_bind.mp h
    exact Or.inr ⟨k, hk, (yields_pure.mp h).1⟩

/-- The lines that are read are those that the arguments ask for. -/
theorem exists_asksLines {start count : Argument} {first number : Option Int}
    {path text : String} (hstart : start = .nothing ∧ first = none ∨
      ∃ k, start.number? = some k ∧ first = some k)
    (hcount : count = .nothing ∧ number = none ∨ ∃ k, count.number? = some k ∧ number = some k)
    (h : Yields (readRange path first number) s text s') :
    ∃ w, AsksLines s start count w ∧ ShowsFile s path w text := by
  unfold readRange at h
  rw [yields_bind] at h
  obtain ⟨whole, t, hwhole, h⟩ := h
  obtain ⟨bytes, hread, rfl, rfl⟩ := yields_readText.mp hwhole
  rcases hstart with ⟨rfl, rfl⟩ | ⟨k, hk, rfl⟩ <;> rcases hcount with ⟨rfl, rfl⟩ | ⟨n, hn, rfl⟩
  · exact ⟨none, .whole, bytes, hread, (yields_pure.mp h).1⟩
  · exact ⟨some ⟨1, n⟩, .front hn, bytes, hread, (yields_pure.mp h).1⟩
  · obtain ⟨c, hc, h⟩ := yields_currentSettings_bind.mp h
    exact ⟨some ⟨k, c.defaultReadLines⟩, .rest hk hc, bytes, hread, (yields_pure.mp h).1⟩
  · exact ⟨some ⟨k, n⟩, .window hk hn, bytes, hread, (yields_pure.mp h).1⟩

theorem AsksLines.of_config {start count : Argument} {w : Option Window}
    (h : AsksLines s start count w) (hconfig : s.config = s'.config) :
    AsksLines s' start count w := by
  cases h with
  | whole => exact .whole
  | front hcount => exact .front hcount
  | window hstart hcount => exact .window hstart hcount
  | rest hstart hc => exact .rest hstart (hconfig ▸ hc)

/-- Around a declaration, the lines are read of its window. -/
theorem showsFile_of_yields_readAround {path text : String} {first last padding : Int}
    (h : Yields (readAround path first last padding) s text s') :
    ShowsFile s path (some (Window.around first last padding)) text := by
  unfold readAround readRange at h
  simp only [yields_bind] at h
  obtain ⟨whole, t, hwhole, h⟩ := h
  obtain ⟨bytes, hread, rfl, rfl⟩ := yields_readText.mp hwhole
  exact ⟨bytes, hread, (yields_pure.mp h).1⟩

/-! ### Copies of documentation -/

theorem overlooks_files : Overlooks Session.files where
  settings _ _ _ := rfl
  replica _ _ _ _ := rfl
  index _ _ := rfl

theorem keeps_files_currentSettings : Keeps Session.files currentSettings :=
  keeps_currentSettings (fun _ _ _ => rfl)

theorem keeps_files_indexBy {given : Option Indexer} {p : Package} :
    Keeps Session.files (indexBy given p) :=
  keeps_indexBy (fun _ _ _ => rfl) (keeps_builder _ (fun _ _ _ _ => rfl))

/-- The documentation is remembered once it has been asked for. -/
theorem yields_currentReplica {replica : Replica} (h : Yields currentReplica s replica s') :
    s'.replica = some replica ∧ s'.files = s.files := by
  unfold currentReplica at h
  rw [yields_get_bind] at h
  split at h
  · rename_i r hr
    obtain ⟨rfl, rfl⟩ := yields_pure.mp h
    exact ⟨hr, rfl⟩
  · rw [yields_bind] at h
    obtain ⟨settings, t, ht, h⟩ := h
    have hfiles := keeps_files_currentSettings.of_yields ht
    rw [yields_modify_bind, yields_pure] at h
    obtain ⟨rfl, rfl⟩ := h
    exact ⟨rfl, hfiles⟩

/-- A path is that of the copy of a file of a package. -/
def IsCopyOf (s : Session) (p : Package) (file path : String) : Prop :=
  ∃ replica dir, s.replica = some replica ∧ replica.packageDirectory p = .ok dir ∧
    insidePath dir file = .ok path

/-- A copy of documentation is looked for in the directory of the copies of its package. -/
theorem yields_replicated? {p : Package} {file : String} {copies : Argument}
    {found : Option String} (h : Yields (replicated? p file copies) s found s') :
    s'.files = s.files ∧
      ∀ path, found = some path → isDocs file = true ∧ IsCopyOf s' p file path := by
  unfold replicated? at h
  simp only at h
  split at h
  · -- Something else is given for the copies: no copy is found.
    split at h
    · exact absurd h yields_throw_bind
    · obtain ⟨rfl, rfl⟩ := yields_pure.mp h
      exact ⟨rfl, by simp⟩
  · rw [yields_bind] at h
    obtain ⟨replica, t, hreplica, h⟩ := h
    obtain ⟨hkept, hfiles⟩ := yields_currentReplica hreplica
    split at h
    · rename_i hdocs
      rw [yields_orFault_bind] at h
      obtain ⟨cached, hcached, h⟩ := h
      split at h
      · rw [yields_orFault_bind] at h
        obtain ⟨dir, hdir, h⟩ := h
        rw [yields_pathInside_bind] at h
        obtain ⟨path, hpath, h⟩ := h
        rw [yields_isFile_bind] at h
        split at h
        · obtain ⟨rfl, rfl⟩ := yields_pure.mp h
          refine ⟨hfiles, fun q hq => ⟨hdocs, replica, dir, hkept, hdir, ?_⟩⟩
          obtain rfl := Option.some.inj hq
          exact hpath
        · obtain ⟨rfl, rfl⟩ := yields_pure.mp h
          exact ⟨hfiles, by simp⟩
      · obtain ⟨rfl, rfl⟩ := yields_pure.mp h
        exact ⟨hfiles, by simp⟩
    · obtain ⟨rfl, rfl⟩ := yields_pure.mp h
      exact ⟨hfiles, by simp⟩

/-! ### Answers that show files -/

/-- A path lies below the directory of the copies of the documentation of a package. -/
def LiesInCopies (s : Session) (p : Package) (path : String) : Prop :=
  ∃ replica dir, s.replica = some replica ∧ replica.packageDirectory p = .ok dir ∧
    LiesBelow dir path

theorem IsCopyOf.liesInCopies {p : Package} {file path : String} (h : IsCopyOf s p file path) :
    LiesInCopies s p path := by
  obtain ⟨replica, dir, hreplica, hdir, hinside⟩ := h
  exact ⟨replica, dir, hreplica, hdir, Package.liesBelow_of_insidePath hinside⟩

/-- A file that is shown is the one inside of its package that is asked for, or the copy of it, and
    the lines of it are those that are asked for. -/
theorem yields_readFile {package file root start count copies : Argument} {a : Answer}
    (h : Yields (readFile package file root start count copies) s a s') :
    (∃ what, a = .absent what) ∨
      ∃ p name text path w, Yields (findPackage package root) s (some p) s ∧ file = .text name ∧
        a = .file p (Package.withSlashes name) text ∧ AsksLines s start count w ∧
        ShowsFile s path w text ∧
        (insidePath p.directory name = .ok path ∨
          isDocs (Package.withSlashes name) = true ∧
            IsCopyOf s' p (Package.withSlashes name) path) := by
  unfold readFile at h
  rw [yields_bind] at h
  obtain ⟨first, t₁, hfirst, h⟩ := h
  rw [yields_bind] at h
  obtain ⟨number, t₂, hnumber, h⟩ := h
  -- The numbers of the lines are looked at first; that may ask for the settings, no more.
  have hkept : ∀ {γ : Type} {view : Session → γ}, OverlooksSetup view → view t₂ = view s :=
    fun hview => ((keeps_rangeIfGiven (hview.keeps_currentSettings.bind (fun _ => keeps_pure _)) _ _
      _).of_yields hnumber).trans ((keeps_rangeIfGiven (keeps_pure _) _ _ _).of_yields hfirst)
  have hfiles := hkept overlooks_files.toOverlooksSetup
  obtain ⟨hfs, hhere⟩ := Session.files_eq_iff.mp hfiles.symm
  rw [(looksOnly_findPackage package root).yields_bind_iff] at h
  obtain ⟨found, hfound, h⟩ := h
  rcases found with _ | p
  · exact Or.inl ⟨_, (yields_pure.mp h).1⟩
  rw [yields_requireText_bind] at h
  obtain ⟨text, rfl, h⟩ := h
  rw [yields_pathInside_bind] at h
  obtain ⟨inside, hinside, h⟩ := h
  -- The path lies inside of the package; a copy of it may be shown in its place.
  rw [yields_bind] at h
  obtain ⟨copy, u, hcopy, h⟩ := h
  obtain ⟨hufiles, hcopies⟩ := yields_replicated? hcopy
  have huconfig := (overlooks_config.keeps_replicated? _ _ _).of_yields hcopy
  rw [yields_isFile_bind] at h
  split at h
  · rw [yields_bind] at h
    obtain ⟨shown, v, hshown, h⟩ := h
    obtain ⟨rfl, rfl⟩ := yields_pure.mp h
    obtain ⟨w, hasks, hshows⟩ := exists_asksLines (yields_rangeIfGiven hfirst)
      (yields_rangeIfGiven hnumber) hshown
    have hsettings : Keeps Session.replica currentSettings :=
      keeps_currentSettings (fun _ _ _ => rfl)
    have hreplica := (keeps_readRange hsettings _ _ _).of_yields hshown
    refine Or.inr ⟨p, _, shown, _, w,
      (looksOnly_findPackage _ root).yields_of_same hfound hfs hhere, rfl, rfl,
      hasks.of_config (huconfig.trans (hkept overlooks_config.toOverlooksSetup)),
      hshows.of_files (hufiles.trans hfiles), ?_⟩
    rcases copy with _ | path
    · exact Or.inl hinside
    · obtain ⟨hdocs, replica, dir, hremembered, hdir, hcopied⟩ := hcopies path rfl
      exact Or.inr ⟨hdocs, replica, dir, hreplica.trans hremembered, hdir, hcopied⟩
  · exact Or.inl ⟨_, (yields_pure.mp h).1⟩

/-- The lines of a declaration that are shown are those around it in the file inside of its package
    that is asked for. -/
theorem yields_readDeclaration {package file name root padding indexes : Argument}
    {a : Answer} (h : Yields (readDeclaration package file name root padding indexes) s a s') :
    (∃ what, a = .absent what) ∨
      ∃ p inner r around text path, Yields (findPackage package root) s (some p) s ∧
        file = .text inner ∧ padding.number? = some around ∧
        a = .declaration p (Package.withSlashes inner) r text ∧
        r.file = Package.withSlashes inner ∧ name.text? = some r.name ∧
        ShowsFile s path (some (Window.around r.startLine r.endLine around)) text ∧
        insidePath p.directory (Package.withSlashes inner) = .ok path := by
  unfold readDeclaration at h
  rw [yields_requireRange_bind] at h
  obtain ⟨around, haround, -, h⟩ := h
  rw [yields_bind] at h
  obtain ⟨found, t', hfound, h⟩ := h
  rcases found with _ | ⟨p, index⟩
  · exact Or.inl ⟨_, (yields_pure.mp h).1⟩
  obtain ⟨hp, -, hindex⟩ := yields_findIndexed_some.mp hfound
  -- An index may be made on the way, which leaves the files as they are.
  have hfiles := keeps_files_indexBy.of_yields hindex
  rw [yields_requireText_bind] at h
  obtain ⟨text, rfl, h⟩ := h
  simp only at h
  split at h
  · exact Or.inl ⟨_, (yields_pure.mp h).1⟩
  · rename_i r hr
    have hboth := List.find?_some hr
    rw [Bool.and_eq_true] at hboth
    rw [yields_pathInside_bind] at h
    obtain ⟨inside, hinside, h⟩ := h
    rw [yields_isFile_bind] at h
    split at h
    · rw [yields_bind] at h
      obtain ⟨shown, v, hshown, h⟩ := h
      obtain ⟨rfl, rfl⟩ := yields_pure.mp h
      exact Or.inr ⟨p, _, r, around, shown, inside, hp, rfl, haround, rfl, beq_iff_eq.mp hboth.1,
        beq_iff_eq.mp hboth.2, (showsFile_of_yields_readAround hshown).of_files hfiles, hinside⟩
    · exact Or.inl ⟨_, (yields_pure.mp h).1⟩

/-- **Containment.** A path of a file of a package is refused exactly if it could lead out of a
    directory, and else it leads to the directory with the names of the path added; so whatever a
    tool is asked, the file whose text it shows is the one that the path leads to below the
    directory of the package that is meant, or, if it is documentation, below the directory of the
    copies of the package. The lines that are shown are those that are asked for, or those around the
    declaration. -/
theorem reads_stay_inside :
    (∀ dir path, Path.isAbsolute dir = true →
      ((∃ e, insidePath dir path = .error e) ↔ Escapes path) ∧
      (¬ Escapes path → ∃ inner front, insidePath dir path = .ok inner ∧
        inner = (if innerNames path = [] then dir
          else Path.join dir (Path.ofNames (innerNames path))) ∧
        (∀ n ∈ front ++ innerNames path, Path.IsName n) ∧
        Path.normalize dir = Path.rootMark dir ++ Path.ofNames front ∧
        Path.normalize inner =
          Path.rootMark dir ++ Path.ofNames (front ++ innerNames path))) ∧
    (∀ args s, (Name.readFile.invoke args s).1.error? = none →
      ∃ p name text path w, Means args s p ∧ args.get "file" .nothing = .text name ∧
        (Name.readFile.invoke args s).1 = .done (.file p (Package.withSlashes name) text) ∧
        AsksLines s (args.get "start_line" .nothing) (args.get "count" .nothing) w ∧
        ShowsFile s path w text ∧
        (insidePath p.directory name = .ok path ∧ LiesBelow p.directory path ∨
          isDocs (Package.withSlashes name) = true ∧
            IsCopyOf (Name.readFile.invoke args s).2 p (Package.withSlashes name) path ∧
            LiesInCopies (Name.readFile.invoke args s).2 p path)) ∧
    (∀ args s, (Name.getSymbol.invoke args s).1.error? = none →
      ∃ p name r padding text path, Means args s p ∧ args.get "file" .nothing = .text name ∧
        (args.get "padding" (.number 10)).number? = some padding ∧
        (Name.getSymbol.invoke args s).1 =
          .done (.declaration p (Package.withSlashes name) r text) ∧
        r.file = Package.withSlashes name ∧
        (args.get "name" .nothing).text? = some r.name ∧
        ShowsFile s path (some (Window.around r.startLine r.endLine padding)) text ∧
        insidePath p.directory (Package.withSlashes name) = .ok path ∧
        LiesBelow p.directory path) := by
  refine ⟨fun dir path hdir => ⟨Package.insidePath_eq_error_iff dir path,
    Package.insidePath_spec hdir⟩, ?_, ?_⟩
  · intro args s hnone
    obtain ⟨a, s', hdone, habsent⟩ := exists_answer_of_error?_eq_none hnone
    rw [hdone]
    rcases yields_readFile (invoke_eq_done_iff.mp hdone).2 with ⟨what, rfl⟩ | h
    · exact absurd rfl (habsent what)
    · obtain ⟨p, name, text, path, w, hp, hname, rfl, hasks, hshows, hpath⟩ := h
      refine ⟨p, name, text, path, w, means_of_yields hp, hname, rfl, hasks, hshows, ?_⟩
      rcases hpath with hinside | ⟨hdocs, hcopy⟩
      · exact Or.inl ⟨hinside, Package.liesBelow_of_insidePath hinside⟩
      · exact Or.inr ⟨hdocs, hcopy, hcopy.liesInCopies⟩
  · intro args s hnone
    obtain ⟨a, s', hdone, habsent⟩ := exists_answer_of_error?_eq_none hnone
    rw [hdone]
    rcases yields_readDeclaration (invoke_eq_done_iff.mp hdone).2 with ⟨what, rfl⟩ | h
    · exact absurd rfl (habsent what)
    · obtain ⟨p, name, r, padding, text, path, hp, hname, hpadding, rfl, hfile, htext, hshows,
        hinside⟩ := h
      exact ⟨p, name, r, padding, text, path, means_of_yields hp, hname, hpadding, rfl, hfile,
        htext, hshows, hinside, Package.liesBelow_of_insidePath hinside⟩

/-- In a small project a path of three odd spellings stays inside, and both the first line of a file
    and a declaration of it are shown for a package that is a link. -/
theorem reads_stay_inside_small :
    (¬ Escapes "a\\.//./b" ∧ ∃ inner front, insidePath "/W/" "a\\.//./b" = .ok inner ∧
      Path.normalize "/W/" = "/" ++ Path.ofNames front ∧
      Path.normalize inner = "/" ++ Path.ofNames (front ++ ["a", "b"])) ∧
    (let args := [("module", .text "b"), ("file", .text "x.ts"), ("count", .number 1)]
      ∃ p text path, Means args smallSession p ∧
        (Name.readFile.invoke args smallSession).1 = .done (.file p "x.ts" text) ∧
        ShowsFile smallSession path (some ⟨1, 1⟩) text ∧
        insidePath p.directory "x.ts" = .ok path) ∧
    (let args := [("module", .text "b"), ("file", .text "x.ts"), ("name", .text "A")]
      ∃ p r text path, Means args smallSessionLater p ∧
        (Name.getSymbol.invoke args smallSessionLater).1 = .done (.declaration p "x.ts" r text) ∧
        ShowsFile smallSessionLater path (some (Window.around r.startLine r.endLine 10)) text ∧
        LiesBelow p.directory path) := by
  obtain ⟨hpath, hfile, hdeclaration⟩ := reads_stay_inside
  obtain ⟨hrefused, hinside⟩ := hpath "/W/" "a\\.//./b" (by decide +kernel)
  have hesc : ¬ Escapes "a\\.//./b" := by
    rw [← hrefused]
    rintro ⟨e, he⟩
    have hok : insidePath "/W/" "a\\.//./b" = .ok "/W/a/b" := by decide +kernel
    rw [hok] at he
    simp at he
  have hnames : innerNames "a\\.//./b" = ["a", "b"] := by decide +kernel
  have hslashes : Package.withSlashes "x.ts" = "x.ts" := by decide +kernel
  obtain ⟨inner, front, hok, -, -, hdir, hinner⟩ := hinside hesc
  refine ⟨⟨hesc, inner, front, hok, hdir, ?_⟩, ?_, ?_⟩
  · rw [hnames] at hinner
    exact hinner
  · obtain ⟨p, name, text, path, w, hp, hname, hdone, hasks, hshows, hpath⟩ :=
      hfile [("module", .text "b"), ("file", .text "x.ts"), ("count", .number 1)] smallSession
        (by decide +kernel)
    obtain rfl : "x.ts" = name := Argument.text.inj hname
    rw [hslashes] at hdone hpath
    change AsksLines smallSession .nothing (.number 1) w at hasks
    cases hasks with
    | front hcount =>
      obtain rfl := Option.some.inj hcount
      refine ⟨p, text, path, hp, hdone, hshows, ?_⟩
      rcases hpath with ⟨hinside, -⟩ | ⟨hdocs, -⟩
      · exact hinside
      · exact absurd hdocs (by decide +kernel)
    | window hstart => cases hstart
  · obtain ⟨p, name, r, padding, text, path, hp, hname, hpadding, hdone, -, -, hshows, -, hlies⟩ :=
      hdeclaration [("module", .text "b"), ("file", .text "x.ts"), ("name", .text "A")]
        smallSessionLater (by decide +kernel)
    obtain rfl : "x.ts" = name := Argument.text.inj hname
    obtain rfl : (10 : Int) = padding := Option.some.inj hpadding
    rw [hslashes] at hdone
    exact ⟨p, r, text, path, hp, hdone, hshows, hlies⟩

end PackageAtlas.Tool
