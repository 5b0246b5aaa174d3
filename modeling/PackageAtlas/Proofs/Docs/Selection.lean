import PackageAtlas.Proofs.Docs.Reports
import PackageAtlas.Proofs.FileSystem.Clean
import PackageAtlas.Proofs.Text.Case

namespace PackageAtlas.Docs

open FileSystem (CleanStands FailsCleanly behind outcome)
open PackageAtlas.Path (IsClean)

/-!
# Which documentation is copied

Of the files of a walk that differ only in case, the first is copied if it lies below a directory.
What has been selected once is remembered:

* `filter_selectDocs`: of the files of each spelling below directories, the first is selected;
* `exists_copyPackage`: files are copied, unless something has a null character;
* `Later`, `Later.lookup`: what comes of a replica that is not cleared, and that it forgets nothing;
* `docs_are_first_of_each_spelling`: all of it together.
-/

variable {fs fs' : FileSystem} {here : Standpoint} {p q : Package} {key f small : String}
  {paths files : List String} {r r' : Replica}

/-! ### Spellings -/

/-- Files that are one in small letters all lie below directories, or none of them. -/
theorem isNested_eq_of_lower_eq {g : String} (h : Text.lower g = Text.lower f) :
    isNested g = isNested f := by
  have hslash : ∀ text, isNested text = decide ('/' ∈ (Text.lower text).toList) := by
    intro text
    rw [isNested, List.contains_eq_mem]
    simp only [Text.slash_mem_lower_iff]
  rw [hslash, hslash, h]

/-- **The first of each spelling.** Of the files below directories that are one in small letters, the
    first is selected, and no other one. -/
theorem filter_selectDocs (hf : f ∈ paths) (hnested : isNested f = true) :
    ∃ g, paths.find? (fun h => Text.lower h == Text.lower f) = some g ∧
      (selectDocs paths).filter (fun h => Text.lower h == Text.lower f) = [g] := by
  rcases hfirst : paths.find? (fun h => Text.lower h == Text.lower f) with _ | g
  · have hnone := List.find?_eq_none.mp hfirst f hf
    simp at hnone
  · refine ⟨g, rfl, ?_⟩
    have hlower : (Text.lower g == Text.lower f) = true := by
      simpa using List.find?_some hfirst
    have hg : isNested g = true := (isNested_eq_of_lower_eq (eq_of_beq hlower)).trans hnested
    rw [selectDocs, firstByLower_eq_firstBy, List.filter_comm, filter_firstBy (by simp), hfirst]
    simp [hg]

/-! ### Copies that are made -/

/-- The files of a package among which documentation is selected: none if their paths cannot be
    told. -/
def walkedDocs (fs : FileSystem) (here : Standpoint) (p : Package) : List String :=
  match fs.walkFirst here FileFilter.docs none p.directory with
  | .ok walked => walked
  | .error _ => []

theorem eq_selectDocs_of_docsOf (h : Replica.docsOf fs here p = .ok files) :
    files = selectDocs (walkedDocs fs here p) := by
  unfold Replica.docsOf at h
  unfold walkedDocs
  rcases hwalk : fs.walkFirst here FileFilter.docs none p.directory with e | walked
  · rw [hwalk] at h
    simp only at h
    split at h
    · simp at h
    · exact (Except.ok.inj h).symm
  · rw [hwalk] at h
    exact (Except.ok.inj h).symm

/-- A walk with a clean path can fail only where one stands in a directory that was removed. -/
theorem cause_of_walkFirst {filter : FileFilter} {limit : Option Int} {path : String}
    {e : FileError} (hpath : IsClean path) (h : fs.walkFirst here filter limit path = .error e) :
    e.cause = .missing := by
  by_cases hsettled : FileSystem.Settled here path
  · rw [FileSystem.walkFirst_eq_ok_iff.mpr ⟨hpath,
      fun _ => FileSystem.exists_absolute_of_settled hsettled, rfl⟩] at h
    simp at h
  · have hnull : path.toList.contains (Char.ofNat 0) = false := by simpa [IsClean] using hpath
    unfold FileSystem.walkFirst at h
    rw [hnull, FileSystem.absolute_of_not_settled hsettled] at h
    generalize FileSystem.firstFiles limit (fs.walk here filter path) = first at h
    rcases first with _ | ⟨file, others⟩
    · exact absurd h (by simp [pure, Except.pure])
    · obtain rfl := Except.error.inj h
      rfl

/-- Documentation is selected in every directory with a clean path. -/
theorem exists_docsOf (hdir : IsClean p.directory) :
    ∃ files, Replica.docsOf fs here p = .ok files := by
  unfold Replica.docsOf
  split
  · exact ⟨_, rfl⟩
  · rename_i e he
    rw [cause_of_walkFirst hdir he]
    exact ⟨[], rfl⟩

/-- The paths of documentation are those of a file system. -/
theorem isClean_of_mem_docsOf (hfs : CleanStands fs here)
    (h : Replica.docsOf fs here p = .ok files) (hf : f ∈ files) : IsClean f := by
  obtain ⟨found, hwalk, hmem⟩ := exists_walk_of_mem_docsOf h hf
  obtain ⟨loc, names, -, hnames, rfl⟩ :=
    FileSystem.exists_names_of_mem_walkFirst hwalk (mem_of_mem_selectDocs hmem)
  obtain ⟨e, he, -⟩ := FileSystem.entry_of_mem_walkFrom hfs.files hnames
  exact Path.isClean_ofNames (fun n hn =>
    hfs.clean.names_of_at? he n (List.mem_append_right loc hn))

theorem failsCleanly_copyAll {source target : String} (hsource : IsClean source)
    (htarget : IsClean target) (hfiles : ∀ f ∈ files, IsClean f) :
    FailsCleanly (copyAll here source target files) := by
  induction files with
  | nil => exact FileSystem.failsCleanly_pure ()
  | cons f files ih =>
    have hf := hfiles f List.mem_cons_self
    unfold copyAll copyOne
    refine FileSystem.FailsCleanly.bind ?_ (fun _ =>
      ih (fun g hg => hfiles g (List.mem_cons_of_mem f hg)))
    exact (FileSystem.failsCleanly_makeDirectories (htarget.join hf).parent).bind
      (fun _ => FileSystem.failsCleanly_copy (hsource.join hf) (htarget.join hf))

theorem isClean_of_packageKey (hkey : packageKey p = .ok key) : IsClean key :=
  fun hnull => absurd ((isKey_of_packageKey hkey).2 _ hnull) (by decide)

/-- What is remembered is told again, and nothing is copied. -/
theorem copyPackage_of_lookup (hkey : packageKey p = .ok key)
    (hlook : r.memo.lookup key = some files) :
    r.copyPackage fs here p = .ok (files, r, fs) := by
  unfold Replica.copyPackage
  simp only [hkey, orUnwritable, hlook, bind, Except.bind]
  rfl

/-- **Files are copied**, and remembered whether they can be copied or not, unless the package has no
    key or some path has a null character. -/
theorem exists_copyPackage (hfs : CleanStands fs here) (hkey : packageKey p = .ok key)
    (hdir : IsClean p.directory) (hbase : IsClean r.directory) :
    ∃ files r' fs', r.copyPackage fs here p = .ok (files, r', fs') := by
  rcases hlook : r.memo.lookup key with _ | files
  · obtain ⟨files, hdocs⟩ : ∃ files, Replica.docsOf fs here p = .ok files := exists_docsOf hdir
    have hcopy : FailsCleanly (copyAll here p.directory (Path.join r.directory key) files) :=
      failsCleanly_copyAll hdir (hbase.join (isClean_of_packageKey hkey))
        (fun f hf => isClean_of_mem_docsOf hfs hdocs hf)
    rcases hrun : (copyAll here p.directory (Path.join r.directory key) files).run.run fs with
      ⟨result, fs'⟩
    refine ⟨files, { r with memo := r.memo ++ [(key, files)] }, fs', ?_⟩
    unfold Replica.copyPackage
    simp only [hkey, orUnwritable, hlook, hdocs, hrun, bind, Except.bind]
    split
    · -- This is the one failure that is told, and it was excluded.
      exact absurd rfl (hcopy fs _ fs' hrun)
    · rfl
  · exact ⟨files, r, fs, copyPackage_of_lookup hkey hlook⟩

/-! ### What is remembered -/

theorem docs_of_lookup (hkey : packageKey p = .ok key) (hlook : r.memo.lookup key = some files) :
    r.docs p = .ok files := by
  rw [Replica.docs, hkey]
  show Except.ok ((r.memo.lookup key).getD []) = _
  rw [hlook]
  rfl

/-- What is remembered stays remembered when a package is copied. -/
theorem lookup_copyPackage {found : List String} (hlook : r.memo.lookup key = some files)
    (hcopy : r.copyPackage fs here p = .ok (found, r', fs')) :
    r'.memo.lookup key = some files := by
  obtain ⟨own, -, ⟨-, rfl, -⟩ | ⟨-, -, rfl, -⟩⟩ := Replica.copyPackage_cases hcopy
  · exact hlook
  · rw [List.lookup_append, hlook, Option.some_or]

/-- What has been copied is remembered. -/
theorem lookup_self_of_copyPackage (hkey : packageKey p = .ok key)
    (hcopy : r.copyPackage fs here p = .ok (files, r', fs')) :
    r'.memo.lookup key = some files := by
  obtain ⟨own, hown, hcases⟩ := Replica.copyPackage_cases hcopy
  obtain rfl : key = own := Except.ok.inj (hkey.symm.trans hown)
  rcases hcases with ⟨hlook, rfl, -⟩ | ⟨hlook, -, rfl, -⟩
  · exact hlook
  · rw [List.lookup_append, hlook]
    simp

/-- What comes of a replica that is not cleared, whatever else happens to the file system. -/
inductive Later (r : Replica) : Replica → Prop where
  | same : Later r r
  | copyPackage {r' r'' : Replica} {fs fs' : FileSystem} {here : Standpoint} {p : Package}
      {files : List String} (h : Later r r')
      (hcopy : r'.copyPackage fs here p = .ok (files, r'', fs')) : Later r r''
  | fill {r' r'' : Replica} {fs fs' : FileSystem} {here : Standpoint} {root : String}
      {summary : Summary} (h : Later r r')
      (hfill : outcome (r'.fill here root) fs = (.ok (summary, r''), fs')) : Later r r''

/-- **Nothing is forgotten.** -/
theorem Later.lookup (h : Later r r') (hlook : r.memo.lookup key = some files) :
    r'.memo.lookup key = some files := by
  induction h with
  | same => exact hlook
  | copyPackage _ hcopy ih => exact lookup_copyPackage ih hcopy
  | fill _ hfill ih =>
    obtain ⟨top, packages, -, -, hr, -⟩ := Replica.fill_cases hfill
    rw [hr]
    exact Replica.copyPackages_induction (J := fun r _ => r.memo.lookup key = some files)
      (fun _ _ _ _ _ _ _ hold hcopy => lookup_copyPackage hold hcopy) 0 _ _ ih

/-! ### All of it -/

/-- **The first of each spelling, once and for all.** When documentation is copied of a package about
    which nothing is remembered, the files that are told are some of those of a walk through its
    directory, in the same order. No two of them differ only in case, all of them lie below
    directories, and of those of a walk that differ from a file below a directory only in case they
    have the first one, and no other. From then on, as long as nothing is cleared, these are the
    files of every package of the same key, and nothing is copied again. Files are told unless
    some path has a null character. -/
theorem docs_are_first_of_each_spelling {r : Replica} {p : Package} {key : String}
    (hkey : packageKey p = .ok key) (hnew : r.memo.lookup key = none) :
    (∀ fs here, CleanStands fs here → IsClean p.directory → IsClean r.directory →
      ∃ files r' fs', r.copyPackage fs here p = .ok (files, r', fs')) ∧
    ∀ fs here files r' fs', r.copyPackage fs here p = .ok (files, r', fs') →
      files.Sublist (walkedDocs fs here p) ∧
      files.Pairwise (fun f g => Text.lower f ≠ Text.lower g) ∧
      (∀ f ∈ files, '/' ∈ f.toList) ∧
      (∀ f ∈ walkedDocs fs here p, '/' ∈ f.toList →
        ∃ g, (walkedDocs fs here p).find? (fun h => Text.lower h == Text.lower f) = some g ∧
          files.filter (fun h => Text.lower h == Text.lower f) = [g]) ∧
      ∀ later, Later r' later → ∀ q, packageKey q = .ok key →
        later.docs q = .ok files ∧
        ∀ fs here, later.copyPackage fs here q = .ok (files, later, fs) := by
  refine ⟨fun fs here hfs hdir hbase => exists_copyPackage hfs hkey hdir hbase, ?_⟩
  intro fs here files r' fs' hcopy
  obtain ⟨own, hown, ⟨hold, -⟩ | ⟨-, hdocs, -⟩⟩ := Replica.copyPackage_cases hcopy
  · obtain rfl : key = own := Except.ok.inj (hkey.symm.trans hown)
    rw [hnew] at hold
    simp at hold
  -- The files are selected from those of the walk, and they are remembered.
  have hfiles := eq_selectDocs_of_docsOf hdocs
  have hlook := lookup_self_of_copyPackage hkey hcopy
  refine ⟨?_, ?_, ?_, ?_, ?_⟩
  · rw [hfiles]
    exact selectDocs_sublist _
  · rw [hfiles]
    exact pairwise_selectDocs _
  · intro f hf
    rw [hfiles] at hf
    simpa [isNested] using (List.mem_filter.mp hf).2
  · intro f hf hslash
    rw [hfiles]
    exact filter_selectDocs hf (by simpa [isNested] using hslash)
  · intro later hlater q hq
    have hkept := hlater.lookup hlook
    exact ⟨docs_of_lookup hq hkept, fun fs here => copyPackage_of_lookup hq hkept⟩

/-- The same project as before, where the package has files and directories that differ only in case,
    and a file beside them. -/
def spelledFiles : FileSystem :=
  (((danglingFiles.put ["W", "node_modules", "a", "Y.md"] (.file "text\n".toUTF8)).put
    ["W", "node_modules", "a", "D"] .directory).put
      ["W", "node_modules", "a", "D", "X.md"] (.file "text\n".toUTF8)).put
        ["W", "node_modules", "a", "d", "x.md"] (.file "other text\n".toUTF8)

/-- One of two spellings is copied, and the file beside the directories is not. What is told does not
    change when all files are gone. -/
theorem docs_are_first_of_each_spelling_mixed :
    ∃ r' fs', (Replica.new "/W/c").copyPackage spelledFiles danglingHere danglingPackage =
        .ok (["D/X.md", "d/y.md"], r', fs') ∧
      walkedDocs spelledFiles danglingHere danglingPackage =
        ["Y.md", "D/X.md", "d/x.md", "d/y.md"] ∧
      (∃ g, (["Y.md", "D/X.md", "d/x.md", "d/y.md"].find?
          (fun h => Text.lower h == Text.lower "d/x.md")) = some g ∧
        ["D/X.md", "d/y.md"].filter (fun h => Text.lower h == Text.lower "d/x.md") = [g]) ∧
      r'.docs danglingPackage = .ok ["D/X.md", "d/y.md"] ∧
      r'.copyPackage FileSystem.empty danglingHere danglingPackage =
        .ok (["D/X.md", "d/y.md"], r', FileSystem.empty) := by
  have hkey : packageKey danglingPackage = .ok "1296fe607590eb9f" := by decide +kernel
  obtain ⟨hexists, hspec⟩ :=
    docs_are_first_of_each_spelling (r := Replica.new "/W/c") hkey rfl
  have hfs : CleanStands spelledFiles danglingHere :=
    ⟨⟨by decide +kernel, by decide +kernel, by decide +kernel⟩, by decide +kernel⟩
  obtain ⟨files, r', fs', hcopy⟩ :=
    hexists spelledFiles danglingHere hfs (by decide +kernel) (by decide +kernel)
  have hfiles : ((Replica.new "/W/c").copyPackage spelledFiles danglingHere danglingPackage).map
      Prod.fst = .ok ["D/X.md", "d/y.md"] := by decide +kernel
  rw [hcopy] at hfiles
  obtain rfl : files = ["D/X.md", "d/y.md"] := Except.ok.inj hfiles
  have hwalked : walkedDocs spelledFiles danglingHere danglingPackage =
      ["Y.md", "D/X.md", "d/x.md", "d/y.md"] := by decide +kernel
  obtain ⟨-, -, -, hfirst, hlater⟩ := hspec _ _ _ _ _ hcopy
  rw [hwalked] at hfirst
  obtain ⟨hdocs, hagain⟩ := hlater r' .same danglingPackage hkey
  exact ⟨r', fs', hcopy, hwalked, hfirst "d/x.md" (by decide) (by decide +kernel), hdocs,
    hagain FileSystem.empty danglingHere⟩

end PackageAtlas.Docs
