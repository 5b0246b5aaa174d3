import PackageAtlas.Proofs.Docs.Copies
import PackageAtlas.Proofs.FileSystem.Walk
import PackageAtlas.Proofs.FirstBy

namespace PackageAtlas.Docs

open FileSystem (Stands behind makeDirectories outcome)
open PackageAtlas.Path (IsName)

/-!
# What replicas remember

Whatever is done with a replica, it remembers files of documentation only, which are found by names:

* `IsDocsFile`: the paths of such files; `isDocsFile_of_mem_docsOf`: those of a package are such;
* `IsKey`, `isKey_of_packageKey`: packages have keys of sixteen digits;
* `isName_of_packageKey`: so each has a directory of its own for its copies;
* `Replica.copyPackages_induction`, `Replica.fill_eq_ok_iff`: what copying one package keeps, copying
  all packages of a project keeps, and filling a replica is just that;
* `Replica.Reached`, `Replica.Reached.remembers`: all replicas remember the documentation of
  packages;
* `Replica.Reached.documents`, `Replica.Reached.nodup`: so they remember files of documentation
  only, each of them once.
-/

variable {fs fs' : FileSystem} {here : Standpoint} {p : Package} {files : List String} {f : String}

/-! ### Files of documentation -/

/-- A path is made of names, the last of which is that of documentation. -/
def IsDocsFile (f : String) : Prop :=
  ∃ names, names ≠ [] ∧ (∀ n ∈ names, IsName n) ∧ f = Path.ofNames names ∧
    ∃ name, names.getLast? = some name ∧ FileFilter.docs.rejectsFile name = false

/-- The first file of each spelling is left. -/
theorem firstByLower_eq_firstBy (seen paths : List String) :
    firstByLower seen paths = firstBy Text.lower seen paths := by
  induction paths generalizing seen with
  | nil => rfl
  | cons path paths ih => rw [firstByLower, firstBy, ih, ih]

theorem selectDocs_sublist (paths : List String) : (selectDocs paths).Sublist paths := by
  rw [selectDocs, firstByLower_eq_firstBy]
  exact List.filter_sublist.trans (firstBy_sublist _ [] paths)

theorem mem_of_mem_selectDocs {paths : List String} (h : f ∈ selectDocs paths) : f ∈ paths :=
  (selectDocs_sublist paths).subset h

/-- No two of the files that are selected differ only in case. -/
theorem pairwise_selectDocs (paths : List String) :
    (selectDocs paths).Pairwise (fun f g => Text.lower f ≠ Text.lower g) := by
  rw [selectDocs, firstByLower_eq_firstBy]
  exact (pairwise_firstBy _ [] paths).filter _

theorem nodup_selectDocs (paths : List String) : (selectDocs paths).Nodup :=
  (pairwise_selectDocs paths).imp (fun hne heq => hne (congrArg Text.lower heq))

/-- The documentation files of a package are selected from those of a walk. -/
theorem exists_walk_of_mem_docsOf (h : Replica.docsOf fs here p = .ok files) (hf : f ∈ files) :
    ∃ found, fs.walkFirst here FileFilter.docs none p.directory = .ok found ∧
      f ∈ selectDocs found := by
  unfold Replica.docsOf at h
  split at h
  · rename_i found hwalk
    obtain rfl := Except.ok.inj h
    exact ⟨found, hwalk, hf⟩
  · -- A walk that fails is refused or gives no files.
    split at h
    · simp at h
    · obtain rfl := Except.ok.inj h
      simp at hf

/-- The documentation files of a package are found by names. -/
theorem isDocsFile_of_mem_docsOf (hfs : fs.WellFormed) (h : Replica.docsOf fs here p = .ok files)
    (hf : f ∈ files) : IsDocsFile f := by
  obtain ⟨found, hwalk, hmem⟩ := exists_walk_of_mem_docsOf h hf
  obtain ⟨loc, names, -, hnames, rfl⟩ :=
    FileSystem.exists_names_of_mem_walkFirst hwalk (mem_of_mem_selectDocs hmem)
  obtain ⟨hne, hall⟩ := FileSystem.isName_of_mem_walkFrom hfs hnames
  exact ⟨names, hne, hall, rfl, FileSystem.rejectsFile_of_mem_walkFrom hfs hnames⟩

/-- The documentation of a package holds each file once. -/
theorem nodup_of_docsOf (h : Replica.docsOf fs here p = .ok files) : files.Nodup := by
  unfold Replica.docsOf at h
  split at h
  · obtain rfl := Except.ok.inj h
    exact nodup_selectDocs _
  · split at h
    · simp at h
    · obtain rfl := Except.ok.inj h
      exact List.nodup_nil

/-! ### Keys -/

/-- A text is made of sixteen hexadecimal digits, in small letters. -/
def IsKey (key : String) : Prop :=
  key.toList.length = 16 ∧ ∀ c ∈ key.toList, c ∈ "0123456789abcdef".toList

theorem hexDigitChar_mem {n : Nat} (h : n < 16) :
    Text.hexDigitChar n ∈ "0123456789abcdef".toList := by
  revert h
  revert n
  decide

/-- Hexadecimal digits are added in front, as many as are asked for. -/
theorem hexTextAfter_spec (done : List Char) (width n : Nat) :
    (Text.hexTextAfter done width n).length = width + done.length ∧
      ∀ c ∈ Text.hexTextAfter done width n, c ∈ done ∨ c ∈ "0123456789abcdef".toList := by
  induction width generalizing done n with
  | zero => exact ⟨by simp [Text.hexTextAfter], fun c hc => Or.inl hc⟩
  | succ width ih =>
    obtain ⟨hlength, hdigits⟩ := ih (Text.hexDigitChar (n % 16) :: done) (n / 16)
    rw [Text.hexTextAfter]
    refine ⟨?_, fun c hc => ?_⟩
    · rw [hlength, List.length_cons]
      omega
    · rcases hdigits c hc with hdone | hdigit
      · -- The last digit that was added is the remainder of the number.
        rcases List.mem_cons.mp hdone with rfl | hdone
        · exact Or.inr (hexDigitChar_mem (Nat.mod_lt n (by omega)))
        · exact Or.inl hdone
      · exact Or.inr hdigit

/-- The digest of a package is written with sixteen digits. -/
theorem isKey_of_packageKey {key : String} (h : packageKey p = .ok key) : IsKey key := by
  unfold packageKey at h
  obtain ⟨text, -, h⟩ := bind_eq_ok_iff.mp h
  obtain rfl : Digest.digestText text.toUTF8 = key := Except.ok.inj h
  obtain ⟨hlength, hdigits⟩ := hexTextAfter_spec [] 16 (Digest.digest text.toUTF8).toNat
  rw [IsKey, Digest.digestText, String.toList_ofList, Text.hexText]
  exact ⟨hlength, fun c hc => (hdigits c hc).resolve_left (by simp)⟩

/-- Sixteen digits name a directory. -/
theorem IsKey.isName {key : String} (h : IsKey key) : IsName key := by
  -- They are too many to be empty or made of dots.
  have hne : ∀ short : String, short.toList.length < 16 → key ≠ short := by
    rintro short hshort rfl
    rw [h.1] at hshort
    omega
  refine ⟨?_, hne ".." (by decide), fun hslash => absurd (h.2 _ hslash) (by decide)⟩
  rw [Path.isIdle, Bool.or_eq_false_iff, beq_eq_false_iff_ne, beq_eq_false_iff_ne]
  exact ⟨hne "" (by decide), hne "." (by decide)⟩

/-- The digest of a package names a directory. -/
theorem isName_of_packageKey {key : String} (h : packageKey p = .ok key) : IsName key :=
  (isKey_of_packageKey h).isName

namespace Replica

variable {r r' : Replica}

/-! ### Many packages -/

/-- Copying one package after another keeps what copying each of them keeps. -/
theorem copyPackages_induction {J : Replica → FileSystem → Prop} {packages : List Package}
    (hstep : ∀ r fs p files r' fs', p ∈ packages → J r fs →
      copyPackage r fs here p = .ok (files, r', fs') → J r' fs')
    (cached : Nat) (r : Replica) (fs : FileSystem) (h : J r fs) :
    J (copyPackages here cached r fs packages).2.1 (copyPackages here cached r fs packages).2.2 := by
  induction packages generalizing cached r fs with
  | nil => exact h
  | cons p packages ih =>
    have hrest := fun r fs q files r' fs' (hq : q ∈ packages) =>
      hstep r fs q files r' fs' (List.mem_cons_of_mem p hq)
    rw [copyPackages]
    rcases hcopy : r.copyPackage fs here p with e | ⟨files, r', fs'⟩
    · exact ih hrest cached r fs h
    · exact ih hrest _ r' fs' (hstep r fs p files r' fs' List.mem_cons_self h hcopy)

/-- What filling a replica comes to, if it can be done. -/
theorem fill_eq_ok_iff {root : String} {summary : Summary} :
    outcome (r.fill here root) fs = (.ok (summary, r'), fs') ↔
      ∃ top made packages, here.absolute root = .ok top ∧
        outcome (makeDirectories here r.directory) fs = (.ok (), made) ∧
        Package.scan made here top "" = .ok packages ∧ summary.total = packages.length ∧
        copyPackages here 0 r made packages = (summary.cached, r', fs') := by
  obtain ⟨total, cached⟩ := summary
  rw [fill, FileSystem.outcome_bind]
  -- Nothing is filled if the directory cannot be made, or from a place that was removed, or if the
  -- packages cannot be looked for.
  rcases outcome (makeDirectories here r.directory) fs with ⟨e | u, made⟩
  · simp
  rcases habs : here.absolute root with e | top
  · simp [FileSystem.outcome_throw]
  simp only [FileSystem.outcome_get_bind]
  rcases hscan : Package.scan made here top "" with e | packages
  · simp [FileSystem.outcome_throw, hscan]
  simp only [FileSystem.outcome_set_bind, FileSystem.outcome_pure]
  rcases hcopied : copyPackages here 0 r made packages with ⟨n, r₁, fs₁⟩
  constructor
  · intro h
    obtain ⟨hok, rfl⟩ := Prod.mk.inj h
    obtain ⟨hsummary, rfl⟩ := Prod.mk.inj (Except.ok.inj hok)
    obtain ⟨htotal, rfl⟩ := Summary.mk.inj hsummary
    exact ⟨top, made, packages, rfl, rfl, hscan, htotal.symm, hcopied⟩
  · rintro ⟨top', made', packages', htop, hmade, hscan', htotal, hcopied'⟩
    obtain rfl := Except.ok.inj htop
    obtain rfl := (Prod.mk.inj hmade).2
    obtain rfl := Except.ok.inj (hscan.symm.trans hscan')
    rw [hcopied, Prod.mk.injEq, Prod.mk.injEq] at hcopied'
    obtain ⟨rfl, rfl, rfl⟩ := hcopied'
    rw [htotal]

/-- What becomes of a replica that is filled, and of the file system. -/
theorem fill_cases {root : String} {summary : Summary}
    (h : outcome (r.fill here root) fs = (.ok (summary, r'), fs')) :
    ∃ top packages, here.absolute root = .ok top ∧
      let made := behind (makeDirectories here r.directory) fs
      let copied := copyPackages here 0 r made packages
      Package.scan made here top "" = .ok packages ∧ r' = copied.2.1 ∧ fs' = copied.2.2 := by
  obtain ⟨top, made, packages, htop, hmade, hscan, -, hcopied⟩ := fill_eq_ok_iff.mp h
  refine ⟨top, packages, htop, ?_⟩
  rw [FileSystem.behind_of_outcome hmade]
  simp only
  rw [hcopied]
  exact ⟨hscan, rfl, rfl⟩

/-! ### What is remembered -/

/-- All lists of files that are remembered are of a kind. -/
def Remembers (P : List String → Prop) (r : Replica) : Prop :=
  ∀ key files, r.memo.lookup key = some files → P files

/-- Only files of documentation are remembered. -/
def Documents (r : Replica) : Prop :=
  ∀ key files, r.memo.lookup key = some files → ∀ f ∈ files, IsDocsFile f

section Remembers

variable {P : List String → Prop}

theorem remembers_new (directory : String) : (new directory).Remembers P := by
  intro key files h
  simp [new] at h

theorem remembers_clear (r : Replica) : r.clear.Remembers P := by
  intro key files h
  simp [clear] at h

theorem documents_new (directory : String) : (new directory).Documents := remembers_new directory

/-- What is remembered behind copying a package was remembered before, or is what its directory
    holds. -/
theorem lookup_of_copyPackage {key : String} {found : List String}
    (hcopy : copyPackage r fs here p = .ok (files, r', fs'))
    (hlook : r'.memo.lookup key = some found) :
    r.memo.lookup key = some found ∨
      packageKey p = .ok key ∧ docsOf fs here p = .ok found := by
  obtain ⟨own, hkey, ⟨-, rfl, -⟩ | ⟨-, hdocs, rfl, -⟩⟩ := copyPackage_cases hcopy
  · exact Or.inl hlook
  · rw [List.lookup_append] at hlook
    rcases hold : r.memo.lookup key with _ | old
    · rw [hold, Option.none_or, List.lookup_cons] at hlook
      split at hlook
      · rename_i heq
        obtain rfl := Option.some.inj hlook
        rw [eq_of_beq heq]
        exact Or.inr ⟨hkey, hdocs⟩
      · simp at hlook
    · rw [hold, Option.some_or] at hlook
      exact Or.inl hlook

theorem Remembers.copyPackage (h : r.Remembers P)
    (hP : ∀ files, docsOf fs here p = .ok files → P files)
    (hcopy : copyPackage r fs here p = .ok (files, r', fs')) : r'.Remembers P := by
  intro key found hlook
  rcases lookup_of_copyPackage hcopy hlook with hold | ⟨-, hdocs⟩
  · exact h key found hold
  · exact hP found hdocs

theorem Documents.copyPackage (h : r.Documents) (hfs : fs.WellFormed)
    (hcopy : copyPackage r fs here p = .ok (files, r', fs')) : r'.Documents :=
  Remembers.copyPackage h (fun _ hdocs _ hf => isDocsFile_of_mem_docsOf hfs hdocs hf) hcopy

/-- Copying the files of a package keeps a well-formed file system. -/
theorem stands_of_copyPackage (hfs : Stands fs here)
    (hcopy : copyPackage r fs here p = .ok (files, r', fs')) : Stands fs' here := by
  obtain ⟨key, -, ⟨-, -, rfl⟩ | ⟨-, -, -, hbehind⟩⟩ := copyPackage_cases hcopy
  · exact hfs
  · rw [hbehind]
    exact sound_copyAll fs hfs

/-- A replica stays in its directory. -/
theorem directory_of_copyPackage (hcopy : copyPackage r fs here p = .ok (files, r', fs')) :
    r'.directory = r.directory := by
  obtain ⟨key, -, ⟨-, rfl, -⟩ | ⟨-, -, rfl, -⟩⟩ := copyPackage_cases hcopy <;> rfl

theorem directory_of_fill {root : String} {summary : Summary}
    (hfill : outcome (fill r here root) fs = (.ok (summary, r'), fs')) :
    r'.directory = r.directory := by
  obtain ⟨top, packages, -, -, hr, -⟩ := fill_cases hfill
  rw [hr]
  exact copyPackages_induction (J := fun q _ => q.directory = r.directory)
    (fun _ _ _ _ _ _ _ hq hcopy => (directory_of_copyPackage hcopy).trans hq) 0 r _ rfl

theorem Remembers.fill (h : r.Remembers P) (hfs : Stands fs here)
    (hP : ∀ fs p files, Stands fs here → docsOf fs here p = .ok files → P files) {root : String}
    {summary : Summary} (hfill : outcome (fill r here root) fs = (.ok (summary, r'), fs')) :
    r'.Remembers P := by
  obtain ⟨top, packages, -, -, hr, -⟩ := fill_cases hfill
  rw [hr]
  have hmade : Stands (behind (makeDirectories here r.directory) fs) here :=
    FileSystem.sound_makeDirectories fs hfs
  refine (copyPackages_induction (J := fun r fs => Stands fs here ∧ r.Remembers P) ?_ 0 r _
    ⟨hmade, h⟩).2
  rintro r fs p files r' fs' - ⟨hstands, hremembers⟩ hcopy
  exact ⟨stands_of_copyPackage hstands hcopy,
    hremembers.copyPackage (fun files => hP fs p files hstands) hcopy⟩

end Remembers

/-- A replica that its own operations lead to, on whatever file systems. -/
inductive Reached : Replica → Prop where
  | new (directory : String) : Reached (new directory)
  | clear {r : Replica} (h : Reached r) : Reached r.clear
  | copyPackage {r r' : Replica} {fs fs' : FileSystem} {here : Standpoint} {p : Package}
      {files : List String} (h : Reached r) (hfs : Stands fs here)
      (hcopy : r.copyPackage fs here p = .ok (files, r', fs')) : Reached r'
  | fill {r r' : Replica} {fs fs' : FileSystem} {here : Standpoint} {root : String}
      {summary : Summary} (h : Reached r) (hfs : Stands fs here)
      (hfill : outcome (r.fill here root) fs = (.ok (summary, r'), fs')) : Reached r'

/-- What is remembered is of a kind if the documentation of every package is. -/
theorem Reached.remembers {P : List String → Prop}
    (hP : ∀ fs here p files, Stands fs here → docsOf fs here p = .ok files → P files)
    (h : Reached r) : r.Remembers P := by
  induction h with
  | new directory => exact remembers_new directory
  | clear => exact remembers_clear _
  | copyPackage _ hfs hcopy ih => exact ih.copyPackage (fun files => hP _ _ _ files hfs) hcopy
  | fill _ hfs hfill ih => exact ih.fill hfs (fun fs p files => hP fs _ p files) hfill

/-- **Replicas remember documentation.** -/
theorem Reached.documents (h : Reached r) : r.Documents :=
  h.remembers (fun _ _ _ _ hfs hdocs _ hf => isDocsFile_of_mem_docsOf hfs.files hdocs hf)

/-- **Replicas remember each file once.** -/
theorem Reached.nodup (h : Reached r) {key : String} (hlook : r.memo.lookup key = some files) :
    files.Nodup :=
  h.remembers (fun _ _ _ _ _ hdocs => nodup_of_docsOf hdocs) key files hlook

end Replica

end PackageAtlas.Docs
