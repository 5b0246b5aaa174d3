import PackageAtlas.Docs.Replica
import PackageAtlas.Proofs.FileSystem.Growth

namespace PackageAtlas.Docs

open FileSystem (Grown Maintains Sound Stands behind makeDirectories outcome)

/-!
# Copies of documentation

What has been copied when the documentation of a package is reported as copied:

* `prepared`: the file system in which a file is copied, with the directories that it needs;
* `copyOne_cases`, `copyAll_cases`: files are copied one after another, up to the first failure;
* `grown_of_copyAll`: copying only adds to a file system;
* `read_of_copyAll`: a copy holds the bytes of its file, unless another copy is put in its place;
* `reported_docs_are_copied_up_to_first_failure`: so do the copies of the files that are reported,
  up to the first failure.
-/

variable {here : Standpoint} {source target file : String} {files : List String}
  {fs fs' : FileSystem}

/-! ### Copying -/

/-- The file system in which a file is copied: all directories that it needs have been made. -/
def prepared (here : Standpoint) (target file : String) (fs : FileSystem) : FileSystem :=
  behind (makeDirectories here (Path.parent (Path.join target file))) fs

/-- All that copying one file can do: it fails behind making directories, or the bytes of the file
    are put where the path of its copy leads. -/
theorem copyOne_cases (here : Standpoint) (source target file : String) (fs : FileSystem) :
    (∃ e, outcome (copyOne here source target file) fs = (.error e, prepared here target file fs)) ∨
      ∃ bytes loc,
        (prepared here target file fs).read here (Path.join source file) = .ok bytes ∧
        (prepared here target file fs).resolve true here (Path.join target file) = .ok loc ∧
        (prepared here target file fs).at? loc ≠ some .directory ∧
        outcome (copyOne here source target file) fs =
          (.ok (), (prepared here target file fs).put loc (.file bytes)) := by
  rcases hmade : outcome (makeDirectories here (Path.parent (Path.join target file))) fs with
    ⟨e | u, mid⟩
  · refine Or.inl ⟨e, ?_⟩
    rw [copyOne, FileSystem.outcome_bind, hmade, prepared, FileSystem.behind_of_outcome hmade]
  · have hcopy := FileSystem.copy_cases here (Path.join source file) (Path.join target file) mid
    rw [copyOne, FileSystem.outcome_bind, hmade, prepared, FileSystem.behind_of_outcome hmade]
    exact hcopy

/-- Files are copied one after another. -/
theorem copyAll_cons (f : String) (files : List String) (fs : FileSystem) :
    outcome (copyAll here source target (f :: files)) fs =
      match outcome (copyOne here source target f) fs with
      | (.ok _, fs') => outcome (copyAll here source target files) fs'
      | (.error e, fs') => (.error e, fs') := by
  rw [copyAll, FileSystem.outcome_bind]
  rcases outcome (copyOne here source target f) fs with ⟨e | u, next⟩ <;> rfl

/-- The first files are copied, and if there are others, the next one cannot be copied. -/
theorem copyAll_cases (here : Standpoint) (source target : String) (files : List String)
    (fs : FileSystem) :
    ∃ done rest mid, files = done ++ rest ∧
      outcome (copyAll here source target done) fs = (.ok (), mid) ∧
      ((rest = [] ∧ outcome (copyAll here source target files) fs = (.ok (), mid)) ∨
        ∃ f more e, rest = f :: more ∧
          outcome (copyOne here source target f) mid = (.error e, prepared here target f mid) ∧
          outcome (copyAll here source target files) fs =
            (.error e, prepared here target f mid)) := by
  induction files generalizing fs with
  | nil => exact ⟨[], [], fs, rfl, rfl, Or.inl ⟨rfl, rfl⟩⟩
  | cons f files ih =>
    rcases copyOne_cases here source target f fs with ⟨e, he⟩ | ⟨bytes, loc, -, -, -, hrun⟩
    · refine ⟨[], f :: files, fs, rfl, rfl, Or.inr ⟨f, files, e, rfl, he, ?_⟩⟩
      rw [copyAll_cons, he]
    · obtain ⟨done, rest, mid, hfiles, hdone, hrest⟩ :=
        ih ((prepared here target f fs).put loc (.file bytes))
      refine ⟨f :: done, rest, mid, by rw [hfiles]; rfl, ?_, ?_⟩
      · rw [copyAll_cons, hrun]
        exact hdone
      · rw [copyAll_cons, hrun]
        exact hrest

/-- Copying some files and then others is copying all of them. -/
theorem copyAll_append {before after : List String}
    (h : outcome (copyAll here source target (before ++ after)) fs = (.ok (), fs')) :
    ∃ mid, outcome (copyAll here source target before) fs = (.ok (), mid) ∧
      outcome (copyAll here source target after) mid = (.ok (), fs') := by
  induction before generalizing fs with
  | nil => exact ⟨fs, rfl, h⟩
  | cons f before ih =>
    rw [List.cons_append, copyAll_cons] at h
    rw [copyAll_cons]
    rcases hrun : outcome (copyOne here source target f) fs with ⟨e | u, next⟩
    · rw [hrun] at h
      simp at h
    · rw [hrun] at h
      exact ih h

/-! ### What stays -/

/-- What copying one file keeps, copying some files keeps. -/
theorem maintains_copyAll {I : FileSystem → Prop}
    (h : ∀ f ∈ files, Maintains I (copyOne here source target f)) :
    Maintains I (copyAll here source target files) := by
  induction files with
  | nil => exact FileSystem.maintains_pure ()
  | cons f files ih =>
    obtain ⟨hf, hfiles⟩ := List.forall_mem_cons.mp h
    exact Maintains.bind hf (fun _ => ih hfiles)

theorem sound_copyOne : Sound here (copyOne here source target file) :=
  Maintains.bind FileSystem.sound_makeDirectories (fun _ => FileSystem.sound_copy)

theorem sound_copyAll : Sound here (copyAll here source target files) :=
  maintains_copyAll (fun _ _ => sound_copyOne)

theorem stands_prepared (hfs : Stands fs here) : Stands (prepared here target file fs) here :=
  FileSystem.sound_makeDirectories fs hfs

/-- New directories are all that is made before a file is copied. -/
theorem grown_prepared (here : Standpoint) (target file : String) (fs : FileSystem) :
    Grown (fun _ e => e = .directory) fs (prepared here target file fs) :=
  FileSystem.maintains_grown_makeDirectories fs .same

/-- Copying only adds to a file system. -/
theorem grown_of_copyOne {result : Except FileError Unit} (hfs : Stands fs here)
    (h : outcome (copyOne here source target file) fs = (result, fs')) :
    Grown (fun _ _ => True) fs fs' := by
  have hmade : Grown (fun _ _ => True) fs (prepared here target file fs) :=
    (grown_prepared here target file fs).mono (fun _ _ _ => trivial)
  rcases copyOne_cases here source target file fs with ⟨e, he⟩ | ⟨bytes, loc, -, hloc, hdir, hrun⟩
  · rw [h] at he
    rw [(Prod.mk.inj he).2]
    exact hmade
  · rw [h] at hrun
    rw [(Prod.mk.inj hrun).2]
    exact .file hmade ((stands_prepared hfs).file_of_resolve hloc hdir) trivial

theorem stands_of_copyOne {result : Except FileError Unit} (hfs : Stands fs here)
    (h : outcome (copyOne here source target file) fs = (result, fs')) : Stands fs' here :=
  FileSystem.behind_of_outcome h ▸ sound_copyOne fs hfs

theorem grown_of_copyAll {result : Except FileError Unit} (hfs : Stands fs here)
    (h : outcome (copyAll here source target files) fs = (result, fs')) :
    Grown (fun _ _ => True) fs fs' := by
  induction files generalizing fs with
  | nil =>
    obtain rfl : fs = fs' := (Prod.mk.inj h).2
    exact .same
  | cons f files ih =>
    rw [copyAll_cons] at h
    rcases hrun : outcome (copyOne here source target f) fs with ⟨e | u, next⟩
    · rw [hrun] at h
      obtain rfl := (Prod.mk.inj h).2
      exact grown_of_copyOne hfs hrun
    · rw [hrun] at h
      exact (grown_of_copyOne hfs hrun).trans (ih (stands_of_copyOne hfs hrun) h)

/-! ### What copies hold -/

/-- A copy is found where it was put, with the bytes of its file. -/
theorem find?_of_copyOne (hfs : Stands fs here)
    (h : outcome (copyOne here source target file) fs = (.ok (), fs')) :
    ∃ bytes loc, (prepared here target file fs).read here (Path.join source file) = .ok bytes ∧
      fs' = (prepared here target file fs).put loc (.file bytes) ∧
      fs'.find? here (Path.join target file) = .ok (loc, .file bytes) := by
  rcases copyOne_cases here source target file fs with
    ⟨e, he⟩ | ⟨bytes, loc, hread, hloc, hdir, hrun⟩
  · rw [h] at he
    simp at he
  · rw [h] at hrun
    obtain rfl := (Prod.mk.inj hrun).2
    have hstands : Stands (prepared here target file fs) here := stands_prepared hfs
    have hold := hstands.file_of_resolve hloc hdir
    have hgrown : Grown (fun _ _ => True) (prepared here target file fs)
        ((prepared here target file fs).put loc (.file bytes)) := .file .same hold trivial
    refine ⟨bytes, loc, hread, rfl, FileSystem.find?_eq_ok_iff.mpr ⟨?_, ?_⟩⟩
    · exact hgrown.resolve_eq (hstands.not_link_of_resolve hloc) hloc
    · exact FileSystem.at?_put_self (FileSystem.ne_nil_of_forall_file hold)

/-- A path that leads to a file leads there behind more copies as well. -/
theorem exists_find?_of_grown {P : Location → Entry → Prop} {path : String} {loc : Location}
    {bytes : ByteArray} (h : Grown P fs fs') (hfind : fs.find? here path = .ok (loc, .file bytes)) :
    ∃ b, fs'.find? here path = .ok (loc, .file b) := by
  obtain ⟨hresolve, hloc⟩ := FileSystem.find?_eq_ok_iff.mp hfind
  obtain ⟨b, hb⟩ := h.at?_file hloc
  exact ⟨b, FileSystem.find?_eq_ok_iff.mpr ⟨h.resolve_eq (by simp [hloc]) hresolve, hb⟩⟩

/-- The bytes of a file stay where directories are made. -/
theorem at?_of_grown_directories {loc : Location} {bytes : ByteArray}
    (h : Grown (fun _ e => e = .directory) fs fs') (hloc : fs.at? loc = some (.file bytes)) :
    fs'.at? loc = some (.file bytes) := by
  rcases h.at?_eq_or loc with heq | ⟨e, he, rfl⟩
  · rw [heq]
    exact hloc
  · obtain ⟨b, hb⟩ := h.at?_file hloc
    rw [hb] at he
    simp at he

/-- The bytes of a file stay, unless a copy is put in its place. -/
theorem at?_of_copyAll {loc : Location} {bytes : ByteArray} (hfs : Stands fs here)
    (h : outcome (copyAll here source target files) fs = (.ok (), fs'))
    (hloc : fs.at? loc = some (.file bytes)) :
    fs'.at? loc = some (.file bytes) ∨
      ∃ g ∈ files, ∃ b, fs'.find? here (Path.join target g) = .ok (loc, .file b) := by
  induction files generalizing fs with
  | nil =>
    obtain rfl : fs = fs' := (Prod.mk.inj h).2
    exact Or.inl hloc
  | cons g files ih =>
    rw [copyAll_cons] at h
    rcases hrun : outcome (copyOne here source target g) fs with ⟨e | u, next⟩
    · rw [hrun] at h
      simp at h
    rw [hrun] at h
    have hnext := stands_of_copyOne hfs hrun
    obtain ⟨copied, l, -, hput, hfind⟩ := find?_of_copyOne hfs hrun
    by_cases hl : loc = l
    · -- This copy is put in the place of the file, and it is still found there in the end.
      subst hl
      obtain ⟨b, hb⟩ := exists_find?_of_grown (grown_of_copyAll hnext h) hfind
      exact Or.inr ⟨g, List.mem_cons_self, b, hb⟩
    · have hkept : next.at? loc = some (.file bytes) := by
        rw [hput, FileSystem.at?_put_of_ne hl]
        exact at?_of_grown_directories (grown_prepared here target g fs) hloc
      rcases ih hnext h hkept with hend | ⟨g', hg', hfound⟩
      · exact Or.inl hend
      · exact Or.inr ⟨g', List.mem_cons_of_mem g hg', hfound⟩

/-- **A copy holds the bytes of its file**, as they were when it was copied, unless the copy of a
    later file is put in the same place; more directories do not matter. -/
theorem read_of_copyAll {before after : List String} {f : String} {mid : FileSystem}
    (hfs : Stands fs here)
    (h : outcome (copyAll here source target (before ++ f :: after)) fs = (.ok (), mid))
    (hmade : Grown (fun _ e => e = .directory) mid fs')
    (hafter : ∀ g ∈ after,
      fs'.sameNode here (Path.join target f) (Path.join target g) = false) :
    ∃ bytes,
      (prepared here target f (behind (copyAll here source target before) fs)).read here
        (Path.join source f) = .ok bytes ∧
      fs'.read here (Path.join target f) = .ok bytes := by
  obtain ⟨start, hbefore, h⟩ := copyAll_append h
  have hstart : Stands start here :=
    FileSystem.behind_of_outcome hbefore ▸ sound_copyAll fs hfs
  rw [FileSystem.behind_of_outcome hbefore]
  rw [copyAll_cons] at h
  rcases hrun : outcome (copyOne here source target f) start with ⟨e | u, next⟩
  · rw [hrun] at h
    simp at h
  rw [hrun] at h
  have hnext := stands_of_copyOne hstart hrun
  obtain ⟨bytes, loc, hread, -, hfind⟩ := find?_of_copyOne hstart hrun
  obtain ⟨b, hb⟩ := exists_find?_of_grown (grown_of_copyAll hnext h) hfind
  obtain ⟨b', hb'⟩ := exists_find?_of_grown hmade hb
  refine ⟨bytes, hread, FileSystem.read_eq_ok_iff.mpr ⟨loc, ?_⟩⟩
  rcases at?_of_copyAll hnext h (FileSystem.find?_eq_ok_iff.mp hfind).2 with hkept | ⟨g, hg, c, hc⟩
  · exact FileSystem.find?_eq_ok_iff.mpr
      ⟨(FileSystem.find?_eq_ok_iff.mp hb').1, at?_of_grown_directories hmade hkept⟩
  · -- The copy of another file in the same place was excluded.
    obtain ⟨c', hc'⟩ := exists_find?_of_grown hmade hc
    have hapart := hafter g hg
    rw [FileSystem.sameNode, hb', hc'] at hapart
    simp at hapart

/-! ### What is reported -/

namespace Replica

variable {r r' : Replica} {p : Package} {key : String}

/-- All that copying the files of a package can do: what is remembered is not copied again, and all
    files are remembered once they have been copied, or should have been. -/
theorem copyPackage_cases (h : r.copyPackage fs here p = .ok (files, r', fs')) :
    ∃ key, packageKey p = .ok key ∧
      ((r.memo.lookup key = some files ∧ r' = r ∧ fs' = fs) ∨
        (r.memo.lookup key = none ∧ docsOf fs here p = .ok files ∧
          r' = { r with memo := r.memo ++ [(key, files)] } ∧
          fs' = behind (copyAll here p.directory (Path.join r.directory key) files) fs)) := by
  unfold copyPackage at h
  obtain ⟨key, hkey, h⟩ := bind_eq_ok_iff.mp h
  refine ⟨key, ?_, ?_⟩
  · rcases hk : packageKey p with e | k
    · rw [hk] at hkey
      simp [orUnwritable] at hkey
    · rw [hk] at hkey
      rw [show k = key from Except.ok.inj hkey]
  rcases hlook : r.memo.lookup key with _ | found
  · rw [hlook] at h
    simp only at h
    obtain ⟨found, hfound, h⟩ := bind_eq_ok_iff.mp h
    generalize hrun :
      (copyAll here p.directory (Path.join r.directory key) found).run.run fs = ran at h
    obtain ⟨result, mid⟩ := ran
    simp only at h
    -- A null character is the one failure that is told; any other one ends the copying.
    split at h
    · simp [throw, throwThe, MonadExceptOf.throw] at h
    · obtain ⟨rfl, hr, hmid⟩ : found = files ∧
          { r with memo := r.memo ++ [(key, found)] } = r' ∧ mid = fs' := by
        simpa [pure, Except.pure] using h
      exact Or.inr ⟨rfl, hfound, hr.symm, hmid ▸ (FileSystem.behind_of_outcome hrun).symm⟩
  · rw [hlook] at h
    obtain ⟨rfl, rfl, rfl⟩ : found = files ∧ r = r' ∧ fs = fs' := by
      simpa [pure, Except.pure] using h
    exact Or.inl ⟨rfl, rfl, rfl⟩

/-- What is remembered of a package is what is reported. -/
theorem docs_of_memo (hkey : packageKey p = .ok key) (hnew : r.memo.lookup key = none)
    (hr : r' = { r with memo := r.memo ++ [(key, files)] }) : r'.docs p = .ok files := by
  subst hr
  rw [docs, hkey]
  show Except.ok (((r.memo ++ [(key, files)]).lookup key).getD []) = _
  rw [List.lookup_append, hnew]
  simp

end Replica

/-- **Reports.** When the documentation of a package has been copied, exactly its documentation
    files are reported, and the first of them have been copied: each copy is a file with the bytes
    of the file that it was copied from, unless a later copy was put in its place. If there are
    others, the next one could not be copied, and nothing was copied any more. -/
theorem reported_docs_are_copied_up_to_first_failure {r r' : Replica} {p : Package}
    {key : String} {fs fs' : FileSystem} {here : Standpoint} {files : List String}
    (hfs : Stands fs here) (hkey : packageKey p = .ok key) (hnew : r.memo.lookup key = none)
    (h : r.copyPackage fs here p = .ok (files, r', fs')) :
    let target := Path.join r.directory key
    r'.packageDirectory p = .ok target ∧ r'.docs p = .ok files ∧
      (∀ f, r'.isCached p f = .ok (files.contains f)) ∧
      ∃ done rest, files = done ++ rest ∧
        (rest = [] ∨ ∃ f more e, rest = f :: more ∧
          outcome (copyOne here p.directory target f)
            (behind (copyAll here p.directory target done) fs) = (.error e, fs')) ∧
        ∀ before f after, done = before ++ f :: after →
          (∀ g ∈ after, fs'.sameNode here (Path.join target f) (Path.join target g) = false) →
          ∃ bytes,
            (prepared here target f (behind (copyAll here p.directory target before) fs)).read here
              (Path.join p.directory f) = .ok bytes ∧
            fs'.read here (Path.join target f) = .ok bytes := by
  obtain ⟨k, hk, ⟨hold, -⟩ | ⟨-, -, hr, hbehind⟩⟩ := Replica.copyPackage_cases h
  · rw [hkey, Except.ok.injEq] at hk
    rw [← hk, hnew] at hold
    simp at hold
  rw [hkey, Except.ok.injEq] at hk
  subst hk
  have hdocs := Replica.docs_of_memo hkey hnew hr
  refine ⟨?_, hdocs, ?_, ?_⟩
  · rw [Replica.packageDirectory, hkey, hr]
    rfl
  · intro f
    rw [Replica.isCached, hdocs]
    rfl
  obtain ⟨done, rest, mid, hfiles, hdone, hrest⟩ :=
    copyAll_cases here p.directory (Path.join r.directory key) files fs
  -- Behind the last copy at most directories are made, so the copies are the same in the end.
  rcases hrest with ⟨rfl, hall⟩ | ⟨f, more, e, rfl, hfail, hall⟩
  · rw [FileSystem.behind_of_outcome hall] at hbehind
    subst hbehind
    refine ⟨done, [], hfiles, Or.inl rfl, fun before f after hsplit hafter => ?_⟩
    subst hsplit
    exact read_of_copyAll hfs hdone .same hafter
  · rw [FileSystem.behind_of_outcome hall] at hbehind
    have hmade := grown_prepared here (Path.join r.directory key) f mid
    rw [← hbehind] at hfail hmade
    refine ⟨done, f :: more, hfiles, Or.inr ⟨f, more, e, rfl, ?_⟩, ?_⟩
    · rw [FileSystem.behind_of_outcome hdone]
      exact hfail
    · intro before g after hsplit hafter
      subst hsplit
      exact read_of_copyAll hfs hdone hmade hafter

/-! ### Where reports go wrong -/

/-- A project with one package, the documentation of which is a link to nothing. -/
def danglingFiles : FileSystem :=
  ⟨[(["W"], .directory),
    (["W", "node_modules"], .directory),
    (["W", "node_modules", "a"], .directory),
    (["W", "node_modules", "a", "package.json"], .file "\x7b\"version\": \"1\"\x7d".toUTF8),
    (["W", "node_modules", "a", "d"], .directory),
    (["W", "node_modules", "a", "d", "y.md"], .link "nowhere")]⟩

/-- The same project, where the package has a file of documentation as well. -/
def mixedFiles : FileSystem :=
  danglingFiles.put ["W", "node_modules", "a", "d", "x.md"] (.file "text\n".toUTF8)

/-- The package in these projects. -/
def danglingPackage : Package :=
  ⟨Text.WideText.ofString "a", Text.WideText.ofString "1", "/W/node_modules/a"⟩

/-- Where one stands in these projects. -/
def danglingHere : Standpoint := FileSystem.standing ["W"]

/-- One of two files is copied, and the other one is where copying ends. -/
theorem reported_docs_mixed :
    ∃ r' fs', (Replica.new "/W/c").copyPackage mixedFiles danglingHere danglingPackage =
        .ok (["d/x.md", "d/y.md"], r', fs') ∧
      r'.docs danglingPackage = .ok ["d/x.md", "d/y.md"] ∧
      fs'.read danglingHere "/W/c/1296fe607590eb9f/d/x.md" = .ok "text\n".toUTF8 ∧
      ∃ done rest, ["d/x.md", "d/y.md"] = done ++ rest ∧
        (rest = [] ∨ ∃ f more e, rest = f :: more ∧
          outcome (copyOne danglingHere "/W/node_modules/a" "/W/c/1296fe607590eb9f" f)
            (behind (copyAll danglingHere "/W/node_modules/a" "/W/c/1296fe607590eb9f" done)
              mixedFiles) = (.error e, fs')) := by
  have hfs : Stands mixedFiles danglingHere :=
    ⟨by decide +kernel, by decide +kernel, by decide +kernel⟩
  have hkey : packageKey danglingPackage = .ok "1296fe607590eb9f" := by decide +kernel
  have hrun : ((Replica.new "/W/c").copyPackage mixedFiles danglingHere danglingPackage).map
      (fun x => (x.1, x.2.2.read danglingHere "/W/c/1296fe607590eb9f/d/x.md")) =
        .ok (["d/x.md", "d/y.md"], .ok "text\n".toUTF8) := by decide +kernel
  rcases hcopy : (Replica.new "/W/c").copyPackage mixedFiles danglingHere danglingPackage with
    e | ⟨files, r', fs'⟩
  · rw [hcopy] at hrun
    simp [Except.map] at hrun
  rw [hcopy] at hrun
  obtain ⟨rfl, hread⟩ := Prod.mk.inj (Except.ok.inj hrun)
  obtain ⟨-, hdocs, -, done, rest, hfiles, hrest, -⟩ :=
    reported_docs_are_copied_up_to_first_failure hfs hkey rfl hcopy
  exact ⟨r', fs', rfl, hdocs, hread, done, rest, hfiles, hrest⟩

/-- **Reported, and missing.** A file that cannot be copied is reported as copied, and its package
    counts as one with documentation. -/
theorem reported_docs_without_copy :
    Stands danglingFiles danglingHere ∧
    ((Replica.new "/W/c").copyPackage danglingFiles danglingHere danglingPackage).map
      (fun x => (x.2.1.docs danglingPackage, x.2.1.isCached danglingPackage "d/y.md",
        x.2.2.exists? danglingHere "/W/c/1296fe607590eb9f/d/y.md")) =
      .ok (.ok ["d/y.md"], .ok true, false) ∧
    (outcome ((Replica.new "/W/c").fill danglingHere "/W") danglingFiles).1.map Prod.fst =
      .ok ⟨1, 1⟩ :=
  ⟨⟨by decide +kernel, by decide +kernel, by decide +kernel⟩, by decide +kernel,
    by decide +kernel⟩

end PackageAtlas.Docs
