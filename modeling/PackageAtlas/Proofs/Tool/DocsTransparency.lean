import PackageAtlas.Proofs.Docs.Fill
import PackageAtlas.Proofs.Tool.Containment

namespace PackageAtlas.Tool

open Docs (Replica packageKey)
open FileSystem (Stands behind makeDirectories)
open Package (Escapes insidePath)

/-!
# Transparency of the copies of documentation

Files are shown alike whether their documentation has been copied or not:

* `IgnoresReplica`: steps that do not depend on the copies;
* `Session.copyOf`, `outcome_replicated?`: when a copy is shown in the place of a file;
* `Session.Faithful`, `fst_readFile_eq`: copies that hold the bytes of their files change no answer;
* `faithful_of_fillReplica`: copies that are made in a directory of their own are such;
* `copies_are_transparent`: so they change no answer;
* `copies_shown_for_other_project`: unless one asks for another project than has been copied.
-/

variable {α β : Type} {s s' : Session} {p : Package} {r : Replica} {file dir : String}

/-! ### Steps that do not depend on the copies -/

/-- The session with other copies of documentation, or with none. -/
def Session.withReplica (s : Session) (replica : Option Replica) : Session :=
  { s with replica := replica }

/-- An action gives the same whatever has been copied, and leaves that as it is. -/
def IgnoresReplica (x : Action α) : Prop :=
  ∀ s replica, outcome x (s.withReplica replica) =
    ((outcome x s).1, (outcome x s).2.withReplica replica)

theorem LooksOnly.ignoresReplica {x : Action α} (h : LooksOnly x) : IgnoresReplica x := by
  intro s replica
  apply Prod.ext
  · exact h.same _ _ rfl rfl
  · rw [h.keeps, h.keeps]

theorem ignoresReplica_pure (a : α) : IgnoresReplica (pure a : Action α) := fun _ _ => rfl

theorem IgnoresReplica.bind {x : Action α} {f : α → Action β} (hx : IgnoresReplica x)
    (hf : ∀ a, IgnoresReplica (f a)) : IgnoresReplica (x >>= f) := by
  intro s replica
  rw [outcome_bind, outcome_bind, hx]
  rcases outcome x s with ⟨e | a, t⟩
  · rfl
  · exact hf a t replica

theorem ignoresReplica_currentSettings : IgnoresReplica currentSettings := by
  intro s replica
  rw [outcome_currentSettings, outcome_currentSettings]
  have hconfig : (s.withReplica replica).config = s.config := rfl
  rw [hconfig]
  rcases s.config with e | settings <;> rfl

theorem ignoresReplica_rangeIfGiven {most : Action (Option Int)} (hmost : IgnoresReplica most)
    (label : String) (least : Int) (value : Argument) :
    IgnoresReplica (rangeIfGiven label least most value) := by
  unfold rangeIfGiven
  split
  · exact ignoresReplica_pure _
  · exact hmost.bind (fun m =>
      (looksOnly_requireRange label least m value).ignoresReplica.bind
        (fun n => ignoresReplica_pure _))

theorem ignoresReplica_readRange (path : String) (start count : Option Int) :
    IgnoresReplica (readRange path start count) := by
  refine (looksOnly_readText path).ignoresReplica.bind (fun text => ?_)
  split
  · exact ignoresReplica_pure _
  · exact ignoresReplica_pure _
  · exact ignoresReplica_currentSettings.bind (fun _ => ignoresReplica_pure _)

/-- Two actions after one that does not depend on the copies answer alike if the second one does. -/
theorem fst_bind_withReplica {x : Action α} {f : α → Action β} {replica : Option Replica}
    (hx : IgnoresReplica x)
    (hf : ∀ a t, Yields x s a t → (outcome (f a) t).1 = (outcome (f a) (t.withReplica replica)).1) :
    (outcome (x >>= f) s).1 = (outcome (x >>= f) (s.withReplica replica)).1 := by
  rw [outcome_bind, outcome_bind, hx]
  rcases hr : outcome x s with ⟨e | a, t⟩
  · rfl
  · exact hf a t hr

/-- The same lines are read from files with the same bytes. -/
theorem outcome_readRange_congr {path path' : String} {bytes : ByteArray} {start count : Option Int}
    (h : s.fs.read s.here path = .ok bytes) (h' : s.fs.read s.here path' = .ok bytes) :
    outcome (readRange path start count) s = outcome (readRange path' start count) s := by
  have htext : outcome (readText path) s = outcome (readText path') s :=
    (show Yields (readText path) s _ s from yields_readText.mpr ⟨bytes, h, rfl, rfl⟩).trans
      (show Yields (readText path') s _ s from yields_readText.mpr ⟨bytes, h', rfl, rfl⟩).symm
  unfold readRange
  rw [outcome_bind, outcome_bind, htext]

/-! ### Copies in the place of files -/

theorem outcome_currentReplica (h : s.replica = some r) :
    outcome currentReplica s = (.ok r, s) := by
  rw [outcome_currentReplica_eq, h]

/-- The copy of a file of documentation, where nothing else is given for the copies. -/
def Session.copyOf (s : Session) (r : Replica) (p : Package) (file : String) :
    Except Fault (Option String) :=
  match packageKey p with
  | .error e => .error (.unwritable e)
  | .ok key =>
    if ((r.memo.lookup key).getD []).contains file then
      match insidePath (Path.join r.directory key) file with
      | .error e => .error (.path e)
      | .ok path => .ok (if s.fs.isFile s.here path then some path else none)
    else .ok none

theorem copyOf_withReplica (replica : Option Replica) :
    (s.withReplica replica).copyOf r p file = s.copyOf r p file := by
  unfold Session.copyOf
  rcases packageKey p with e | key <;> rfl

theorem outcome_isFile (path : String) :
    outcome (isFile path) s = (.ok (s.fs.isFile s.here path), s) := rfl

/-- What looking for a copy gives; it changes nothing. -/
theorem outcome_replicated? (hr : s.replica = some r) (p : Package) (file : String)
    (copies : Argument) :
    outcome (replicated? p file copies) s =
      (if copies.holds then
        (if isDocs file then .error (.misfit (.lacks copies.sort "is_cached")) else .ok none)
      else if isDocs file then s.copyOf r p file else .ok none, s) := by
  unfold replicated? Session.copyOf
  by_cases hholds : copies.holds = true
  · by_cases hdocs : isDocs file = true
    · simp [hholds, hdocs]
    · simp [hholds, hdocs]
  by_cases hdocs : isDocs file = true
  · simp only [hholds, hdocs, if_true, Bool.false_eq_true, if_false, outcome_bind,
      outcome_currentReplica hr, outcome_orFault]
    -- A package without a key has no copies, and asking for them fails as the key does.
    rcases hkey : packageKey p with e | key
    · have hcached : r.isCached p file = .error e := by
        rw [Replica.isCached, Replica.docs, hkey]
        rfl
      rw [hcached]
      rfl
    have hcached : r.isCached p file = .ok (((r.memo.lookup key).getD []).contains file) := by
      rw [Replica.isCached, Replica.docs, hkey]
      rfl
    have hdir : r.packageDirectory p = .ok (Path.join r.directory key) := by
      rw [Replica.packageDirectory, hkey]
      rfl
    rw [hcached]
    by_cases hmem : ((r.memo.lookup key).getD []).contains file = true
    · simp only [mapError_ok, hmem, if_true, hdir, pathInside, outcome_bind, outcome_orFault]
      rcases insidePath (Path.join r.directory key) file with e | path
      · rfl
      · simp only [mapError_ok, outcome_isFile]
        split <;> rfl
    · simp only [mapError_ok, hmem]
      rfl
  · simp only [hholds, hdocs, Bool.false_eq_true, if_false, outcome_bind,
      outcome_currentReplica hr, outcome_pure]

/-- A copy is shown in the place of a file only if it is remembered and there. -/
theorem copyOf_cases (hesc : ¬ Escapes file) (r : Replica) (dir : String) :
    s.copyOf r p file = s.copyOf (Replica.new dir) p file ∨
      s.copyOf (Replica.new dir) p file = .ok none ∧ ∃ key path, packageKey p = .ok key ∧
        file ∈ (r.memo.lookup key).getD [] ∧
        insidePath (Path.join r.directory key) file = .ok path ∧
        s.fs.isFile s.here path = true ∧ s.copyOf r p file = .ok (some path) := by
  unfold Session.copyOf
  rcases packageKey p with e | key
  · exact Or.inl rfl
  simp only [Replica.new, List.lookup_nil, Option.getD_none, List.contains_nil, Bool.false_eq_true,
    if_false]
  by_cases hmem : ((r.memo.lookup key).getD []).contains file = true
  · rw [if_pos hmem, Package.insidePath_eq_ok _ hesc]
    by_cases hfile : s.fs.isFile s.here
        (Package.extend (Path.join r.directory key) (Package.innerNames file)) = true
    · exact Or.inr ⟨trivial, key, _, rfl, List.contains_iff_mem.mp hmem,
        Package.insidePath_eq_ok _ hesc, hfile, by simp only [hfile, if_true]⟩
    · exact Or.inl (by simp only [hfile]; rfl)
  · exact Or.inl (if_neg hmem)

/-- What a session sees of files and remembers of their copies. -/
def Session.copies (s : Session) : (FileSystem × Standpoint) × Option Replica :=
  (s.files, s.replica)

/-- The copies of files of a project that are there hold the bytes of the files. -/
def Session.Faithful (s : Session) (root : Argument) : Prop :=
  ∀ r name p file key path inside, s.replica = some r →
    Yields (findPackage name root) s (some p) s → packageKey p = .ok key →
    file ∈ (r.memo.lookup key).getD [] → '\\' ∉ file.toList →
    insidePath (Path.join r.directory key) file = .ok path → s.fs.isFile s.here path = true →
    insidePath p.directory file = .ok inside →
    ∃ bytes, s.fs.read s.here path = .ok bytes ∧ s.fs.read s.here inside = .ok bytes

theorem Session.Faithful.of_copies {t : Session} {root : Argument} (h : s.Faithful root)
    (hcopies : t.copies = s.copies) : t.Faithful root := by
  obtain ⟨hfiles, hreplica⟩ := Prod.mk.inj hcopies
  obtain ⟨hfs, hhere⟩ := Session.files_eq_iff.mp hfiles
  intro r name p file key path inside hr hp hkey hmem hback hpath hfile hinside
  rw [hfs, hhere] at hfile ⊢
  exact h r name p file key path inside (hreplica ▸ hr)
    ((looksOnly_findPackage name root).yields_of_same hp hfs.symm hhere.symm) hkey hmem hback
    hpath hfile hinside

/-- A copy is found where there is none without copies only if it holds the bytes of the file. -/
theorem replicated?_cases {root name : Argument} {inside : String} (hr : s.replica = some r)
    (hs : s.Faithful root) (hp : Yields (findPackage name root) s (some p) s)
    (hinside : insidePath p.directory file = .ok inside) (dir : String) (copies : Argument) :
    let look := replicated? p (Package.withSlashes file) copies
    let bare := s.withReplica (some (Replica.new dir))
    ∃ found, outcome look s = (found, s) ∧
      (outcome look bare = (found, bare) ∨
        ∃ path bytes, found = .ok (some path) ∧ outcome look bare = (.ok none, bare) ∧
          s.fs.read s.here path = .ok bytes ∧ s.fs.read s.here inside = .ok bytes) := by
  obtain ⟨hesc, hslashed⟩ := Package.insidePath_withSlashes hinside
  refine ⟨_, outcome_replicated? hr p _ copies, ?_⟩
  have hbare := outcome_replicated? (s := s.withReplica (some (Replica.new dir)))
    (r := Replica.new dir) rfl p (Package.withSlashes file) copies
  rw [hbare]
  by_cases hholds : copies.holds = true
  · exact Or.inl (by simp only [hholds, if_true])
  by_cases hdocs : isDocs (Package.withSlashes file) = true
  · simp only [hholds, hdocs, if_true, Bool.false_eq_true, if_false]
    rw [copyOf_withReplica]
    -- The copies differ only if the file has been copied, and then the copy holds its bytes.
    rcases copyOf_cases (s := s) (p := p) hesc r dir with
      heq | ⟨hnone, key, path, hkey, hmem, hpath, hfile, hsome⟩
    · exact Or.inl (by rw [heq])
    · obtain ⟨bytes, hread, hread'⟩ :=
        hs r name p _ key path inside hr hp hkey hmem (Package.not_mem_withSlashes file) hpath
          hfile hslashed
      exact Or.inr ⟨path, bytes, hsome, by rw [hnone], hread, hread'⟩
  · exact Or.inl (by simp only [hholds, hdocs, Bool.false_eq_true, if_false])

/-- What is done with a file comes to the same if it is done with a copy that holds its bytes. -/
theorem fst_replicated?_bind {root name : Argument} {inside : String}
    {rest : Option String → Action β} (hr : s.replica = some r) (hs : s.Faithful root)
    (hp : Yields (findPackage name root) s (some p) s)
    (hinside : insidePath p.directory file = .ok inside) (dir : String) (copies : Argument)
    (hrest : ∀ copy, IgnoresReplica (rest copy))
    (hsame : ∀ path bytes, s.fs.read s.here path = .ok bytes →
      s.fs.read s.here inside = .ok bytes → outcome (rest (some path)) s = outcome (rest none) s) :
    (outcome (replicated? p (Package.withSlashes file) copies >>= rest) s).1 =
      (outcome (replicated? p (Package.withSlashes file) copies >>= rest)
        (s.withReplica (some (Replica.new dir)))).1 := by
  rw [outcome_bind, outcome_bind]
  obtain ⟨found, hfound, hbare | ⟨path, bytes, rfl, hbare, hread, hread'⟩⟩ :=
    replicated?_cases hr hs hp hinside dir copies
  · -- The same is found with copies and without.
    rw [hfound, hbare]
    rcases found with e | copy
    · rfl
    · simp only
      rw [hrest]
  · rw [hfound, hbare]
    simp only
    rw [hrest, hsame path bytes hread hread']

/-- **Copies are not told from files.** A file is shown alike whether there are copies that hold the
    bytes of their files or none at all. -/
theorem fst_readFile_eq {package file root start count copies : Argument} (hr : s.replica = some r)
    (hs : s.Faithful root) (dir : String) :
    (outcome (readFile package file root start count copies) s).1 =
      (outcome (readFile package file root start count copies)
        (s.withReplica (some (Replica.new dir)))).1 := by
  have hsettings : IgnoresReplica (do return some (← currentSettings).maxReadLines) :=
    ignoresReplica_currentSettings.bind (fun _ => ignoresReplica_pure _)
  have hkeeps : Keeps Session.copies (do return some (← currentSettings).maxReadLines) :=
    (keeps_currentSettings (fun _ _ _ => rfl)).bind (fun _ => keeps_pure _)
  unfold readFile
  refine fst_bind_withReplica (ignoresReplica_rangeIfGiven (ignoresReplica_pure _) _ _ _) ?_
  intro first t₁ hfirst
  refine fst_bind_withReplica (ignoresReplica_rangeIfGiven hsettings _ _ _) ?_
  intro number t hnumber
  -- Only the settings may be new.
  have hcopies : t.copies = s.copies :=
    ((keeps_rangeIfGiven hkeeps _ _ _).of_yields hnumber).trans
      ((keeps_rangeIfGiven (keeps_pure _) _ _ _).of_yields hfirst)
  have ht : t.Faithful root := hs.of_copies hcopies
  have htr : t.replica = some r := (Prod.mk.inj hcopies).2.trans hr
  refine fst_bind_withReplica (looksOnly_findPackage package root).ignoresReplica ?_
  intro found t₂ hfound
  have heq := (looksOnly_findPackage package root).of_yields hfound
  subst heq
  rcases found with _ | p
  · rfl
  refine fst_bind_withReplica (looksOnly_requireText _ _).ignoresReplica ?_
  intro text t₃ htext
  have heq := (looksOnly_requireText _ _).of_yields htext
  subst heq
  refine fst_bind_withReplica (looksOnly_pathInside _ _).ignoresReplica ?_
  intro inside t₄ hpath
  have heq := (looksOnly_pathInside _ _).of_yields hpath
  subst heq
  -- What is shown of a path does not depend on the copies, but on the bytes that are found by it.
  refine fst_replicated?_bind htr ht hfound (yields_orFault.mp hpath).1 dir copies ?_ ?_
  · intro copy
    refine (looksOnly_isFile _).ignoresReplica.bind (fun there => ?_)
    split
    · exact (ignoresReplica_readRange _ first number).bind (fun _ => ignoresReplica_pure _)
    · exact ignoresReplica_pure _
  · intro path bytes hread hread'
    simp only [Option.getD_some, Option.getD_none]
    rw [outcome_bind, outcome_bind, outcome_isFile, outcome_isFile,
      FileSystem.isFile_of_read hread, FileSystem.isFile_of_read hread']
    simp only [if_true]
    rw [outcome_bind, outcome_bind, outcome_readRange_congr hread hread']

/-! ### Copies of a project -/

theorem yields_changeFiles {change : FileSystem.Change α} {a : α}
    (h : Yields (changeFiles change) s a s') :
    ∃ fs', FileSystem.outcome change s.fs = (.ok a, fs') ∧ s' = { s with fs := fs' } := by
  unfold changeFiles at h
  rw [yields_get_bind] at h
  rcases hdone : FileSystem.outcome change s.fs with ⟨result, fs'⟩
  have hrun : StateT.run (ExceptT.run change) s.fs = (result, fs') := hdone
  rw [hrun] at h
  rw [yields_set_bind, yields_orFault] at h
  obtain ⟨rfl, rfl⟩ := h
  exact ⟨fs', rfl, rfl⟩

/-- Copying the documentation of a project changes the files and what is remembered of copies. -/
theorem yields_fillReplica {root : String} {summary : Docs.Summary} (hr : s.replica = some r)
    (h : Yields (fillReplica root) s summary s') :
    ∃ r' fs', FileSystem.outcome (r.fill s.here root) s.fs = (.ok (summary, r'), fs') ∧
      s' = { s with fs := fs', replica := some r' } := by
  unfold fillReplica at h
  rw [yields_bind] at h
  obtain ⟨r₀, t, hr₀, h⟩ := h
  have hkept := outcome_currentReplica hr
  unfold Yields at hr₀
  rw [hkept, Prod.mk.injEq, Except.ok.injEq] at hr₀
  obtain ⟨rfl, rfl⟩ := hr₀
  rw [yields_get_bind, yields_bind] at h
  obtain ⟨⟨found, r'⟩, t, hchange, h⟩ := h
  obtain ⟨fs', hdone, rfl⟩ := yields_changeFiles hchange
  rw [yields_modify_bind, yields_pure] at h
  obtain ⟨rfl, rfl⟩ := h
  exact ⟨r', fs', hdone, rfl⟩

/-- Copies that have been made in a directory that was not used before hold the bytes of their
    files. -/
theorem faithful_of_fillReplica {root top : String} {summary : Docs.Summary}
    (hs : Stands s.fs s.here) (hr : s.replica = some (Replica.new dir))
    (hfill : Yields (fillReplica root) s summary s') (htop : s.here.absolute root = .ok top)
    (hroot : Package.resolveRoot s'.fs s'.here root = .ok top)
    (hfree : Docs.IsFree s.fs s.here dir top)
    (hkeys : ∀ p q, Package.IsListed s'.fs s'.here top p → Package.IsListed s'.fs s'.here top q →
      ∀ key, packageKey p = .ok key → packageKey q = .ok key → p = q) :
    s'.Faithful (.text root) := by
  obtain ⟨r', fs', hdone, rfl⟩ := yields_fillReplica hr hfill
  intro r name p file key path inside hr' hp hkey hmem hback hpath hfile hinside
  obtain rfl : r' = r := Option.some.inj hr'
  obtain ⟨text, top', -, htop', hfind, -⟩ := yields_findPackage_some.mp hp
  have hsame : top = top' := by
    unfold rootOf at htop'
    rw [yields_get_bind, yields_orFault, hroot, Except.ok.injEq] at htop'
    exact htop'.1
  -- The package stands in the project that was copied, so it is one that the copies were made for.
  rw [← hsame] at hfind
  obtain ⟨rfl, names, hne, hnames, rfl, hcopy⟩ := hfree.read_copy hs htop hdone hkeys
    (Package.isListed_of_find? hfind) hkey hmem
  obtain ⟨bytes, hread⟩ := FileSystem.exists_read_of_isFile hfile
  obtain rfl := Package.eq_join_of_insidePath_ofNames hne hnames hback hpath
  obtain rfl := Package.eq_join_of_insidePath_ofNames hne hnames hback hinside
  exact ⟨bytes, hread, hcopy bytes hread⟩

/-- **Copies change no answer.** Where the documentation of a project has been copied to a directory
    that was absent or empty and lies apart from it, and no two packages have the same key, every
    file is shown as it would be if nothing had been copied, for whatever package, file and lines
    one asks. The project is the one that is given, or if the text of it is empty, that in which one
    stands, which has to be the one whose documentation was copied. -/
theorem copies_are_transparent {root top dir : String} {summary : Docs.Summary}
    (hs : Stands s.fs s.here) (hr : s.replica = some (Replica.new dir))
    (hfill : Yields (fillReplica root) s summary s') (htop : s.here.absolute root = .ok top)
    (hroot : root ≠ "" ∨ Package.currentProject s'.fs s'.here = .ok top)
    (hfree : Docs.IsFree s.fs s.here dir top)
    (hkeys : ∀ p q, Package.IsListed s'.fs s'.here top p → Package.IsListed s'.fs s'.here top q →
      ∀ key, packageKey p = .ok key → packageKey q = .ok key → p = q)
    {t : Session} (ht : t.copies = s'.copies) {args : Arguments}
    (hargs : args.get "root" .nothing = .text root) (other : String) :
    (Name.readFile.invoke args t).1 =
      (Name.readFile.invoke args (t.withReplica (some (Replica.new other)))).1 := by
  -- The empty text is resolved anew, when the copies have been made already.
  have hmeant : Package.resolveRoot s'.fs s'.here root = .ok top := by
    unfold Package.resolveRoot
    obtain ⟨r', fs', -, rfl⟩ := yields_fillReplica hr hfill
    by_cases hempty : root = ""
    · rw [if_pos (by simp [hempty])]
      exact hroot.resolve_left (fun hne => hne hempty)
    · rw [if_neg (by simpa using hempty)]
      exact htop
  have hfaithful : t.Faithful (.text root) :=
    (faithful_of_fillReplica hs hr hfill htop hmeant hfree hkeys).of_copies ht
  obtain ⟨r, htr⟩ : ∃ r, t.replica = some r := by
    obtain ⟨r', fs', -, rfl⟩ := yields_fillReplica hr hfill
    exact ⟨r', (Prod.mk.inj ht).2⟩
  apply fst_invoke_congr
  rw [← hargs] at hfaithful
  exact fst_readFile_eq htr hfaithful other

/-! ### A project inside of another -/

/-- A project with a package, and inside of it a directory with another package of the same name and
    version. -/
def nestedFiles : FileSystem :=
  ⟨[(["W"], .directory),
    (["W", "p"], .directory),
    (["W", "p", "package.json"], .file "\x7b\x7d".toUTF8),
    (["W", "p", "node_modules"], .directory),
    (["W", "p", "node_modules", "a"], .directory),
    (["W", "p", "node_modules", "a", "package.json"], .file "\x7b\"version\": \"1\"\x7d".toUTF8),
    (["W", "p", "node_modules", "a", "d"], .directory),
    (["W", "p", "node_modules", "a", "d", "x.md"], .file "outer\n".toUTF8),
    (["W", "p", "node_modules", "a", "y.ts"], .file "// none\n// outer\n".toUTF8),
    (["W", "p", "sub"], .directory),
    (["W", "p", "sub", "node_modules"], .directory),
    (["W", "p", "sub", "node_modules", "a"], .directory),
    (["W", "p", "sub", "node_modules", "a", "package.json"],
      .file "\x7b\"version\": \"1\"\x7d".toUTF8),
    (["W", "p", "sub", "node_modules", "a", "d"], .directory),
    (["W", "p", "sub", "node_modules", "a", "d", "x.md"], .file "inner\n".toUTF8)]⟩

/-- A session in the inner directory in which nothing has been copied. -/
def nestedSession : Session :=
  { Session.new nestedFiles (FileSystem.standing ["W", "p", "sub"]) ⟨[], "/tmp"⟩ with
    replica := some (Replica.new "/W/c") }

/-- The package of the outer project. -/
def outerPackage : Package :=
  ⟨Text.WideText.ofString "a", Text.WideText.ofString "1", "/W/p/node_modules/a"⟩

/-- What is asked of the package. -/
def nestedArguments (root : String) : Arguments :=
  [("module", .text "a"), ("file", .text "d/x.md"), ("root", .text root)]

theorem stands_nested : Stands nestedFiles nestedSession.here :=
  ⟨by decide, by decide, by decide⟩

theorem isFree_nested {top : String} (htop : top = "/W/p" ∨ top = "/W/p/sub") :
    Docs.IsFree nestedFiles nestedSession.here "/W/c" top := by
  have hlinks : FileSystem.LinkFree nestedFiles [] := by
    intro ns t hlink
    by_cases hns : ns = []
    · subst hns
      simp [FileSystem.at?_nil] at hlink
    · have hmem := FileSystem.mem_of_at? hns hlink
      simp [nestedFiles] at hmem
  have hempty : ∀ ns, ns ≠ [] → nestedFiles.at? (["W", "c"] ++ ns) = none := by
    intro ns _
    rcases hat : nestedFiles.at? (["W", "c"] ++ ns) with _ | e
    · rfl
    · have hmem := FileSystem.mem_of_at? (by simp) hat
      simp [nestedFiles] at hmem
  have hfound : (behind (makeDirectories nestedSession.here "/W/c") nestedFiles).find?
      nestedSession.here "/W/c" = .ok (["W", "c"], .directory) :=
    FileSystem.find?_eq_ok_iff.mpr ⟨by decide, by decide⟩
  have hnormal : Path.IsNormal top := by
    rcases htop with rfl | rfl
    · exact ⟨"/", ["W", "p"], Or.inl rfl, by decide, by decide⟩
    · exact ⟨"/", ["W", "p", "sub"], Or.inl rfl, by decide, by decide⟩
  refine Docs.isFree_of_linkFree hlinks hfound hempty hnormal ?_ ?_
  · rcases htop with rfl | rfl <;> decide
  · rcases htop with rfl | rfl <;> decide

/-- The session behind copying the documentation of a project. -/
def nestedFilled (root : String) : Session := nestedSession.after (fillReplica root)

/-- Copies of the outer project are shown, and are what the files of it are. -/
theorem copies_are_transparent_nested :
    ((nestedFilled "/W/p").replica.map (fun r => r.isCached outerPackage "d/x.md") =
        some (.ok true) ∧
      (Name.readFile.invoke (nestedArguments "/W/p") (nestedFilled "/W/p")).1 =
        .done (.file outerPackage "d/x.md" "outer\n")) ∧
    (Name.readFile.invoke (nestedArguments "/W/p") (nestedFilled "/W/p")).1 =
      (Name.readFile.invoke (nestedArguments "/W/p")
        ((nestedFilled "/W/p").withReplica (some (Replica.new "/W/e")))).1 := by
  have hrun : (outcome (fillReplica "/W/p") nestedSession).1 = .ok ⟨1, 1⟩ ∧
      Package.scan (nestedFilled "/W/p").fs (nestedFilled "/W/p").here "/W/p" "" =
        .ok [outerPackage] ∧
      (nestedFilled "/W/p").replica.map (fun r => r.isCached outerPackage "d/x.md") =
        some (.ok true) ∧
      (Name.readFile.invoke (nestedArguments "/W/p") (nestedFilled "/W/p")).1 =
        .done (.file outerPackage "d/x.md" "outer\n") := by decide +kernel
  obtain ⟨hdone, hscan, hshown⟩ := hrun
  have hfill : Yields (fillReplica "/W/p") nestedSession ⟨1, 1⟩ (nestedFilled "/W/p") :=
    yields_after hdone
  have htop : nestedSession.here.absolute "/W/p" = .ok "/W/p" := by decide +kernel
  have hroot : (nestedArguments "/W/p").get "root" .nothing = .text "/W/p" := by
    rfl
  refine ⟨hshown, copies_are_transparent (t := nestedFilled "/W/p") stands_nested rfl hfill htop
    (Or.inl (by decide)) (isFree_nested (Or.inl rfl)) ?_ rfl hroot "/W/e"⟩
  intro p q hp hq key _ _
  rw [Package.isListed_iff hscan, List.mem_singleton] at hp hq
  rw [hp, hq]

/-- **Copies that are seen from inside.** With an empty text for the project, the copies are those
    of the directory in which one stands, and they are shown in the place of files of the project
    that lies around it. -/
theorem copies_shown_for_other_project :
    (Stands nestedFiles nestedSession.here ∧
      nestedSession.here.absolute "" = .ok "/W/p/sub" ∧
      ∀ top, top = "/W/p" ∨ top = "/W/p/sub" →
        Docs.IsFree nestedFiles nestedSession.here "/W/c" top) ∧
    (outcome (fillReplica "") nestedSession).1 = .ok ⟨1, 1⟩ ∧
    (Package.scan (nestedFilled "").fs (nestedFilled "").here "/W/p/sub" "").map List.length =
      .ok 1 ∧
    (Name.readFile.invoke (nestedArguments "") (nestedFilled "")).1 =
      .done (.file outerPackage "d/x.md" "inner\n") ∧
    (Name.readFile.invoke (nestedArguments "")
        ((nestedFilled "").withReplica (some (Replica.new "/W/e")))).1 =
      .done (.file outerPackage "d/x.md" "outer\n") :=
  ⟨⟨stands_nested, by decide +kernel, fun _ htop => isFree_nested htop⟩, by decide +kernel⟩

end PackageAtlas.Tool
