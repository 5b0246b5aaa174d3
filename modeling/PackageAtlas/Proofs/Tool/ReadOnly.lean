import PackageAtlas.Proofs.Docs.Places
import PackageAtlas.Proofs.Tool.DocsTransparency
import PackageAtlas.Proofs.Tool.Overlooks

namespace PackageAtlas.Tool

open Docs (IsKey IsOnWay Replica Spares)
open FileSystem (LinkFree Stands)
open PackageAtlas.Path (IsName parts)

/-!
# Installed packages are only read

Whatever is done in a session one thing after another, nothing is written but copies of
documentation, in the directory for them:

* `Session.docsDirectory`, `Session.place`: where copies go, which tools leave as it is;
* `Operation`, `Session.afterAll`: calls of tools, and copying of documentation;
* `Keeping`: what holds of sessions all along; `Keeping.behind`, `Keeping.afterAll`;
* `packages_are_only_read`: all else is what it was.
-/

variable {α γ : Type} {s t u : Session} {dir : String}

/-! ### Where copies go -/

/-- The directory for copies of documentation: that of the replica, or that of the settings. -/
def Session.docsDirectory (s : Session) : Except SettingsError String :=
  match s.replica with
  | some replica => .ok replica.directory
  | none => s.config.map Settings.docsDirectory

/-- The files of a session, where one stands, and where copies go. -/
def Session.place (s : Session) : FileSystem × Standpoint × Except SettingsError String :=
  (s.fs, s.here, s.docsDirectory)

theorem Session.place_eq_iff :
    s.place = t.place ↔ s.fs = t.fs ∧ s.here = t.here ∧ s.docsDirectory = t.docsDirectory := by
  simp [Session.place]

theorem Session.docsDirectory_of_replica {r : Replica} (h : s.replica = some r) :
    s.docsDirectory = .ok r.directory := by
  rw [Session.docsDirectory, h]

theorem overlooks_place : Overlooks Session.place where
  settings s settings hs := by
    -- The settings that are remembered are those that were gone by.
    have hconfig : ({ s with settings := some settings } : Session).config = s.config := by
      rw [hs]
      rfl
    unfold Session.place Session.docsDirectory
    rw [hconfig]
  index s index := rfl
  replica s settings hr hs := by
    unfold Session.place Session.docsDirectory
    rw [hr, hs]
    rfl

/-- The replica is one in the directory for copies, if there is such a directory. -/
theorem currentReplica_cases (s : Session) :
    (∃ e fault t, s.docsDirectory = .error e ∧ outcome currentReplica s = (.error fault, t)) ∨
      ∃ r t, s.docsDirectory = .ok r.directory ∧ Yields currentReplica s r t := by
  unfold Session.docsDirectory Yields
  rw [outcome_currentReplica_eq]
  rcases hr : s.replica with _ | r
  · rcases s.config with e | settings
    · exact Or.inl ⟨e, _, s, rfl, rfl⟩
    · exact Or.inr ⟨Replica.new settings.docsDirectory, _, rfl, rfl⟩
  · exact Or.inr ⟨r, s, rfl, rfl⟩

/-! ### Operations -/

/-- Copies the documentation of a package. -/
def keepDocs (p : Package) : Action (List String) := do
  let replica ← currentReplica
  let s ← get
  let (files, replica, fs) ← orFault keepingFault (replica.copyPackage s.fs s.here p)
  set { s with fs := fs, replica := some replica }
  return files

/-- What is done in a session. -/
inductive Operation where
  /-- A tool is called by its name. -/
  | tool (name : String) (args : Arguments)
  /-- The documentation of the packages of a project is copied. -/
  | fill (root : String)
  /-- The documentation of a package is copied. -/
  | keep (p : Package)

/-- The session behind an operation, whether it fails or not. -/
def Operation.behind : Operation → Session → Session
  | .tool name args, s =>
    match call name args s with
    | .ok (_, s') => s'
    | .error _ => s
  | .fill root, s => s.after (fillReplica root)
  | .keep p, s => s.after (keepDocs p)

/-- The session behind some operations, one after another. -/
def Session.afterAll (s : Session) : List Operation → Session
  | [] => s
  | operation :: rest => (operation.behind s).afterAll rest

theorem afterAll_induction {J : Session → Prop}
    (hstep : ∀ s operation, J s → J (Operation.behind operation s)) (operations : List Operation)
    (h : J s) : J (s.afterAll operations) := by
  induction operations generalizing s with
  | nil => exact h
  | cons operation rest ih => exact ih (hstep s operation h)

/-- Tools leave as it is what does not show what they remember. -/
theorem Overlooks.behind_tool {view : Session → γ} (h : Overlooks view) (name : String)
    (args : Arguments) (s : Session) : view (Operation.behind (.tool name args) s) = view s := by
  rcases hcall : call name args s with e | ⟨response, t⟩
  · rw [Operation.behind, hcall]
  · rw [Operation.behind, hcall]
    exact h.call_eq hcall

theorem outcome_changeFiles (change : FileSystem.Change α) (s : Session) :
    outcome (changeFiles change) s = ((FileSystem.outcome change s.fs).1.mapError .file,
      { s with fs := FileSystem.behind change s.fs }) := by
  unfold changeFiles FileSystem.behind FileSystem.outcome
  rw [outcome_bind, outcome_get]
  simp only
  rcases change.run.run s.fs with ⟨result, fs'⟩
  simp only [outcome_bind, outcome_set, outcome_orFault]

/-- Filling the replica puts into the file system what is copied, whether that fails or not, and the
    replica stays in its directory. -/
theorem after_fillReplica {r : Replica} (h : Yields currentReplica s r t) (root : String) :
    ∃ r' fs', r'.directory = r.directory ∧ fs' = FileSystem.behind (r.fill t.here root) t.fs ∧
      s.after (fillReplica root) = { t with fs := fs', replica := some r' } := by
  have hreplica := (yields_currentReplica h).1
  unfold Session.after fillReplica
  rw [outcome_bind, h]
  simp only
  rw [outcome_bind, outcome_get]
  simp only
  rw [outcome_bind, outcome_changeFiles]
  rcases hrun : FileSystem.outcome (r.fill t.here root) t.fs with ⟨e | ⟨summary, r'⟩, fs'⟩
  · -- What is put before the failure stays, and so does the replica as it was.
    refine ⟨r, _, rfl, rfl, ?_⟩
    simp only [mapError_error]
    rw [hreplica]
  · refine ⟨r', _, Docs.Replica.directory_of_fill hrun, rfl, ?_⟩
    simp only [mapError_ok, outcome_bind, outcome_modify, outcome_pure]

/-- Copying the documentation of a package fails, or puts what is copied into the file system. -/
theorem after_keepDocs {r : Replica} (h : Yields currentReplica s r t) (p : Package) :
    s.after (keepDocs p) = t ∨
      ∃ files r' fs', r.copyPackage t.fs t.here p = .ok (files, r', fs') ∧
        s.after (keepDocs p) = { t with fs := fs', replica := some r' } := by
  unfold Session.after keepDocs
  rw [outcome_bind, h]
  simp only
  rw [outcome_bind, outcome_get]
  simp only [outcome_bind, outcome_orFault]
  rcases hcopy : r.copyPackage t.fs t.here p with e | ⟨files, r', fs'⟩
  · exact Or.inl rfl
  · exact Or.inr ⟨files, r', fs', rfl, rfl⟩

/-! ### All along -/

/-- Since a session was `s`, only copies and what they need have been put anywhere. -/
structure Keeping (s : Session) (dir : String) (t : Session) : Prop where
  here : t.here = s.here
  directory : t.docsDirectory = .ok dir
  spares : Spares s.fs s.here dir t.fs

theorem Keeping.of_place (h : Keeping s dir t) (hu : u.place = t.place) : Keeping s dir u := by
  obtain ⟨hfs, hhere, hdirectory⟩ := Session.place_eq_iff.mp hu
  exact ⟨hhere.trans h.here, hdirectory.trans h.directory, hfs ▸ h.spares⟩

/-- The replica is in the directory for copies. -/
theorem Keeping.exists_replica (h : Keeping s dir t) :
    ∃ r u, Yields currentReplica t r u ∧ r.directory = dir ∧ Keeping s dir u := by
  rcases currentReplica_cases t with ⟨e, fault, u, hnone, -⟩ | ⟨r, u, hr, hyields⟩
  · rw [h.directory] at hnone
    simp at hnone
  · rw [h.directory] at hr
    exact ⟨r, u, hyields, (Except.ok.inj hr).symm,
      h.of_place (overlooks_place.keeps_currentReplica.of_yields hyields)⟩

/-- **One operation.** -/
theorem Keeping.behind (hdir : dir ≠ "") (h : Keeping s dir t) (operation : Operation) :
    Keeping s dir (operation.behind t) := by
  cases operation with
  | tool name args => exact h.of_place (overlooks_place.behind_tool name args t)
  | fill root =>
    obtain ⟨r, u, hyields, hr, hu⟩ := h.exists_replica
    obtain ⟨r', fs', hr', hfs', heq⟩ := after_fillReplica hyields root
    -- The copies are made where the replica is, which is the same directory as at the start.
    have hfilled : Spares s.fs s.here dir fs' := by
      rw [hfs', hu.here]
      exact Spares.maintains_fill hdir hr root u.fs hu.spares
    show Keeping s dir (t.after (fillReplica root))
    rw [heq]
    refine ⟨hu.here, ?_, hfilled⟩
    rw [Session.docsDirectory_of_replica rfl, hr', hr]
  | keep p =>
    obtain ⟨r, u, hyields, hr, hu⟩ := h.exists_replica
    rcases after_keepDocs hyields p with heq | ⟨files, r', fs', hcopy, heq⟩
    · show Keeping s dir (t.after (keepDocs p))
      rw [heq]
      exact hu
    · rw [hu.here] at hcopy
      obtain ⟨hspares, hr'⟩ := hu.spares.copyPackage hdir hr hcopy
      show Keeping s dir (t.after (keepDocs p))
      rw [heq]
      refine ⟨hu.here, ?_, hspares⟩
      rw [Session.docsDirectory_of_replica rfl, hr']

/-- Where there is no directory for copies, nothing is put anywhere. -/
theorem place_behind_of_error {e : SettingsError} (h : s.docsDirectory = .error e)
    (operation : Operation) : (operation.behind s).place = s.place := by
  -- Both ways to copy ask for the replica first.
  have hreplica : ∀ {β : Type} (f : Replica → Action β),
      (s.after (currentReplica >>= f)).place = s.place := by
    intro β f
    have hkept := overlooks_place.keeps_currentReplica s
    rcases currentReplica_cases s with ⟨e', fault, u, -, hfails⟩ | ⟨r, u, hr, -⟩
    · unfold Session.after
      rw [outcome_bind, hfails]
      rw [hfails] at hkept
      exact hkept
    · rw [h] at hr
      simp at hr
  cases operation with
  | tool name args => exact overlooks_place.behind_tool name args s
  | fill root => exact hreplica _
  | keep p => exact hreplica _

/-- **Installed packages are only read.** The directory for copies is there without links inside, or
    it is not there and its path does not lead up. Then, whatever is done, all that lies outside of
    it is what it was, apart from directories on the way there that were lacking, and all files that
    are not what they were are copies, in directories of those of their packages. Tools change no
    files at all. -/
theorem packages_are_only_read (hs : Stands s.fs s.here)
    (hdocs : ∀ dir, s.docsDirectory = .ok dir → dir ≠ "" ∧
      ((∃ found, s.fs.find? s.here dir = .ok found ∧ LinkFree s.fs found.1) ∨
        s.fs.exists? s.here dir = false ∧ ".." ∉ parts dir))
    (operations : List Operation) :
    (∀ loc, (s.afterAll operations).fs.at? loc = s.fs.at? loc ∨
      ∃ dir, s.docsDirectory = .ok dir ∧
        ((∃ base, (s.afterAll operations).fs.find? s.here dir = .ok (base, .directory) ∧
            base <+: loc) ∨
          (s.fs.at? loc = none ∧ (s.afterAll operations).fs.at? loc = some .directory ∧
            IsOnWay (s.afterAll operations).fs s.here dir loc))) ∧
    (∀ loc bytes, (s.afterAll operations).fs.at? loc = some (.file bytes) →
      s.fs.at? loc = some (.file bytes) ∨
        ∃ dir base key names, s.docsDirectory = .ok dir ∧
          (s.afterAll operations).fs.find? s.here dir = .ok (base, .directory) ∧ IsKey key ∧
          2 ≤ names.length ∧ (∀ n ∈ names, IsName n) ∧ loc = base ++ key :: names) ∧
    ∀ (t u : Session) (name : String) (args : Arguments) (response : Response),
      call name args t = .ok (response, u) → u.fs = t.fs := by
  have hcalls : ∀ (t u : Session) (name : String) (args : Arguments) (response : Response),
      call name args t = .ok (response, u) → u.fs = t.fs := fun _ _ _ _ _ hcall =>
    (Session.place_eq_iff.mp (overlooks_place.call_eq hcall)).1
  rcases hdirectory : s.docsDirectory with e | dir
  · -- No settings, no copies.
    have hplace : (s.afterAll operations).place = s.place := by
      refine afterAll_induction (J := fun t => t.place = s.place) (fun t operation ht => ?_)
        operations rfl
      have herror := (Session.place_eq_iff.mp ht).2.2.trans hdirectory
      exact (place_behind_of_error herror operation).trans ht
    have hfs := (Session.place_eq_iff.mp hplace).1
    rw [hfs]
    exact ⟨fun _ => Or.inl rfl, fun _ _ hfile => Or.inl hfile, hcalls⟩
  · obtain ⟨hdir, hfree⟩ := hdocs dir hdirectory
    have hkeeping : Keeping s dir (s.afterAll operations) :=
      afterAll_induction (fun _ operation ht => ht.behind hdir operation) operations
        ⟨rfl, hdirectory, .start hs hfree⟩
    refine ⟨fun loc => ?_, fun loc bytes hfile => ?_, hcalls⟩
    · exact (hkeeping.spares.at?_eq_or loc).imp_right (fun hchanged => ⟨dir, rfl, hchanged⟩)
    · refine (hkeeping.spares.file_eq_or hfile).imp_right ?_
      rintro ⟨base, key, names, hcopy⟩
      exact ⟨dir, base, key, names, rfl, hcopy⟩

/-- What is done in the nested project: its documentation is copied and read. -/
def nestedOperations : List Operation :=
  [.fill "/W/p", .tool "read_file" (nestedArguments "/W/p"), .keep outerPackage]

/-- A copy is put into the directory for copies, and all that was there before is what it was. -/
theorem packages_are_only_read_nested :
    (nestedSession.afterAll nestedOperations).fs.read nestedSession.here
        "/W/c/1296fe607590eb9f/d/x.md" = .ok "outer\n".toUTF8 ∧
      ∀ loc, nestedFiles.at? loc ≠ none →
        (nestedSession.afterAll nestedOperations).fs.at? loc = nestedFiles.at? loc := by
  have hrun : ((nestedSession.afterAll nestedOperations).fs.resolve true nestedSession.here "/W/c" =
        .ok ["W", "c"] ∧
      (nestedSession.afterAll nestedOperations).fs.at? ["W", "c"] = some .directory) ∧
      (nestedSession.afterAll nestedOperations).fs.read nestedSession.here
        "/W/c/1296fe607590eb9f/d/x.md" = .ok "outer\n".toUTF8 := by decide +kernel
  have hfound := FileSystem.find?_eq_ok_iff.mpr hrun.1
  have hdocs : ∀ dir, nestedSession.docsDirectory = .ok dir → dir ≠ "" ∧
      ((∃ found, nestedSession.fs.find? nestedSession.here dir = .ok found ∧
          LinkFree nestedSession.fs found.1) ∨
        nestedSession.fs.exists? nestedSession.here dir = false ∧ ".." ∉ parts dir) := by
    intro dir hdir
    obtain rfl : "/W/c" = dir := Except.ok.inj hdir
    exact ⟨by decide, Or.inr (by decide +kernel)⟩
  refine ⟨hrun.2, fun loc hloc => ?_⟩
  rcases (packages_are_only_read stands_nested hdocs nestedOperations).1 loc with
    heq | ⟨dir, hdir, ⟨base, hbase, hprefix⟩ | ⟨hnone, -, -⟩⟩
  · exact heq
  · -- There was nothing in the directory for copies.
    obtain rfl : "/W/c" = dir := Except.ok.inj hdir
    rw [hfound, Except.ok.injEq] at hbase
    obtain rfl := (Prod.mk.inj hbase).1
    obtain ⟨names, rfl⟩ := hprefix
    rcases hentry : nestedFiles.at? (["W", "c"] ++ names) with _ | e
    · exact absurd hentry hloc
    · have hmem := FileSystem.mem_of_at? (by simp) hentry
      simp [nestedFiles] at hmem
  · exact absurd hnone hloc

/-! ### A directory for copies that is found when it is made -/

/-- A project in which one package has documentation. Beside it lies a directory with a link to
    another package, and a link to that directory. -/
def linkedFiles : FileSystem :=
  ⟨[(["W"], .directory),
    (["W", "package.json"], .file "\x7b\x7d".toUTF8),
    (["W", "node_modules"], .directory),
    (["W", "node_modules", "a"], .directory),
    (["W", "node_modules", "a", "package.json"], .file "\x7b\"version\": \"1\"\x7d".toUTF8),
    (["W", "node_modules", "a", "d"], .directory),
    (["W", "node_modules", "a", "d", "x.md"], .file "new\n".toUTF8),
    (["W", "node_modules", "b"], .directory),
    (["W", "node_modules", "b", "package.json"], .file "\x7b\"version\": \"1\"\x7d".toUTF8),
    (["W", "node_modules", "b", "x.md"], .file "old\n".toUTF8),
    (["W", "l"], .link "t"),
    (["W", "t"], .directory),
    (["W", "t", "1296fe607590eb9f"], .directory),
    (["W", "t", "1296fe607590eb9f", "d"], .link "../../node_modules/b")]⟩

/-- A session in which copies go where a path leads that leads up from what is not there. -/
def linkedSession : Session :=
  { Session.new linkedFiles (FileSystem.standing ["W"]) ⟨[], "/tmp"⟩ with
    replica := some (Replica.new "n/../l") }

/-- **Packages that are written to.** A directory for copies that was not there is found, with links
    inside, once the directories on the way there have been made. So a copy is put in the place of a
    file of another package. -/
theorem package_overwritten_by_copy :
    Stands linkedSession.fs linkedSession.here ∧
    linkedSession.docsDirectory = .ok "n/../l" ∧
    linkedSession.fs.exists? linkedSession.here "n/../l" = false ∧
    (linkedSession.afterAll [.fill "/W"]).fs.find? linkedSession.here "n/../l" =
      .ok (["W", "t"], .directory) ∧
    linkedSession.fs.read linkedSession.here "/W/node_modules/b/x.md" = .ok "old\n".toUTF8 ∧
    (linkedSession.afterAll [.fill "/W"]).fs.read linkedSession.here "/W/node_modules/b/x.md" =
      .ok "new\n".toUTF8 := by
  have hrun : ((linkedSession.afterAll [.fill "/W"]).fs.resolve true linkedSession.here "n/../l" =
        .ok ["W", "t"] ∧
      (linkedSession.afterAll [.fill "/W"]).fs.at? ["W", "t"] = some .directory) ∧
      linkedSession.fs.read linkedSession.here "/W/node_modules/b/x.md" = .ok "old\n".toUTF8 ∧
      (linkedSession.afterAll [.fill "/W"]).fs.read linkedSession.here "/W/node_modules/b/x.md" =
        .ok "new\n".toUTF8 := by decide +kernel
  exact ⟨⟨by decide +kernel, by decide +kernel, by decide +kernel⟩, rfl, by decide +kernel,
    FileSystem.find?_eq_ok_iff.mpr hrun.1, hrun.2⟩

end PackageAtlas.Tool
