import PackageAtlas.Proofs.Declaration.Index
import PackageAtlas.Proofs.FileSystem.Changes
import PackageAtlas.Proofs.Package.Registry
import PackageAtlas.Proofs.Tool.Steps

namespace PackageAtlas.Tool

open Declaration (IndexCache Indexer Record)
open FileSystem (LinksSuffice)

/-!
# Indexes that are kept change no answer

Tools that share the indexes that were made answer as if each of them made its own:

* `Session.WellFormed`: the file system of a session is one that changes can lead to;
* `FilesInReach`: there are few enough links on the way to the files of a package;
* `KeptFor`, `Like`: the sessions that a session can become, in which indexes are kept;
* `Respects`: actions that do the same in all of them, and stay among them;
* `respects_indexOf`: an index that is kept is the index that would be made;
* `shared_indexes_are_transparent`: the answers of any number of calls.
-/

variable {α β : Type} {s t u : Session} {p : Package}

/-! ### Packages in reach -/

/-- A session whose file system and place are told by names, as in all file systems that changes
    lead to (`Session.WellFormed.of_reached`). -/
structure Session.WellFormed (s : Session) : Prop where
  files : s.fs.WellFormed
  here : ∀ n ∈ s.here.location, Path.IsName n

/-- Sessions are well-formed in all file systems that changes lead to. -/
theorem Session.WellFormed.of_reached (h : FileSystem.Reached s.fs s.here) : s.WellFormed :=
  ⟨h.stands.files, h.stands.names⟩

/-- There are few enough links on the way to the files of a package that are indexed. -/
def FilesInReach (s : Session) (p : Package) : Prop :=
  ∀ indexer, s.indexerFor none = .ok indexer → indexer.Reaches s.fs s.here p.directory

/-- A package whose path leads to a directory, with its files in reach. -/
def InReach (s : Session) (p : Package) : Prop :=
  (∃ loc, s.fs.find? s.here p.directory = .ok (loc, .directory)) ∧ FilesInReach s p

/-- The index that a package gets if none is kept. -/
def freshIndex (s : Session) (p : Package) : Except Fault (List Record) := do
  let _ ← (indexKey s p).mapError Fault.file
  let indexer ← (s.indexerFor none).mapError Fault.settings
  (indexer.index s.fs s.here p.directory s.parse).mapError Fault.file

/-- **One index for one key.** Packages that share a key share their index. -/
theorem freshIndex_eq_of_key {q : Package} {key : String} (hs : s.WellFormed)
    (hp : InReach s p) (hq : InReach s q) (hkey : indexKey s p = .ok key)
    (hkey' : indexKey s q = .ok key) : freshIndex s p = freshIndex s q := by
  obtain ⟨⟨loc, hloc⟩, hreach⟩ := hp
  obtain ⟨⟨loc', hloc'⟩, hreach'⟩ := hq
  obtain rfl := FileSystem.eq_of_canonical_eq hs.here hkey hkey' hloc hloc'
  unfold freshIndex
  rw [hkey, hkey']
  rcases hi : s.indexerFor none with e | indexer
  · rfl
  show (indexer.index s.fs s.here p.directory s.parse).mapError Fault.file =
    (indexer.index s.fs s.here q.directory s.parse).mapError Fault.file
  rw [Indexer.index_eq_of_find? hs.files hkey hkey' hloc hloc' (hreach indexer hi)
    (hreach' indexer hi)]

/-- The paths of projects are normal. -/
theorem isNormal_of_rootOf {root : Argument} {top : String} (h : Yields (rootOf root) s top t) :
    Path.IsNormal top := by
  unfold rootOf at h
  rw [yields_get_bind] at h
  split at h
  · exact Package.isNormal_of_resolveRoot (yields_orFault.mp h).1
  · split at h
    · exact absurd h yields_throw
    · exact Package.isNormal_of_currentProject (yields_orFault.mp h).1

/-! ### Sessions that are alike -/

/-- What the answers of a session depend on, apart from the indexes that are kept. -/
def Session.look (s : Session) :
    FileSystem × Standpoint × Syntax.Parser × Except SettingsError Settings ×
      Except SettingsError Indexer :=
  (s.fs, s.here, s.parse, s.config, s.indexerFor none)

/-- The index that is kept under a key is that of a package of this key. -/
def KeptFor (s : Session) (key : String) (index : List Record) : Prop :=
  ∃ q, InReach s q ∧ indexKey s q = .ok key ∧ freshIndex s q = .ok index

/-- A session sees what `s` sees, and has kept nothing but indexes of packages. -/
structure Like (s t : Session) : Prop where
  look : t.look = s.look
  kept : ∀ key index, t.index.lookup? key = some index → KeptFor s key index

namespace Like

theorem fs (h : Like s t) : t.fs = s.fs := congrArg (fun l => l.1) h.look

theorem here (h : Like s t) : t.here = s.here := congrArg (fun l => l.2.1) h.look

theorem parse (h : Like s t) : t.parse = s.parse := congrArg (fun l => l.2.2.1) h.look

theorem config (h : Like s t) : t.config = s.config := congrArg (fun l => l.2.2.2.1) h.look

theorem indexer (h : Like s t) : t.indexerFor none = s.indexerFor none :=
  congrArg (fun l => l.2.2.2.2) h.look

theorem indexKey_eq (h : Like s t) (p : Package) : indexKey t p = indexKey s p := by
  rw [indexKey, indexKey, h.fs, h.here]

/-- A session in which no indexes are kept is like itself. -/
theorem refl (h : s.index.entries = []) : Like s s := by
  refine ⟨rfl, fun key index hlook => ?_⟩
  rw [IndexCache.lookup?, h] at hlook
  simp at hlook

end Like

theorem look_settings {settings : Settings} (h : s.config = .ok settings) :
    { s with settings := some settings }.look = s.look := by
  have hconfig : { s with settings := some settings }.config = s.config := h.symm
  have hindexer : { s with settings := some settings }.indexerFor none = s.indexerFor none := by
    unfold Session.indexerFor
    rw [hconfig]
  unfold Session.look
  rw [hconfig, hindexer]

theorem keeps_look_builder : Keeps Session.look (builder none) := by
  refine keeps_builder none (fun s settings hsettings hnone => ?_)
  -- What is kept now is what would have been read from the environment.
  have hconfig : { s with
      settings := some settings
      index := { s.index with
        indexer := some ⟨settings.maxIndexFiles, .declarations⟩ } }.config = s.config :=
    hsettings.symm
  have hindexer : { s with
      settings := some settings
      index := { s.index with
        indexer := some ⟨settings.maxIndexFiles, .declarations⟩ } }.indexerFor none =
        s.indexerFor none := by
    unfold Session.indexerFor
    rw [hnone, hsettings]
    rfl
  unfold Session.look
  rw [hconfig, hindexer]

theorem keeps_look_indexOf : Keeps Session.look (indexOf p) := by
  refine keeps_indexBy (fun s cache hcache => ?_) keeps_look_builder
  have hindexer : { s with index := cache }.indexerFor none = s.indexerFor none := by
    unfold Session.indexerFor
    rw [hcache]
    rfl
  unfold Session.look
  rw [hindexer]
  rfl

/-! ### Actions that do the same -/

/-- An action that does the same in all sessions like `s`, and leaves sessions like `s`. -/
structure Respects (s : Session) (x : Action α) : Prop where
  keeps : ∀ t, Like s t → Like s (outcome x t).2
  same : ∀ t u, Like s t → Like s u → (outcome x t).1 = (outcome x u).1

theorem LooksOnly.respects {x : Action α} (h : LooksOnly x) : Respects s x := by
  constructor
  · intro t ht
    rw [h.keeps t]
    exact ht
  · intro t u ht hu
    exact h.same t u (ht.fs.trans hu.fs.symm) (ht.here.trans hu.here.symm)

/-- Actions one after another; the second has to be followed only for what the first gives. -/
theorem Respects.bind {x : Action α} {f : α → Action β} (hx : Respects s x)
    (hf : ∀ a, (∃ t t', Like s t ∧ Yields x t a t') → Respects s (f a)) :
    Respects s (x >>= f) := by
  constructor
  · intro t ht
    have hkeeps := hx.keeps t ht
    rw [outcome_bind]
    rcases hr : outcome x t with ⟨e | a, t'⟩
    · rw [hr] at hkeeps
      exact hkeeps
    · rw [hr] at hkeeps
      exact (hf a ⟨t, t', ht, hr⟩).keeps t' hkeeps
  · intro t u ht hu
    have hkeeps := hx.keeps t ht
    have hkeeps' := hx.keeps u hu
    -- The first action gives the same in both, so the second is the same action in both.
    have hsame := hx.same t u ht hu
    rw [outcome_bind, outcome_bind]
    rcases hr : outcome x t with ⟨r, t'⟩
    rcases hr' : outcome x u with ⟨r', u'⟩
    rw [hr] at hkeeps hsame
    rw [hr'] at hkeeps' hsame
    obtain rfl : r = r' := hsame
    cases r with
    | error e => rfl
    | ok a => exact (hf a ⟨t, t', ht, hr⟩).same t' u' hkeeps hkeeps'

theorem respects_currentSettings : Respects s currentSettings := by
  constructor
  · intro t ht
    rw [outcome_currentSettings]
    rcases hc : t.config with e | settings
    · exact ht
    · exact ⟨(look_settings hc).trans ht.look, ht.kept⟩
  · intro t u ht hu
    rw [outcome_currentSettings, outcome_currentSettings, ht.config, hu.config]
    rcases s.config with e | settings <;> rfl

/-- **Kept indexes are right.** What is looked for is what would be made. -/
theorem outcome_indexOf_fst (hs : s.WellFormed) (hp : InReach s p) (ht : Like s t) :
    (outcome (indexOf p) t).1 = freshIndex s p := by
  unfold indexOf
  rw [outcome_indexBy, ht.indexKey_eq p]
  rcases hkey : indexKey s p with e | key
  · unfold freshIndex
    rw [hkey]
    rfl
  simp only
  rcases hlook : t.index.lookup? key with _ | index
  · -- Nothing is kept for the key: the index is made by the indexer of `s`.
    have hbuilder := outcome_builder_fst none { t with index := t.index.miss }
    have hindexer : { t with index := t.index.miss }.indexerFor none = s.indexerFor none :=
      ht.indexer
    rw [hindexer] at hbuilder
    rcases hb : outcome (builder none) { t with index := t.index.miss } with ⟨r, t'⟩
    rw [hb] at hbuilder
    obtain rfl : r = (s.indexerFor none).mapError Fault.settings := hbuilder
    unfold freshIndex
    simp only [hkey]
    rcases s.indexerFor none with e | indexer
    · rfl
    · show _ = (indexer.index s.fs s.here p.directory s.parse).mapError Fault.file
      simp only [mapError_ok]
      rw [ht.fs, ht.here, ht.parse]
      rcases indexer.index s.fs s.here p.directory s.parse with e | made <;> rfl
  · -- What is kept belongs to a package of the same key, which may have another path.
    obtain ⟨q, hq, hkey', hindex⟩ := ht.kept key index hlook
    rw [freshIndex_eq_of_key hs hp hq hkey hkey', hindex]

theorem respects_indexOf (hs : s.WellFormed) (hp : InReach s p) : Respects s (indexOf p) := by
  constructor
  · intro t ht
    refine ⟨(keeps_look_indexOf t).trans ht.look, fun key index hlook => ?_⟩
    rcases lookup?_indexBy hlook with hold | ⟨hkey, hmade⟩
    · exact ht.kept key index hold
    · have hfresh := outcome_indexOf_fst hs hp ht
      rw [indexOf, hmade] at hfresh
      exact ⟨p, hp, (ht.indexKey_eq p).symm.trans hkey, hfresh.symm⟩
  · intro t u ht hu
    rw [outcome_indexOf_fst hs hp ht, outcome_indexOf_fst hs hp hu]

/-- The package that is found with its index, where all packages that can be found are in reach. -/
theorem respects_findIndexed (hs : s.WellFormed) {name root indexes : Argument}
    (h : ∀ p, Yields (findPackage name root) s (some p) s → InReach s p) :
    Respects s (findIndexed name root indexes) := by
  refine (looksOnly_findPackage name root).respects.bind (fun found hfound => ?_)
  rcases found with _ | p
  · exact (LooksOnly.pure none).respects
  obtain ⟨t, t', ht, hyields⟩ := hfound
  have hp := h p ((looksOnly_findPackage name root).yields_of_same hyields ht.fs.symm ht.here.symm)
  have hindexed : Respects s (indexOf p >>= fun index => pure (some (p, index))) :=
    (respects_indexOf hs hp).bind (fun index _ => (LooksOnly.pure _).respects)
  simp only
  split
  · exact (LooksOnly.throw _).respects.bind (fun _ _ => hindexed)
  · exact hindexed

/-! ### Calls -/

theorem respects_listDeclarations (hs : s.WellFormed) {package root : Argument}
    (h : ∀ p, Yields (findPackage package root) s (some p) s → InReach s p)
    (kind name limit indexes : Argument) :
    Respects s (listDeclarations package root kind name limit indexes) := by
  refine respects_currentSettings.bind (fun settings _ => ?_)
  refine (looksOnly_requireRange _ _ _ limit).respects.bind (fun number _ => ?_)
  refine (LooksOnly.orFault _ _).respects.bind (fun kind _ => ?_)
  refine (respects_findIndexed hs h).bind (fun found _ => ?_)
  rcases found with _ | ⟨p, index⟩
  · exact (LooksOnly.pure _).respects
  · exact (LooksOnly.orFault _ _).respects.bind (fun _ _ => (LooksOnly.pure _).respects)

theorem respects_readDeclaration (hs : s.WellFormed) {package root : Argument}
    (h : ∀ p, Yields (findPackage package root) s (some p) s → InReach s p)
    (file name padding indexes : Argument) :
    Respects s (readDeclaration package file name root padding indexes) := by
  refine (looksOnly_requireRange _ _ _ padding).respects.bind (fun number _ => ?_)
  refine (respects_findIndexed hs h).bind (fun found _ => ?_)
  rcases found with _ | ⟨p, index⟩
  · exact (LooksOnly.pure _).respects
  refine (looksOnly_requireText _ file).respects.bind (fun text _ => ?_)
  simp only
  split
  · exact (LooksOnly.pure _).respects
  · refine (looksOnly_pathInside _ _).respects.bind (fun path _ => ?_)
    refine (looksOnly_isFile path).respects.bind (fun there _ => ?_)
    split
    · exact (looksOnly_readAround _ _ _ _).respects.bind (fun _ _ => (LooksOnly.pure _).respects)
    · exact (LooksOnly.pure _).respects

/-- A tool that looks for declarations. -/
def Name.UsesIndexes (t : Name) : Prop := t = .listSymbols ∨ t = .getSymbol

theorem respects_request (hs : s.WellFormed) {n : Name} (hn : n.UsesIndexes) {args : Arguments}
    (h : ∀ p, Means args s p → InReach s p) : Respects s (n.request args).run := by
  have hfound : ∀ p, Yields (findPackage (args.get "module" .nothing)
      (args.get "root" .nothing)) s (some p) s → InReach s p :=
    fun p hp => h p (means_of_yields hp)
  rcases hn with rfl | rfl
  · exact respects_listDeclarations hs hfound _ _ _ _
  · exact respects_readDeclaration hs hfound _ _ _ _

/-- The same call gets the same answer in all sessions that are alike. -/
theorem Respects.invoke {n : Name} {args : Arguments} (h : Respects s (n.request args).run)
    (ht : Like s t) (hu : Like s u) :
    (n.invoke args t).1 = (n.invoke args u).1 ∧ Like s (n.invoke args t).2 := by
  have hsame := h.same t u ht hu
  have hkeeps := h.keeps t ht
  rw [invoke_eq, invoke_eq]
  rcases n.signature.check (args.map Prod.fst) with e | ⟨⟩
  · exact ⟨rfl, ht⟩
  · simp only
    rcases hr : outcome (n.request args).run t with ⟨r, t'⟩
    rcases hr' : outcome (n.request args).run u with ⟨r', u'⟩
    rw [hr] at hsame hkeeps
    rw [hr'] at hsame
    obtain rfl : r = r' := hsame
    cases r <;> exact ⟨rfl, hkeeps⟩

/-- Calls one after another, with what each of them gets. -/
def invokeAll : List (Name × Arguments) → Session → List Response × Session
  | [], s => ([], s)
  | c :: calls, s =>
    let (response, s') := c.1.invoke c.2 s
    let (responses, s'') := invokeAll calls s'
    (response :: responses, s'')

/-- Calls in a session that is like another get what each of them would get there. -/
theorem invokeAll_fst (hs : s.WellFormed) (hself : Like s s) {calls : List (Name × Arguments)}
    (htools : ∀ c ∈ calls, c.1.UsesIndexes)
    (hreach : ∀ c ∈ calls, ∀ p, Means c.2 s p → InReach s p) (ht : Like s t) :
    (invokeAll calls t).1 = calls.map (fun c => (c.1.invoke c.2 s).1) := by
  induction calls generalizing t with
  | nil => rfl
  | cons c calls ih =>
    have hc := respects_request hs (htools c (by simp)) (hreach c (by simp))
    obtain ⟨hsame, hlike⟩ := hc.invoke ht hself
    have hrest := ih (fun d hd => htools d (List.mem_cons_of_mem c hd))
      (fun d hd => hreach d (List.mem_cons_of_mem c hd)) hlike
    rw [List.map_cons, ← hsame, ← hrest]
    rfl

/-- The packages that can be found lie in directories. -/
theorem inReach_of_means {args : Arguments} (hs : s.WellFormed) (hp : Means args s p)
    (hreach : FilesInReach s p) : InReach s p := by
  obtain ⟨name, top, -, htop, hfind⟩ := hp
  exact ⟨(Package.isListed_of_find? hfind).exists_find? hs.files (isNormal_of_rootOf htop),
    hreach⟩

/-- **Transparency.** Where no indexes are kept yet, each of a number of calls one after another
    gets what it would get if it came first; and packages that share a key have one index, whatever
    their paths are. There have to be few enough links on the way to the files. -/
theorem shared_indexes_are_transparent {s : Session} (hs : s.WellFormed)
    (hnew : s.index.entries = []) :
    (∀ calls : List (Name × Arguments), (∀ c ∈ calls, c.1.UsesIndexes) →
      (∀ c ∈ calls, ∀ p, Means c.2 s p → FilesInReach s p) →
      (invokeAll calls s).1 = calls.map (fun c => (c.1.invoke c.2 s).1)) ∧
    (∀ root root' top top' p q key (i : Indexer),
      Yields (rootOf root) s top s → Yields (rootOf root') s top' s →
      Package.IsListed s.fs s.here top p → Package.IsListed s.fs s.here top' q →
      indexKey s p = .ok key → indexKey s q = .ok key →
      i.Reaches s.fs s.here p.directory → i.Reaches s.fs s.here q.directory →
      i.index s.fs s.here p.directory s.parse = i.index s.fs s.here q.directory s.parse) := by
  constructor
  · intro calls htools hreach
    exact invokeAll_fst hs (.refl hnew) htools
      (fun c hc p hp => inReach_of_means hs hp (hreach c hc p hp)) (.refl hnew)
  · intro root root' top top' p q key i htop htop' hp hq hkey hkey' hreach hreach'
    obtain ⟨loc, hloc⟩ := hp.exists_find? hs.files (isNormal_of_rootOf htop)
    obtain ⟨loc', hloc'⟩ := hq.exists_find? hs.files (isNormal_of_rootOf htop')
    obtain rfl := FileSystem.eq_of_canonical_eq hs.here hkey hkey' hloc hloc'
    exact Indexer.index_eq_of_find? hs.files hkey hkey' hloc hloc' hreach hreach'

/-- Calls that look for declarations in the small project, under both names of its package. -/
def smallCalls : List (Name × Arguments) :=
  [(.listSymbols, [("module", .text "a")]), (.listSymbols, [("module", .text "b")]),
    (.getSymbol, [("module", .text "b"), ("file", .text "x.ts"), ("name", .text "A")])]

/-- The indexer of the small project. -/
def smallIndexer : Indexer := ⟨3000, .declarations⟩

theorem yields_rootOf_smallSession : Yields (rootOf .nothing) smallSession "/W" smallSession :=
  (looksOnly_rootOf _).yields_of_fst (by decide)

/-- The calls mean the package under the one name or under the other. -/
theorem package_of_mem_smallCalls {c : Name × Arguments} (hc : c ∈ smallCalls)
    (hp : Means c.2 smallSession p) : p = smallPackage "a" ∨ p = smallPackage "b" := by
  obtain ⟨name, top, hname, htop, hfind⟩ := hp
  have ha : Package.find? smallFiles smallSession.here "a" "/W" =
      .ok (some (smallPackage "a")) := by decide +kernel
  have hb : Package.find? smallFiles smallSession.here "b" "/W" =
      .ok (some (smallPackage "b")) := by decide +kernel
  have hgiven : c.2.get "root" .nothing = .nothing ∧
      (c.2.get "module" .nothing = .text "a" ∨ c.2.get "module" .nothing = .text "b") := by
    simp only [smallCalls, List.mem_cons, List.not_mem_nil, or_false] at hc
    rcases hc with rfl | rfl | rfl
    · exact ⟨rfl, Or.inl rfl⟩
    · exact ⟨rfl, Or.inr rfl⟩
    · exact ⟨rfl, Or.inr rfl⟩
  rw [hgiven.1] at htop
  obtain rfl : "/W" = top := yields_rootOf_smallSession.unique htop
  rcases hgiven.2 with hmodule | hmodule <;>
    obtain rfl := Argument.text.inj (hmodule.symm.trans hname)
  · exact Or.inl (Option.some.inj (Except.ok.inj (hfind.symm.trans ha)))
  · exact Or.inr (Option.some.inj (Except.ok.inj (hfind.symm.trans hb)))

/-- In a small project, where a package is installed under two names. -/
theorem shared_indexes_are_transparent_small :
    (invokeAll smallCalls smallSession).1 =
      smallCalls.map (fun c => (c.1.invoke c.2 smallSession).1) ∧
    smallIndexer.index smallFiles smallSession.here "/W/node_modules/a" smallSession.parse =
      smallIndexer.index smallFiles smallSession.here "/W/node_modules/b" smallSession.parse := by
  have hs : smallSession.WellFormed := ⟨by decide +kernel, by decide +kernel⟩
  have hscan : Package.scan smallFiles smallSession.here "/W" "" =
      .ok [smallPackage "a", smallPackage "b"] := by decide +kernel
  obtain ⟨hcalls, hindex⟩ := shared_indexes_are_transparent hs rfl
  have hreach : ∀ name ∈ ["a", "b"],
      smallIndexer.Reaches smallFiles smallSession.here ("/W/node_modules/" ++ name) := by
    intro name hname
    have hfiles : smallIndexer.files smallFiles smallSession.here
        ("/W/node_modules/" ++ name) = .ok ["x.ts"] := by
      revert name
      decide +kernel
    refine Indexer.reaches_of_exists hfiles ?_
    revert name
    decide +kernel
  refine ⟨hcalls smallCalls ?_ ?_, ?_⟩
  · intro c hc
    simp only [smallCalls, List.mem_cons, List.not_mem_nil, or_false] at hc
    rcases hc with rfl | rfl | rfl
    · exact Or.inl rfl
    · exact Or.inl rfl
    · exact Or.inr rfl
  · intro c hc p hp i hi
    have hdefault : smallSession.indexerFor none = .ok smallIndexer := by decide +kernel
    rw [hdefault] at hi
    obtain rfl := Except.ok.inj hi
    rcases package_of_mem_smallCalls hc hp with rfl | rfl
    · exact hreach "a" (by simp)
    · exact hreach "b" (by simp)
  · exact hindex .nothing .nothing "/W" "/W" (smallPackage "a") (smallPackage "b")
      "/W/node_modules/a" smallIndexer yields_rootOf_smallSession yields_rootOf_smallSession
      ((Package.isListed_iff hscan).mpr (by simp)) ((Package.isListed_iff hscan).mpr (by simp))
      (by decide +kernel) (by decide +kernel) (hreach "a" (by simp)) (hreach "b" (by simp))

end PackageAtlas.Tool
