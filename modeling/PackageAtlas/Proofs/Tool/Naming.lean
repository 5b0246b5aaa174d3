import PackageAtlas.Proofs.Package.Catalogue
import PackageAtlas.Proofs.Tool.Containment

namespace PackageAtlas.Tool

open Package (IsListed findWide? scan scanWide undatedPackage)
open Text (WideText)

/-!
# Names of packages in tools

The tools agree on what a name means: the name of a package that one of them lists means that
package for all others.

* `Answer.Fits`: an answer is about the package that was found, and misses none that was;
* `AsksFor`: an action looks for a package and answers about what it finds;
* `asksFor_searchPackage` and others: every tool that is given a package does;
* `yields_listPackages`: what is listed are packages of the catalogue;
* `names_mean_what_is_listed`: names and catalogues agree, and tools with them.
-/

variable {α : Type} {s s' : Session} {p : Package} {found : Option Package} {name root : Argument}

/-! ### What answers are about -/

/-- The package that an answer is about. -/
def Answer.package? : Answer → Option Package
  | .hits p _ => some p
  | .file p _ _ => some p
  | .declarations p _ => some p
  | .declaration p _ _ _ => some p
  | _ => none

/-- Whether an answer is that there is no package of a name. -/
def Answer.missesPackage : Answer → Bool
  | .absent (.package _) => true
  | _ => false

/-- An answer fits what was found for a name: it is about no other package, and misses none that
    was found. -/
structure Answer.Fits (a : Answer) (found : Option Package) : Prop where
  package : ∀ p, a.package? = some p → found = some p
  missing : a.missesPackage = true → found = none

/-- The answers that an action can give fit what was found. -/
def Tells (found : Option Package) (x : Action Answer) : Prop :=
  ∀ s a s', Yields x s a s' → a.Fits found

theorem tells_pure {a : Answer} (h : a.Fits found) : Tells found (pure a) := by
  intro s b s' hb
  obtain ⟨rfl, -⟩ := yields_pure.mp hb
  exact h

theorem tells_throw (e : Fault) : Tells found (throw e) :=
  fun _ _ _ h => absurd h yields_throw

theorem Tells.bind {x : Action α} {f : α → Action Answer} (h : ∀ b, Tells found (f b)) :
    Tells found (x >>= f) := by
  intro s a s' ha
  obtain ⟨b, t, -, hb⟩ := yields_bind.mp ha
  exact h b t a s' hb

theorem fits_package (text : String) : (Answer.absent (.package text)).Fits none :=
  ⟨fun p h => by simp [Answer.package?] at h, fun _ => rfl⟩

/-- An answer about the package that was found fits. -/
theorem fits_some {a : Answer} (h : a.package? = some p) : a.Fits (some p) := by
  refine ⟨fun q hq => h.symm.trans hq, fun hmiss => ?_⟩
  cases a with
  | absent what => simp [Answer.package?] at h
  | _ => simp [Answer.missesPackage] at hmiss

/-- So does an answer that is about none, unless it is that there is none. -/
theorem fits_of_package?_eq_none {a : Answer} (h : a.package? = none)
    (hmiss : a.missesPackage = false) : a.Fits found :=
  ⟨fun q hq => by simp [h] at hq, fun htrue => by simp [hmiss] at htrue⟩

/-! ### Actions that look for a package -/

/-- An action looks for a package, and what it answers fits what is found. -/
def AsksFor (name root : Argument) (x : Action Answer) : Prop :=
  ∀ s a s', Yields x s a s' → ∃ found, Yields (findPackage name root) s found s ∧ a.Fits found

/-- What leaves the files as they are may be done before. -/
theorem AsksFor.bind {x : Action α} {f : α → Action Answer} (hx : Keeps Session.files x)
    (hf : ∀ b, AsksFor name root (f b)) : AsksFor name root (x >>= f) := by
  intro s a s' ha
  rw [yields_bind] at ha
  obtain ⟨b, t, hb, ha⟩ := ha
  obtain ⟨found, hfound, hfits⟩ := hf b t a s' ha
  obtain ⟨hfs, hhere⟩ := Session.files_eq_iff.mp (hx.of_yields hb).symm
  exact ⟨found, (looksOnly_findPackage name root).yields_of_same hfound hfs hhere, hfits⟩

theorem asksFor_findPackage {f : Option Package → Action Answer}
    (h : ∀ found, Tells found (f found)) : AsksFor name root (findPackage name root >>= f) := by
  intro s a s' ha
  rw [(looksOnly_findPackage name root).yields_bind_iff] at ha
  obtain ⟨found, hfound, ha⟩ := ha
  exact ⟨found, hfound, h found s a s' ha⟩

theorem asksFor_findIndexed {indexes : Argument}
    {f : Option (Package × List Declaration.Record) → Action Answer} (hnone : Tells none (f none))
    (hsome : ∀ p index, Tells (some p) (f (some (p, index)))) :
    AsksFor name root (findIndexed name root indexes >>= f) := by
  intro s a s' ha
  rw [yields_bind] at ha
  obtain ⟨indexed, t, hindexed, ha⟩ := ha
  rcases indexed with _ | ⟨p, index⟩
  · unfold findIndexed at hindexed
    rw [(looksOnly_findPackage name root).yields_bind_iff] at hindexed
    obtain ⟨found, hfound, hindexed⟩ := hindexed
    rcases found with _ | p
    · exact ⟨none, hfound, hnone t a s' ha⟩
    · -- Where a package is found, its index is given or there is a fault.
      simp only at hindexed
      split at hindexed
      · exact absurd hindexed yields_throw_bind
      · rw [yields_bind] at hindexed
        obtain ⟨index, v, -, hindexed⟩ := hindexed
        simp at hindexed
  · exact ⟨some p, (yields_findIndexed_some.mp hindexed).1, hsome p index t a s' ha⟩

theorem keeps_files_requireRange (label : String) (least : Int) (most : Option Int)
    (value : Argument) : Keeps Session.files (requireRange label least most value) :=
  (looksOnly_requireRange label least most value).keepsView

theorem asksFor_searchPackage (package pattern root flags context limit copies : Argument) :
    AsksFor package root (searchPackage package pattern root flags context limit copies) := by
  unfold searchPackage
  refine .bind (keeps_files_requireRange _ _ _ _) (fun _ => ?_)
  refine .bind keeps_files_currentSettings (fun settings => ?_)
  refine .bind (keeps_files_requireRange _ _ _ _) (fun _ => asksFor_findPackage (fun found => ?_))
  rcases found with _ | p
  · exact tells_pure (fits_package _)
  simp only
  split
  · exact tells_throw _
  · split
    · exact tells_pure (fits_of_package?_eq_none rfl rfl)
    · exact tells_throw _
  · split
    · exact .bind (fun _ => .bind (fun _ => .bind (fun _ => .bind (fun _ =>
        tells_pure (fits_some rfl)))))
    · exact .bind (fun _ => .bind (fun _ => .bind (fun _ => tells_pure (fits_some rfl))))

theorem asksFor_readFile (package file root start count copies : Argument) :
    AsksFor package root (readFile package file root start count copies) := by
  unfold readFile
  refine .bind (keeps_rangeIfGiven (keeps_pure _) _ _ _) (fun _ => ?_)
  refine .bind (keeps_rangeIfGiven (keeps_files_currentSettings.bind (fun _ => keeps_pure _)) _ _
    _) (fun _ => asksFor_findPackage (fun found => ?_))
  rcases found with _ | p
  · exact tells_pure (fits_package _)
  refine .bind (fun file => .bind (fun inside => .bind (fun copy => .bind (fun there => ?_))))
  split
  · exact .bind (fun text => tells_pure (fits_some rfl))
  · exact tells_pure (fits_of_package?_eq_none rfl rfl)

theorem asksFor_listDeclarations (package root kind name limit indexes : Argument) :
    AsksFor package root (listDeclarations package root kind name limit indexes) := by
  unfold listDeclarations
  refine .bind keeps_files_currentSettings (fun settings => ?_)
  refine .bind (keeps_files_requireRange _ _ _ _) (fun _ => ?_)
  refine .bind (fun s => by simp) (fun _ => asksFor_findIndexed ?_ (fun p index => ?_))
  · exact tells_pure (fits_package _)
  · exact .bind (fun chosen => tells_pure (fits_some rfl))

theorem asksFor_readDeclaration (package file name root padding indexes : Argument) :
    AsksFor package root (readDeclaration package file name root padding indexes) := by
  unfold readDeclaration
  refine .bind (keeps_files_requireRange _ _ _ _) (fun _ => asksFor_findIndexed ?_
    (fun p index => ?_))
  · exact tells_pure (fits_package _)
  · refine .bind (fun file => ?_)
    simp only
    split
    · exact tells_pure (fits_of_package?_eq_none rfl rfl)
    · refine .bind (fun path => .bind (fun there => ?_))
      split
      · exact .bind (fun text => tells_pure (fits_some rfl))
      · exact tells_pure (fits_of_package?_eq_none rfl rfl)

/-! ### What is listed -/

/-- What is listed are packages of the catalogue of the project that is meant. -/
theorem yields_listPackages {root filter : Argument} {a : Answer}
    (h : Yields (listPackages root filter) s a s') :
    ∃ top found, a = .packages top found ∧ Yields (rootOf root) s top s ∧ s' = s ∧
      ∀ p ∈ found, IsListed s.fs s.here top p := by
  unfold listPackages at h
  rw [(looksOnly_rootOf root).yields_bind_iff] at h
  obtain ⟨top, htop, h⟩ := h
  rw [yields_get_bind, yields_orFault_bind] at h
  obtain ⟨all, hscan, h⟩ := h
  have hlisted := fun p => (Package.isListed_iff (p := p) hscan).mpr
  split at h
  · obtain ⟨rfl, rfl⟩ := yields_pure.mp h
    exact ⟨top, _, rfl, htop, rfl, fun p hp => hlisted p (List.mem_filter.mp hp).1⟩
  · split at h
    · exact absurd h yields_throw
    · obtain ⟨rfl, rfl⟩ := yields_pure.mp h
      exact ⟨top, _, rfl, htop, rfl, hlisted⟩

theorem yields_countIndexes {indexes : Argument} {a : Answer}
    (h : Yields (countIndexes indexes) s a s') : ∃ counts, a = .stats counts := by
  unfold countIndexes at h
  split at h
  · exact absurd h yields_throw_bind
  · rw [yields_get_bind] at h
    exact ⟨_, (yields_pure.mp h).1⟩

/-- Every answer of a tool that is given a package fits what the tool has found, and no other answer
    is about a package. -/
theorem fits_of_done {t : Name} {args : Arguments} {a : Answer}
    (h : t.invoke args s = (.done a, s')) :
    (a.package? = none ∧ a.missesPackage = false) ∨
      ∃ found,
        Yields (findPackage (args.get "module" .nothing) (args.get "root" .nothing)) s found s ∧
          a.Fits found := by
  have hrun := (invoke_eq_done_iff.mp h).2
  cases t with
  | listModules =>
    obtain ⟨top, found, rfl, -⟩ := yields_listPackages hrun
    exact Or.inl ⟨rfl, rfl⟩
  | search => exact Or.inr (asksFor_searchPackage _ _ _ _ _ _ _ s a s' hrun)
  | readFile => exact Or.inr (asksFor_readFile _ _ _ _ _ _ s a s' hrun)
  | listSymbols => exact Or.inr (asksFor_listDeclarations _ _ _ _ _ _ s a s' hrun)
  | getSymbol => exact Or.inr (asksFor_readDeclaration _ _ _ _ _ _ s a s' hrun)
  | getIndexStats =>
    obtain ⟨counts, rfl⟩ := yields_countIndexes hrun
    exact Or.inl ⟨rfl, rfl⟩

/-- Every answer fits what its arguments mean. -/
theorem fits_of_invoke {t : Name} {args : Arguments} {a : Answer} (hmeans : Means args s p)
    (h : t.invoke args s = (.done a, s')) : a.Fits (some p) := by
  obtain ⟨name, top, hname, htop, hfind⟩ := hmeans
  have hp : Yields (findPackage (args.get "module" .nothing) (args.get "root" .nothing)) s
      (some p) s := yields_findPackage_some.mpr ⟨name, top, hname, htop, hfind, rfl⟩
  rcases fits_of_done h with ⟨hnone, hmissing⟩ | ⟨found, hfound, hfits⟩
  · exact fits_of_package?_eq_none hnone hmissing
  · -- A tool that is given a package finds the one that is meant.
    rwa [hp.unique hfound]

/-- **Names mean what is listed.** A text means a package exactly if the catalogue lists one for it:
    the only one of that name, or else the first that is listed. So the name of every package of the
    catalogue means that package, and when a tool has listed it, all others answer about it. Where
    packages cannot be listed, names cannot be looked for, and the error is the same. -/
theorem names_mean_what_is_listed :
    (∀ fs here top,
      (∀ part, scan fs here top part = scanWide fs here top (WideText.ofString part)) ∧
      (∀ text, Package.find? fs here text top = findWide? fs here (WideText.ofString text) top) ∧
      (∀ text : WideText,
        (∀ e, findWide? fs here text top = .error e ↔ scanWide fs here top text = .error e) ∧
        (findWide? fs here text top = .ok none ↔ scanWide fs here top text = .ok []) ∧
        (∀ p, IsListed fs here top p → p.name = text →
          findWide? fs here text top = .ok (some p) ∧
          ∀ q, IsListed fs here top q → q.name = text → q = p) ∧
        ∀ listed, scanWide fs here top text = .ok listed →
          (∀ p, IsListed fs here top p → p.name ≠ text) →
          findWide? fs here text top = .ok listed.head?) ∧
      ∀ p, IsListed fs here top p → findWide? fs here p.name top = .ok (some p)) ∧
    ∀ args s top found s',
      Name.listModules.invoke args s = (.done (.packages top found), s') →
      ∀ p ∈ found, ∀ text, p.name = WideText.ofString text →
      ∀ args' : Arguments, args'.get "module" .nothing = .text text →
        args'.get "root" .nothing = args.get "root" .nothing →
        Means args' s' p ∧ ∀ t a s'', Name.invoke t args' s' = (.done a, s'') →
          (∀ q, a.package? = some q → q = p) ∧ a.missesPackage = false := by
  refine ⟨fun fs here top => ⟨Package.scan_eq_scanWide, Package.find?_eq_findWide?,
    fun text => ⟨fun e => Package.findWide?_eq_error_iff, Package.findWide?_eq_none_iff, ?_,
      fun listed => Package.findWide?_eq_head?⟩,
    fun p hp => hp.findWide?_name⟩, ?_⟩
  · rintro p hp rfl
    exact ⟨hp.findWide?_name, fun q hq hname => hq.eq_of_name hp hname⟩
  · intro args s top found s' hlist p hp text hname args' hmodule hroot
    obtain ⟨top', found', hanswer, htop, rfl, hmem⟩ :=
      yields_listPackages (invoke_eq_done_iff.mp hlist).2
    obtain ⟨rfl, rfl⟩ := Answer.packages.inj hanswer
    -- The name is a text with all its characters, so it is looked for as it was listed.
    have hmeans : Means args' s' p := by
      refine ⟨text, top, hmodule, by rw [hroot]; exact htop, ?_⟩
      rw [Package.find?_eq_findWide?, ← hname]
      exact (hmem p hp).findWide?_name
    refine ⟨hmeans, fun t a s'' hinvoke => ?_⟩
    have hfits := fits_of_invoke hmeans hinvoke
    refine ⟨fun q hq => (Option.some.inj (hfits.package q hq)).symm, ?_⟩
    rw [Bool.eq_false_iff]
    exact fun hmiss => by simpa using hfits.missing hmiss

/-- In the small project the empty text means the first package, and the name of the second one,
    when it has been listed, means that one. -/
theorem names_mean_what_is_listed_small :
    findWide? smallFiles (FileSystem.standing ["W"]) (WideText.ofString "") "/W" =
      .ok (some (undatedPackage "a" "/W/node_modules/a")) ∧
    findWide? smallFiles (FileSystem.standing ["W"]) (WideText.ofString "b") "/W" =
      .ok (some (undatedPackage "b" "/W/node_modules/b")) ∧
    Means [("module", .text "b")] (smallSession.afterCall .listModules [])
      (undatedPackage "b" "/W/node_modules/b") := by
  obtain ⟨hcatalogue, htools⟩ := names_mean_what_is_listed
  obtain ⟨-, -, htext, hnames⟩ := hcatalogue smallFiles (FileSystem.standing ["W"]) "/W"
  have hscan : scan smallFiles (FileSystem.standing ["W"]) "/W" "" =
      .ok [undatedPackage "a" "/W/node_modules/a", undatedPackage "b" "/W/node_modules/b"] := by
    decide +kernel
  have hlisted := fun p => Package.isListed_iff (p := p) hscan
  have hempty : scanWide smallFiles (FileSystem.standing ["W"]) "/W" (WideText.ofString "") =
      .ok [undatedPackage "a" "/W/node_modules/a", undatedPackage "b" "/W/node_modules/b"] := by
    rw [← Package.scan_eq_scanWide, hscan]
  have hlist : (Name.listModules.invoke [] smallSession).1 =
      .done (.packages "/W" [undatedPackage "a" "/W/node_modules/a",
        undatedPackage "b" "/W/node_modules/b"]) := by decide +kernel
  refine ⟨?_, ?_, ?_⟩
  · refine (htext (WideText.ofString "")).2.2.2 _ hempty (fun p hp => ?_)
    rw [hlisted] at hp
    revert p
    decide +kernel
  · exact hnames (undatedPackage "b" "/W/node_modules/b") ((hlisted _).mpr (by simp))
  · exact (htools [] smallSession "/W" _ _ (invoke_eq_afterCall hlist)
      (undatedPackage "b" "/W/node_modules/b") (by simp) "b" rfl [("module", .text "b")] rfl
      rfl).1

end PackageAtlas.Tool
