import PackageAtlas.Proofs.Package.Hidden
import PackageAtlas.Proofs.Tool.Naming
import PackageAtlas.Proofs.Tool.Transparency

namespace PackageAtlas.Tool

open Package (LiesShown retiredFiles retiredPackage scan undatedPackage)

/-!
# Hidden directories in tools

Whatever a tool answers about was found in the catalogue of a project, and so it lies in a directory
that is not hidden, unless it is in a scope:

* `yields_findPackage_of_package?`: a tool that answers about a package has found it by its name;
* `packages_lie_shown`: where the packages lie that are listed, meant or answered about.
-/

variable {s s' : Session} {t : Name} {args : Arguments} {a : Answer} {p : Package}

/-- A tool that answers about a package has found it by its name. -/
theorem yields_findPackage_of_package? (h : t.invoke args s = (.done a, s'))
    (hp : a.package? = some p) :
    Yields (findPackage (args.get "module" .nothing) (args.get "root" .nothing)) s (some p) s := by
  rcases fits_of_done h with ⟨hnone, -⟩ | ⟨found, hfound, hfits⟩
  · rw [hnone] at hp
    simp at hp
  · rwa [hfits.package p hp] at hfound

/-- **Hidden directories.** No package of a catalogue, no package that a name means and none that a
    tool lists or answers about lies in a hidden directory of the project, be it that of a member of
    a workspace or one in a dependency directory; unless it is a hidden directory in a scope. -/
theorem packages_lie_shown (hs : s.fs.WellFormed) :
    (∀ root top, s.here.absolute root = .ok top →
      (∀ part all, scan s.fs s.here top part = .ok all → ∀ p ∈ all, LiesShown top p.directory) ∧
      ∀ name p, Package.find? s.fs s.here name top = .ok (some p) →
        LiesShown top p.directory) ∧
    ∀ (args : Arguments) (s' : Session),
      (∀ top found, Name.listModules.invoke args s = (.done (.packages top found), s') →
        Yields (rootOf (args.get "root" .nothing)) s top s ∧
        ∀ p ∈ found, LiesShown top p.directory) ∧
      ∀ (t : Name) (a : Answer) (p : Package), t.invoke args s = (.done a, s') →
        a.package? = some p → ∃ top, Yields (rootOf (args.get "root" .nothing)) s top s ∧
          LiesShown top p.directory := by
  refine ⟨fun root top habs => ?_, fun args s' => ⟨?_, ?_⟩⟩
  · have htop := Package.isNormal_of_absolute habs
    exact ⟨fun part all hall p hp => (Package.isListed_of_mem_scan hall hp).liesShown hs htop,
      fun name p hp => (Package.isListed_of_find? hp).liesShown hs htop⟩
  · intro top found hlist
    obtain ⟨top', found', hanswer, htop, -, hmem⟩ :=
      yields_listPackages (invoke_eq_done_iff.mp hlist).2
    obtain ⟨rfl, rfl⟩ := Answer.packages.inj hanswer
    exact ⟨htop, fun p hp => (hmem p hp).liesShown hs (isNormal_of_rootOf htop)⟩
  · intro t a p hinvoke hp
    obtain ⟨name, top, -, htop, hfind, -⟩ :=
      yields_findPackage_some.mp (yields_findPackage_of_package? hinvoke hp)
    exact ⟨top, htop, (Package.isListed_of_find? hfind).liesShown hs (isNormal_of_rootOf htop)⟩

/-- A session in the project in which packages are hidden. -/
def retiredSession : Session :=
  Session.new retiredFiles (FileSystem.standing ["W"]) ⟨[], "/tmp"⟩

/-- Where packages are hidden in all three ways, those are listed that are not, and the one in a
    scope. -/
theorem packages_lie_shown_retired :
    (Name.listModules.invoke [] retiredSession).1 =
      .done (.packages "/W" [retiredPackage, undatedPackage "b" "/W/node_modules/b"]) ∧
    LiesShown "/W" "/W/node_modules/@s/.c-old" ∧ LiesShown "/W" "/W/node_modules/b" := by
  have hlist : (Name.listModules.invoke [] retiredSession).1 =
      .done (.packages "/W" [retiredPackage, undatedPackage "b" "/W/node_modules/b"]) := by
    decide +kernel
  have hfiles : retiredSession.fs.WellFormed := by decide +kernel
  obtain ⟨-, hshown⟩ := ((packages_lie_shown hfiles).2 [] _).1 _ _ (invoke_eq_afterCall hlist)
  exact ⟨hlist, hshown retiredPackage (by simp), hshown (undatedPackage "b" _) (by simp)⟩

end PackageAtlas.Tool
