import PackageAtlas.Proofs.Package.Discovery

namespace PackageAtlas.Package

open FileSystem (WellFormed)
open PackageAtlas.Path (IsName IsNormal)

/-!
# Hidden names on the way to packages

What is hidden is passed over among the members of a workspace and in dependency directories, but
not in scopes. So a package may lie in a hidden directory only if that directory is in a scope:

* `LiesShown`: the paths below a project that lead through nothing hidden, scopes apart;
* `exists_names_of_mem_dependencyDirectories`, `exists_names_of_mem_slots`: the names on the way to
  dependencies and to the places of packages;
* `IsListed.liesShown`: the directories of packages;
* `hidden_package_shadows`: a package in a hidden directory of a scope stands before the others.
-/

variable {fs : FileSystem} {here : Standpoint} {top dir : String} {p : Package}

/-- Names end in that of a scope in a dependency directory. -/
def EndsInScope (names : List String) : Prop :=
  ∃ front scope, names = front ++ [dependencyName, scope] ∧ isScope scope = true

/-- A directory lies below a project, and none of the names that lead to it there is hidden, unless
    it is the last one, and the others lead to a scope. -/
def LiesShown (top dir : String) : Prop :=
  ∃ above name, Path.parts dir = Path.parts top ++ above ++ [name] ∧
    (∀ n ∈ above, isHidden n = false) ∧ (isHidden name = true → EndsInScope above)

/-! ### Places -/

/-- Nothing hidden leads to a dependency directory, nor is it hidden. -/
theorem exists_names_of_mem_dependencyDirectories (hfs : fs.WellFormed) {dirs : List String}
    (h : dependencyDirectories fs here top = .ok dirs) (hdir : dir ∈ dirs) :
    ∃ front, dir = extend top (front ++ [dependencyName]) ∧
      (∀ n ∈ front ++ [dependencyName], IsName n) ∧
      ∀ n ∈ front ++ [dependencyName], isHidden n = false := by
  have hname := isName_dependencyName
  have hshown : isHidden dependencyName = false := by decide
  rcases cases_of_mem_dependencyDirectories h hdir with rfl | ⟨base, hbase, m, hm, hmember, rfl⟩
  · exact ⟨[], rfl, List.forall_mem_singleton.mpr hname, List.forall_mem_singleton.mpr hshown⟩
  · -- Nothing hidden leads to a directory of members, and what is hidden there is no member.
    obtain ⟨ns, hns, rfl⟩ : ∃ ns ∈ baseNames, extend top ns = base := List.mem_map.mp hbase
    have hnames : ∀ ns ∈ baseNames, ∀ n ∈ ns, IsName n ∧ isHidden n = false := by decide
    have hmshown : isHidden m = false := by
      simpa using (Bool.and_eq_true_iff.mp hmember).1
    refine ⟨ns ++ [m], ?_, ?_, ?_⟩
    · exact (extend_extend top ns [m, dependencyName]).trans (by rw [List.append_assoc]; rfl)
    · have hbase := Path.isName_of_mem_concat (fun n hn => (hnames ns hns n hn).1)
        (isName_of_mem_list? hfs hm)
      exact Path.isName_of_mem_concat hbase hname
    · refine List.forall_mem_append.mpr ⟨List.forall_mem_append.mpr ⟨?_, ?_⟩, ?_⟩
      · exact fun n hn => (hnames ns hns n hn).2
      · exact List.forall_mem_singleton.mpr hmshown
      · exact List.forall_mem_singleton.mpr hshown

/-- What leads to the place of a package: only the name of an entry of a scope may be hidden. -/
theorem exists_names_of_mem_slots (hfs : fs.WellFormed) {dirs : List String}
    (hdirs : dependencyDirectories fs here top = .ok dirs) {slot : Slot}
    (h : slot ∈ slots fs here dirs) :
    ∃ above name, slot.directory = extend top (above ++ [name]) ∧
      (∀ n ∈ above ++ [name], IsName n) ∧ (∀ n ∈ above, isHidden n = false) ∧
      (isHidden name = true → EndsInScope above) := by
  obtain ⟨dir, hdir, hslot⟩ := List.mem_flatMap.mp h
  obtain ⟨entry, hentry, hslot⟩ := List.mem_flatMap.mp hslot
  obtain ⟨hentry, hshown⟩ := List.mem_filter.mp hentry
  rw [Bool.not_eq_true'] at hshown
  obtain ⟨front, rfl, hnames, hfront⟩ := exists_names_of_mem_dependencyDirectories hfs hdirs hdir
  have hentryNames := Path.isName_of_mem_concat hnames (isName_of_mem_list? hfs hentry)
  have hpath : Path.join (extend top (front ++ [dependencyName])) entry =
      extend top (front ++ [dependencyName] ++ [entry]) := extend_extend top _ [entry]
  unfold slotsAt at hslot
  split at hslot
  · -- A scope: its name is not hidden, but those of its entries may be.
    rename_i hscope
    obtain ⟨sub, hsub, rfl⟩ := List.mem_map.mp hslot
    refine ⟨front ++ [dependencyName] ++ [entry], sub, ?_,
      Path.isName_of_mem_concat hentryNames (isName_of_mem_list? hfs hsub),
      List.forall_mem_append.mpr ⟨hfront, List.forall_mem_singleton.mpr hshown⟩,
      fun _ => ⟨front, entry, List.append_assoc .., hscope⟩⟩
    rw [hpath]
    exact extend_extend top _ [sub]
  · rw [List.mem_singleton] at hslot
    subst hslot
    refine ⟨front ++ [dependencyName], entry, hpath, hentryNames, hfront, fun hhidden => ?_⟩
    rw [hshown] at hhidden
    simp at hhidden

/-! ### Packages -/

/-- **Where packages lie.** Nothing hidden leads to a package of a catalogue, but for the name of
    its own directory in a scope. -/
theorem IsListed.liesShown (h : IsListed fs here top p) (hfs : fs.WellFormed)
    (htop : IsNormal top) : LiesShown top p.directory := by
  have hnormal := (h.isNormal_directory hfs htop).1
  obtain ⟨found, hfound, hp⟩ := h.exists_candidates
  obtain ⟨dirs, hdirs, -⟩ := bind_eq_ok_iff.mp hfound
  rw [candidates_eq_installed hfs htop hdirs] at hfound
  obtain rfl := Except.ok.inj hfound
  obtain ⟨slot, hslot, hp⟩ := List.mem_filterMap.mp hp
  -- What is found in a place lies there.
  have hdirectory : p.directory = slot.directory := by
    unfold installedAt? at hp
    split at hp
    · rw [← Option.some.inj hp]
      rfl
    · simp at hp
  obtain ⟨above, name, hpath, hnames, habove, hname⟩ :=
    exists_names_of_mem_slots hfs hdirs hslot
  refine ⟨above, name, ?_, habove, hname⟩
  rw [hnormal.parts_eq, htop.parts_eq, hdirectory, hpath, normalNames_extend top hnames,
    List.append_assoc]

/-- A workspace with a package in a scope and an older copy of it, which is hidden there. What else
    is hidden lies in the dependency directory itself, or in a member. -/
def retiredFiles : FileSystem :=
  ⟨[(["W"], .directory), (["W", "pnpm-workspace.yaml"], .file "".toUTF8),
    (["W", "node_modules"], .directory),
    (["W", "node_modules", "b"], .directory),
    (["W", "node_modules", "b", "package.json"], .file "\x7b\x7d".toUTF8),
    (["W", "node_modules", ".h"], .directory),
    (["W", "node_modules", ".h", "package.json"], .file "\x7b\x7d".toUTF8),
    (["W", ".m"], .directory), (["W", ".m", "node_modules"], .directory),
    (["W", ".m", "node_modules", "d"], .directory),
    (["W", ".m", "node_modules", "d", "package.json"], .file "\x7b\x7d".toUTF8),
    (["W", "node_modules", "@s"], .directory),
    (["W", "node_modules", "@s", "c"], .directory),
    (["W", "node_modules", "@s", ".c-old"], .directory),
    (["W", "node_modules", "@s", "c", "package.json"],
      .file "\x7b\"name\": \"@s/c\", \"version\": \"2\"\x7d".toUTF8),
    (["W", "node_modules", "@s", ".c-old", "package.json"],
      .file "\x7b\"name\": \"@s/c\", \"version\": \"1\"\x7d".toUTF8)]⟩

/-- The older copy. -/
def retiredPackage : Package :=
  ⟨.ofString "@s/c", .ofString "1", "/W/node_modules/@s/.c-old"⟩

/-- **What is hidden in a scope is listed.** A hidden copy of a package in its scope stands before
    the package itself, which is then not listed, and the name of the package means the copy. -/
theorem hidden_package_shadows :
    retiredFiles.WellFormed ∧
    isHidden ".c-old" = true ∧
    scan retiredFiles (FileSystem.standing ["W"]) "/W" "" =
      .ok [retiredPackage, undatedPackage "b" "/W/node_modules/b"] ∧
    find? retiredFiles (FileSystem.standing ["W"]) "@s/c" "/W" = .ok (some retiredPackage) := by
  decide +kernel

end PackageAtlas.Package
