import PackageAtlas.Proofs.Package.Catalogue
import PackageAtlas.Proofs.Package.Inside

namespace PackageAtlas.Package

open FileSystem (WellFormed)
open PackageAtlas.Path (IsName IsNormal normalNames)
open Text (WideText)

/-!
# Where dependencies are installed

The dependency directories of a project are its own and, if it is a workspace, those of its members,
which lie in three places:

* `members`: the members in a directory that have dependencies; `pairwise_members` and
  `mem_members_iff`: which these are, and in which order;
* `places`, `nodup_places`: where the dependencies of a project may be, each place once;
* `unlessTooLong`, `gather_eq_unlessTooLong`: looking at paths, one after the other, fails at the
  first with a name on its way that is too long;
* `lookedAt`, `workspaceDirectories_eq`: which paths are looked at for members, and what is found;
* `dependencyDirectories_eq`: dependencies are found in their places and nowhere else;
* `isWorkspace_eq_true_iff`: when a project is a workspace;
* `dependency_directories_are_exact`: all of it together;
* `overlong_link_hides_dependencies`: one link in a workspace can hide everything.
-/

variable {fs : FileSystem} {here : Standpoint} {top base : String}

/-! ### Members -/

/-- The members of a workspace in a directory that have dependencies of their own. -/
def members (fs : FileSystem) (here : Standpoint) (base : String) : List String :=
  (entries fs here base).filter (fun m =>
    isMemberName m && fs.isDirectory here (extend base [m, dependencyName]))

theorem pairwise_lt_entries (hdistinct : fs.Distinct) (here : Standpoint) (base : String) :
    (entries fs here base).Pairwise (· < ·) := by
  unfold entries FileSystem.list?
  split
  · exact hdistinct.pairwise_names _
  · exact List.Pairwise.nil

/-- Members stand in the order of their code points. -/
theorem pairwise_members (hdistinct : fs.Distinct) (here : Standpoint) (base : String) :
    (members fs here base).Pairwise (· < ·) :=
  (pairwise_lt_entries hdistinct here base).filter _

theorem mem_members_iff {m : String} :
    m ∈ members fs here base ↔
      (∃ loc, fs.find? here base = .ok (loc, .directory) ∧
        (fs.at? (loc ++ [m])).isSome = true) ∧
      isHidden m = false ∧ m ≠ dependencyName ∧
      fs.isDirectory here (extend base [m, dependencyName]) = true := by
  rw [members, List.mem_filter, mem_entries_iff, isMemberName, Bool.and_eq_true, Bool.and_eq_true,
    Bool.not_eq_true', bne_iff_ne, and_assoc]

theorem isName_of_mem_members (hfs : fs.WellFormed) {m : String} (h : m ∈ members fs here base) :
    IsName m :=
  isName_of_mem_list? hfs (List.mem_filter.mp h).1

/-! ### Places -/

/-- The names that lead from a project to the directories in which members of a workspace lie. -/
def baseNames : List (List String) := [["packages"], ["apps"], []]

/-- The names that lead from a project to the members of a workspace with dependencies. -/
def memberPlaces (fs : FileSystem) (here : Standpoint) (top : String) : List (List String) :=
  baseNames.flatMap (fun base => (members fs here (extend top base)).map (fun m => base ++ [m]))

/-- The names that lead from a project to where its dependencies may be. -/
def places (fs : FileSystem) (here : Standpoint) (top : String) : List (List String) :=
  [] :: if isWorkspace fs here top then memberPlaces fs here top else []

theorem mem_memberPlaces_iff {place : List String} :
    place ∈ memberPlaces fs here top ↔
      ∃ base ∈ baseNames, ∃ m ∈ members fs here (extend top base), place = base ++ [m] := by
  simp only [memberPlaces, List.mem_flatMap, List.mem_map, eq_comm]

theorem isName_of_mem_memberPlaces (hfs : fs.WellFormed) {place : List String}
    (h : place ∈ memberPlaces fs here top) : ∀ n ∈ place, IsName n := by
  obtain ⟨base, hbase, m, hm, rfl⟩ := mem_memberPlaces_iff.mp h
  have hnames : ∀ base ∈ baseNames, ∀ n ∈ base, IsName n := by decide
  exact Path.isName_of_mem_concat (hnames base hbase) (isName_of_mem_members hfs hm)

theorem nodup_memberPlaces (hdistinct : fs.Distinct) (here : Standpoint) (top : String) :
    (memberPlaces fs here top).Nodup := by
  rw [memberPlaces, List.nodup_flatMap]
  constructor
  · intro base _
    refine (pairwise_members hdistinct here _).nodup.map (fun m n h => ?_)
    simpa using h
  · -- What lies below different directories differs in its first name, or in its length.
    have hbases : baseNames.Pairwise (fun a b => a.length = b.length → a ≠ b) := by decide
    refine hbases.imp (fun {a b} hab => ?_)
    rw [Function.onFun_apply, List.disjoint_left]
    intro place hplace hplace'
    obtain ⟨m, -, rfl⟩ := List.mem_map.mp hplace
    obtain ⟨n, -, heq⟩ := List.mem_map.mp hplace'
    have hlength := congrArg List.length heq
    simp only [List.length_append, List.length_singleton, Nat.add_right_cancel_iff] at hlength
    exact hab hlength.symm (List.append_inj heq hlength).1.symm

theorem nodup_places (hdistinct : fs.Distinct) (here : Standpoint) (top : String) :
    (places fs here top).Nodup := by
  unfold places
  split
  · refine List.nodup_cons.mpr ⟨fun h => ?_, nodup_memberPlaces hdistinct here top⟩
    obtain ⟨base, -, m, -, heq⟩ := mem_memberPlaces_iff.mp h
    simp at heq
  · exact List.nodup_cons.mpr ⟨List.not_mem_nil, List.nodup_nil⟩

/-! ### Dependency directories -/

/-- The path of the dependency directory in a place. -/
def dependencyPath (top : String) (place : List String) : String :=
  extend top (place ++ [dependencyName])

theorem normalNames_dependencyPath {place : List String} (h : ∀ n ∈ place, IsName n) :
    normalNames (dependencyPath top place) = normalNames top ++ place ++ [dependencyName] := by
  rw [dependencyPath, normalNames_extend top (Path.isName_of_mem_concat h isName_dependencyName),
    List.append_assoc]

theorem isNormal_extend (hbase : IsNormal base) {names : List String} (h : ∀ n ∈ names, IsName n) :
    IsNormal (extend base names) := by
  induction names generalizing base with
  | nil => exact hbase
  | cons n names ih =>
    exact ih (hbase.join (h n List.mem_cons_self)) (fun m hm => h m (List.mem_cons_of_mem n hm))

theorem isNormal_dependencyPath (htop : IsNormal top) {place : List String}
    (h : ∀ n ∈ place, IsName n) : IsNormal (dependencyPath top place) :=
  isNormal_extend htop (Path.isName_of_mem_concat h isName_dependencyName)

theorem isName_of_mem_places (hfs : fs.WellFormed) {place : List String}
    (h : place ∈ places fs here top) : ∀ n ∈ place, IsName n := by
  rcases List.mem_cons.mp h with rfl | h
  · simp
  · split at h
    · exact isName_of_mem_memberPlaces hfs h
    · simp at h

/-- A place is that of the project, or that of a member behind one of three bases. -/
theorem cases_of_mem_places {place : List String} (h : place ∈ places fs here top) :
    place = [] ∨ ∃ m, place = [m] ∨ place = ["packages", m] ∨ place = ["apps", m] := by
  rcases List.mem_cons.mp h with rfl | h
  · exact Or.inl rfl
  · split at h
    · obtain ⟨base, hbase, m, -, rfl⟩ := mem_memberPlaces_iff.mp h
      simp only [baseNames, List.mem_cons, List.not_mem_nil, or_false] at hbase
      rcases hbase with rfl | rfl | rfl
      · exact Or.inr ⟨m, Or.inr (Or.inl rfl)⟩
      · exact Or.inr ⟨m, Or.inr (Or.inr rfl)⟩
      · exact Or.inr ⟨m, Or.inl rfl⟩
    · simp at h

/-- Different places have different paths. -/
theorem nodup_dependencyPaths (hfs : fs.WellFormed) (hdistinct : fs.Distinct) (here : Standpoint)
    (top : String) : ((places fs here top).map (dependencyPath top)).Nodup := by
  -- The names of a place can be read off its path.
  refine (nodup_places hdistinct here top).map_on (fun a ha b hb h => ?_)
  have hnames := congrArg normalNames h
  rw [normalNames_dependencyPath (isName_of_mem_places hfs ha),
    normalNames_dependencyPath (isName_of_mem_places hfs hb)] at hnames
  simpa using hnames

/-- Where nothing occurs twice, nothing is left out. -/
theorem eraseDups_eq_self {items : List String} (h : items.Nodup) : items.eraseDups = items := by
  induction items with
  | nil => rfl
  | cons a items ih =>
    obtain ⟨ha, hitems⟩ := List.nodup_cons.mp h
    have hothers : items.filter (fun b => !b == a) = items := by
      refine List.filter_eq_self.mpr (fun b hb => ?_)
      rw [Bool.not_eq_true', beq_eq_false_iff_ne]
      rintro rfl
      exact ha hb
    rw [List.eraseDups_cons, hothers, ih hitems]

theorem memberBases_flatMap (fs : FileSystem) (here : Standpoint) (top : String) :
    (memberBases top).flatMap (fun base =>
      (members fs here base).map (fun m => extend base [m, dependencyName])) =
        (memberPlaces fs here top).map (dependencyPath top) := by
  have hbases : memberBases top = baseNames.map (extend top) := rfl
  rw [hbases, List.flatMap_map, memberPlaces, List.map_flatMap]
  refine List.flatMap_congr (fun base _ => ?_)
  rw [List.map_map]
  refine List.map_congr_left (fun m _ => ?_)
  rw [Function.comp_apply, dependencyPath, List.append_assoc, ← extend_extend]
  rfl

theorem isDirectory_of_mem_memberPlaces {place : List String}
    (h : place ∈ memberPlaces fs here top) :
    fs.isDirectory here (dependencyPath top place) = true := by
  obtain ⟨base, -, m, hm, rfl⟩ := mem_memberPlaces_iff.mp h
  have hpath : dependencyPath top (base ++ [m]) = extend (extend top base) [m, dependencyName] := by
    rw [dependencyPath, List.append_assoc, ← extend_extend]
    rfl
  rw [hpath]
  exact (mem_members_iff.mp hm).2.2.2

/-- The dependency directories of the members of a project are directories, and so come behind its
    own without a change. -/
theorem filter_dependencyPaths (fs : FileSystem) (here : Standpoint) (top : String) :
    ((places fs here top).map (dependencyPath top)).filter (fs.isDirectory here) =
      (if fs.isDirectory here (dependencyPath top []) then [dependencyPath top []] else []) ++
        if isWorkspace fs here top then (memberPlaces fs here top).map (dependencyPath top)
        else [] := by
  have hmembers : ((memberPlaces fs here top).map (dependencyPath top)).filter
      (fs.isDirectory here) = (memberPlaces fs here top).map (dependencyPath top) := by
    refine List.filter_eq_self.mpr (fun dir hdir => ?_)
    obtain ⟨place, hplace, rfl⟩ := List.mem_map.mp hdir
    exact isDirectory_of_mem_memberPlaces hplace
  rw [places, List.map_cons, List.filter_cons]
  by_cases hwork : isWorkspace fs here top = true
  · simp only [hwork, if_true, hmembers]
    split <;> rfl
  · simp only [hwork]
    split <;> rfl

/-! ### Looking at paths -/

section Looking

variable {α β : Type} {paths : List String} {e : FileError}

/-- A result, unless a name on the way of some paths is too long: then the first of these paths is
    told. -/
def unlessTooLong (fs : FileSystem) (here : Standpoint) (paths : List String) (a : α) :
    Except FileError α :=
  match paths.find? (fs.isTooLong here) with
  | some path => .error ⟨.nameTooLong, [path]⟩
  | none => .ok a

theorem unlessTooLong_cons (fs : FileSystem) (here : Standpoint) (path : String)
    (paths : List String) (a : α) :
    unlessTooLong fs here (path :: paths) a =
      if fs.isTooLong here path then .error ⟨.nameTooLong, [path]⟩
      else unlessTooLong fs here paths a := by
  rw [unlessTooLong, List.find?_cons]
  rcases fs.isTooLong here path with _ | _ <;> rfl

theorem unlessTooLong_eq_ok_iff {a b : α} :
    unlessTooLong fs here paths a = .ok b ↔
      (∀ path ∈ paths, fs.isTooLong here path = false) ∧ a = b := by
  have hnone : (∀ path ∈ paths, fs.isTooLong here path = false) ↔
      paths.find? (fs.isTooLong here) = none := by
    simp [List.find?_eq_none]
  rw [hnone, unlessTooLong]
  rcases paths.find? (fs.isTooLong here) with _ | path <;> simp

/-- The path that is told is the first one with a name on its way that is too long. -/
theorem unlessTooLong_eq_error_iff {a : α} :
    unlessTooLong fs here paths a = .error e ↔
      ∃ before path after, paths = before ++ path :: after ∧
        (∀ p ∈ before, fs.isTooLong here p = false) ∧ fs.isTooLong here path = true ∧
        e = ⟨.nameTooLong, [path]⟩ := by
  have hfirst : ∀ path, paths.find? (fs.isTooLong here) = some path ↔
      fs.isTooLong here path = true ∧ ∃ before after, paths = before ++ path :: after ∧
        ∀ p ∈ before, fs.isTooLong here p = false := by
    simp [List.find?_eq_some_iff_append]
  have herror : unlessTooLong fs here paths a = .error e ↔
      ∃ path, paths.find? (fs.isTooLong here) = some path ∧ e = ⟨.nameTooLong, [path]⟩ := by
    rw [unlessTooLong]
    rcases paths.find? (fs.isTooLong here) with _ | path <;> simp [eq_comm]
  rw [herror]
  constructor
  · rintro ⟨path, hfound, he⟩
    obtain ⟨hlong, before, after, hsplit, hfits⟩ := (hfirst path).mp hfound
    exact ⟨before, path, after, hsplit, hfits, hlong, he⟩
  · rintro ⟨before, path, after, hsplit, hfits, hlong, he⟩
    exact ⟨path, (hfirst path).mpr ⟨hlong, before, after, hsplit, hfits⟩, he⟩

/-- A step that does not fail leaves the failures as they are. -/
theorem unlessTooLong_bind {a : α} {b : β} {f : α → Except FileError β} (h : f a = .ok b) :
    (unlessTooLong fs here paths a >>= f) = unlessTooLong fs here paths b := by
  unfold unlessTooLong
  rcases paths.find? (fs.isTooLong here) with _ | path
  · exact h
  · rfl

/-- What is gathered is all that is given, unless a name on the way of a path that is looked at is
    too long. -/
theorem gather_eq_unlessTooLong {step : α → Except FileError (List β)} {seen : α → List String}
    {given : α → List β} {as : List α}
    (h : ∀ a ∈ as, step a = unlessTooLong fs here (seen a) (given a)) :
    gather step as = unlessTooLong fs here (as.flatMap seen) (as.flatMap given) := by
  induction as with
  | nil => rfl
  | cons a as ih =>
    rw [gather, h a List.mem_cons_self, ih (fun b hb => h b (List.mem_cons_of_mem a hb))]
    simp only [unlessTooLong, List.flatMap_cons, List.find?_append]
    -- The first path is among those of the first item, or else among the others.
    rcases (seen a).find? (fs.isTooLong here) with _ | path
    · rcases (as.flatMap seen).find? (fs.isTooLong here) with _ | path <;> rfl
    · rfl

end Looking

/-! ### Looking for members -/

/-- The paths that are looked at for an entry of a directory of members: its own, and if that leads
    to a directory, the one of the dependencies in it. -/
def entryPaths (fs : FileSystem) (here : Standpoint) (base m : String) : List String :=
  extend base [m] ::
    if fs.isDirectory here (extend base [m]) then [extend base [m, dependencyName]] else []

/-- The paths that are looked at for the members of a workspace. -/
def lookedAt (fs : FileSystem) (here : Standpoint) (top : String) : List String :=
  (memberBases top).flatMap (fun base =>
    base :: (entries fs here base).flatMap (entryPaths fs here base))

/-- A path is looked at for the members of a workspace: it is that of a directory of members, or of
    an entry of it, or of dependencies in an entry that is a directory. -/
def IsLookedAt (fs : FileSystem) (here : Standpoint) (top path : String) : Prop :=
  ∃ base ∈ memberBases top, path = base ∨ ∃ m, (∃ loc, fs.find? here base = .ok (loc, .directory) ∧
      (fs.at? (loc ++ [m])).isSome = true) ∧
    (path = extend base [m] ∨
      fs.isDirectory here (extend base [m]) = true ∧ path = extend base [m, dependencyName])

theorem mem_lookedAt_iff {path : String} :
    path ∈ lookedAt fs here top ↔ IsLookedAt fs here top path := by
  have hentry : ∀ base m, path ∈ entryPaths fs here base m ↔ path = extend base [m] ∨
      fs.isDirectory here (extend base [m]) = true ∧ path = extend base [m, dependencyName] := by
    intro base m
    rw [entryPaths, List.mem_cons]
    refine or_congr Iff.rfl ?_
    split
    · rename_i hdir
      rw [List.mem_singleton, and_iff_right hdir]
    · rename_i hdir
      exact ⟨fun h => absurd h List.not_mem_nil, fun h => absurd h.1 hdir⟩
  simp only [lookedAt, IsLookedAt, List.mem_flatMap, List.mem_cons, mem_entries_iff, hentry]

/-- What has dependencies is a directory. -/
theorem hasDependencies_eq (hfs : fs.WellFormed) {dir : String} (hdir : IsNormal dir) :
    hasDependencies fs here dir = unlessTooLong fs here
      (dir :: if fs.isDirectory here dir then [Path.join dir dependencyName] else [])
      (fs.exists? here (Path.join dir dependencyName)) := by
  rw [hasDependencies, FileSystem.leadsTo_isDirectory, FileSystem.leadsTo_any, unlessTooLong_cons]
  rcases fs.isTooLong here dir with _ | _
  · rcases hthere : fs.isDirectory here dir with _ | _
    · -- Nothing lies in what is no directory.
      have hnone : fs.exists? here (Path.join dir dependencyName) = false := by
        refine Bool.eq_false_iff.mpr (fun h => ?_)
        obtain ⟨loc, hloc⟩ := FileSystem.exists_find?_of_join hfs hdir.isAbsolute_eq
          isName_dependencyName h
        rw [FileSystem.isDirectory_eq_true_iff.mpr ⟨loc, hloc⟩] at hthere
        cases hthere
      rw [hnone]
      rfl
    · show _ = unlessTooLong fs here [Path.join dir dependencyName] _
      rw [unlessTooLong_cons]
      rfl
  · rfl

/-- An entry is a member with dependencies if it may be one and they are a directory. -/
theorem memberDirectory_eq (hfs : fs.WellFormed) (hbase : IsNormal base) {m : String}
    (hm : IsName m) :
    memberDirectory fs here base m = unlessTooLong fs here (entryPaths fs here base m)
      (if isMemberName m && fs.isDirectory here (extend base [m, dependencyName])
        then [extend base [m, dependencyName]] else []) := by
  have hpath : Path.join (Path.join base m) dependencyName = extend base [m, dependencyName] := rfl
  have hdir : Path.join base m = extend base [m] := rfl
  rw [memberDirectory, hasDependencies_eq hfs (hbase.join hm), hpath, hdir, entryPaths]
  generalize extend base [m, dependencyName] = path
  refine unlessTooLong_bind ?_
  rcases hthere : fs.exists? here path with _ | _
  · -- What is not there is no directory.
    have hnone : fs.isDirectory here path = false :=
      Bool.eq_false_iff.mpr (fun h => by simp [FileSystem.exists?_of_isDirectory h] at hthere)
    rw [hnone, Bool.and_false]
    rfl
  · rw [Bool.true_and, FileSystem.leadsTo_isDirectory, FileSystem.isTooLong_of_exists? hthere]
    rcases isMemberName m with _ | _ <;> rfl

/-- The members in a directory are found unless a name on the way to an entry is too long. -/
theorem memberDirectories_eq (hfs : fs.WellFormed) (hbase : IsNormal base) :
    memberDirectories fs here base = unlessTooLong fs here
      (base :: (entries fs here base).flatMap (entryPaths fs here base))
      ((members fs here base).map (fun m => extend base [m, dependencyName])) := by
  have hgiven : (members fs here base).map (fun m => extend base [m, dependencyName]) =
      (entries fs here base).flatMap (fun m =>
        if isMemberName m && fs.isDirectory here (extend base [m, dependencyName])
        then [extend base [m, dependencyName]] else []) := by
    rw [members]
    induction entries fs here base with
    | nil => rfl
    | cons m ms ih =>
      rw [List.filter_cons, List.flatMap_cons, ← ih]
      split <;> rfl
  have hgather : gather (memberDirectory fs here base) (entries fs here base) = _ :=
    gather_eq_unlessTooLong (fun m hm =>
      memberDirectory_eq hfs hbase (isName_of_mem_list? hfs hm))
  rw [memberDirectories, FileSystem.leadsTo_isDirectory, unlessTooLong_cons, hgiven]
  rcases fs.isTooLong here base with _ | _
  · rcases hthere : fs.isDirectory here base with _ | _
    · rw [entries_eq_nil hthere]
      rfl
    · exact hgather
  · rfl

theorem workspaceDirectories_eq (hfs : fs.WellFormed) (htop : IsNormal top) :
    workspaceDirectories fs here top =
      if isWorkspace fs here top then unlessTooLong fs here (lookedAt fs here top)
        ((memberPlaces fs here top).map (dependencyPath top))
      else .ok [] := by
  rw [workspaceDirectories, ← memberBases_flatMap]
  split
  · exact gather_eq_unlessTooLong (fun base hbase => memberDirectories_eq hfs
      (of_mem_memberBases htop (fun _ _ hdir hname => hdir.join hname) hbase))
  · rfl

/-- Dependencies are found in their places and nowhere else, unless a name on the way to an entry of
    a workspace is too long. -/
theorem dependencyDirectories_eq (hfs : fs.WellFormed) (hdistinct : fs.Distinct)
    (htop : IsNormal top) :
    dependencyDirectories fs here top =
      unlessTooLong fs here (if isWorkspace fs here top then lookedAt fs here top else [])
        (((places fs here top).map (dependencyPath top)).filter (fs.isDirectory here)) := by
  have hdirs : (places fs here top).map (dependencyPath top) = Path.join top dependencyName ::
      if isWorkspace fs here top then (memberPlaces fs here top).map (dependencyPath top)
      else [] := by
    rw [places, List.map_cons]
    split <;> rfl
  rw [dependencyDirectories, workspaceDirectories_eq hfs htop,
    ← eraseDups_eq_self (nodup_dependencyPaths hfs hdistinct here top), hdirs]
  split
  · exact unlessTooLong_bind rfl
  · rfl

/-- A project is a workspace if it has a file that says so, or if its manifest is a record whose
    last field `workspaces` counts as true. -/
theorem isWorkspace_eq_true_iff :
    isWorkspace fs here top = true ↔
      fs.exists? here (extend top [workspaceName]) = true ∨
        ∃ fields name value, readManifest fs here (extend top [manifestName]) =
            some (.record fields) ∧
          (fields.filter (fun f => f.1 == WideText.ofString "workspaces")).getLast? =
            some (name, value) ∧ value.holds = true := by
  rw [extend_cons top manifestName, extend_nil, isWorkspace, Bool.or_eq_true]
  refine or_congr Iff.rfl ?_
  -- Only a record can have the field.
  rcases readManifest fs here (Path.join top manifestName) with _ | manifest
  · simp
  · cases manifest with
    | record fields =>
      show ((((fields.filter (fun f => f.1 == WideText.ofString "workspaces")).getLast?).map
        (·.2)).map Value.holds).getD false = true ↔ _
      constructor
      · intro h
        rcases hlast : (fields.filter
          (fun f => f.1 == WideText.ofString "workspaces")).getLast? with _ | ⟨name, value⟩
        · rw [hlast] at h
          simp at h
        · rw [hlast] at h
          exact ⟨fields, name, value, rfl, hlast, h⟩
      · rintro ⟨fields', name, value, hsame, hlast, hholds⟩
        obtain rfl : fields = fields' := by simpa using hsame
        rw [hlast]
        exact hholds
    | _ => simp [Value.get?]

/-- Looking for the dependencies of a project fails at a path that is looked at for members. -/
theorem exists_of_dependencyDirectories_eq_error (hfs : fs.WellFormed) (hdistinct : fs.Distinct)
    (htop : IsNormal top) {e : FileError} (h : dependencyDirectories fs here top = .error e) :
    isWorkspace fs here top = true ∧ ∃ path, e = ⟨.nameTooLong, [path]⟩ ∧
      IsLookedAt fs here top path ∧ fs.find? here path = .error .nameTooLong := by
  rw [dependencyDirectories_eq hfs hdistinct htop] at h
  obtain ⟨before, path, after, hsplit, -, hlong, he⟩ := unlessTooLong_eq_error_iff.mp h
  split at hsplit
  · rename_i hwork
    have hpath : path ∈ lookedAt fs here top := by simp [hsplit]
    exact ⟨hwork, path, he, mem_lookedAt_iff.mp hpath, FileSystem.isTooLong_eq_true_iff.mp hlong⟩
  · simp at hsplit

/-- All of the paths are looked at, so that there is no result where a name on the way of one of
    them is too long. -/
theorem dependencyDirectories_ne_ok (hfs : fs.WellFormed) (hdistinct : fs.Distinct)
    (htop : IsNormal top) (hwork : isWorkspace fs here top = true) {path : String}
    (hpath : IsLookedAt fs here top path) (hlong : fs.find? here path = .error .nameTooLong)
    (dirs : List String) : dependencyDirectories fs here top ≠ .ok dirs := by
  intro h
  rw [dependencyDirectories_eq hfs hdistinct htop, if_pos hwork] at h
  have hfits := (unlessTooLong_eq_ok_iff.mp h).1 path (mem_lookedAt_iff.mpr hpath)
  rw [FileSystem.isTooLong_eq_true_iff.mpr hlong] at hfits
  cases hfits

/-- **Discovery.** The dependency directories of a project are its own, if it is there, and, exactly
    if it is a workspace, those of its members in `packages`, then in `apps` and then in the project
    itself, in the order of their code points: a member is an entry that is not hidden, is no
    dependency directory and has one. No directory occurs twice, and none is at another depth.

    They are found unless a path that is looked at for members has a name on its way that is too
    long: that of a directory of members, that of an entry there, be it a member or not, or that of
    the dependencies in it. -/
theorem dependency_directories_are_exact (hfs : fs.WellFormed) (hdistinct : fs.Distinct)
    {root : String} (htop : here.absolute root = .ok top) :
    (∀ dirs, dependencyDirectories fs here top = .ok dirs →
      dirs = (if fs.isDirectory here (extend top ["node_modules"])
          then [extend top ["node_modules"]] else []) ++
        (if isWorkspace fs here top then
          (members fs here (extend top ["packages"])).map
            (fun m => extend top ["packages", m, "node_modules"]) ++
          (members fs here (extend top ["apps"])).map
            (fun m => extend top ["apps", m, "node_modules"]) ++
          (members fs here top).map (fun m => extend top [m, "node_modules"])
        else []) ∧
      dirs.Nodup ∧
      ∀ dir ∈ dirs, IsNormal dir ∧
        ∃ place, Path.parts dir = Path.parts top ++ place ++ ["node_modules"] ∧
          (place = [] ∨ ∃ m, place = [m] ∨ place = ["packages", m] ∨ place = ["apps", m])) ∧
    ((∃ e, dependencyDirectories fs here top = .error e) ↔
      isWorkspace fs here top = true ∧
        ∃ path, IsLookedAt fs here top path ∧ fs.find? here path = .error .nameTooLong) ∧
    (∀ e, dependencyDirectories fs here top = .error e →
      ∃ path, e = ⟨.nameTooLong, [path]⟩ ∧ IsLookedAt fs here top path ∧
        fs.find? here path = .error .nameTooLong) ∧
    (∀ base, (members fs here base).Pairwise (· < ·) ∧ ∀ m, m ∈ members fs here base ↔
      (∃ loc, fs.find? here base = .ok (loc, .directory) ∧
        (fs.at? (loc ++ [m])).isSome = true) ∧
      isHidden m = false ∧ m ≠ "node_modules" ∧
      fs.isDirectory here (extend base [m, "node_modules"]) = true) ∧
    (isWorkspace fs here top = true ↔
      fs.exists? here (extend top ["pnpm-workspace.yaml"]) = true ∨
        ∃ fields name value, readManifest fs here (extend top ["package.json"]) =
            some (.record fields) ∧
          (fields.filter (fun f => f.1 == WideText.ofString "workspaces")).getLast? =
            some (name, value) ∧ value.holds = true) := by
  have hnormal := isNormal_of_absolute htop
  have heq : dependencyDirectories fs here top = _ :=
    dependencyDirectories_eq hfs hdistinct hnormal
  refine ⟨fun dirs hdirs => ?_, ?_, fun e he => ?_,
    fun base => ⟨pairwise_members hdistinct here base, fun m => mem_members_iff⟩,
    isWorkspace_eq_true_iff⟩
  · rw [heq] at hdirs
    obtain ⟨-, rfl⟩ := unlessTooLong_eq_ok_iff.mp hdirs
    refine ⟨?_, (nodup_dependencyPaths hfs hdistinct here top).filter _, fun dir hdir => ?_⟩
    · rw [filter_dependencyPaths]
      simp only [memberPlaces, baseNames, List.flatMap_cons, List.flatMap_nil, List.map_append,
        List.map_map, List.append_nil, List.append_assoc]
      rfl
    · obtain ⟨place, hplace, rfl⟩ := List.mem_map.mp (List.mem_filter.mp hdir).1
      have hnames := isName_of_mem_places hfs hplace
      have hdirNormal := isNormal_dependencyPath hnormal hnames
      refine ⟨hdirNormal, place, ?_, cases_of_mem_places hplace⟩
      rw [hdirNormal.parts_eq, hnormal.parts_eq]
      exact normalNames_dependencyPath hnames
  · constructor
    · rintro ⟨e, he⟩
      obtain ⟨hwork, path, -, hpath, hlong⟩ :=
        exists_of_dependencyDirectories_eq_error hfs hdistinct hnormal he
      exact ⟨hwork, path, hpath, hlong⟩
    · rintro ⟨hwork, path, hpath, hlong⟩
      have hnone := dependencyDirectories_ne_ok hfs hdistinct hnormal hwork hpath hlong
      rcases hdirs : dependencyDirectories fs here top with e | dirs
      · exact ⟨e, rfl⟩
      · exact absurd hdirs (hnone dirs)
  · exact (exists_of_dependencyDirectories_eq_error hfs hdistinct hnormal he).2

/-- A workspace with members in all three places; what is hidden, lies in a dependency directory or
    lies deeper is no member. -/
def workspaceFiles : FileSystem :=
  ⟨[(["W"], .directory), (["W", "package.json"], .file "\x7b\"workspaces\": [1]\x7d".toUTF8),
    (["W", "node_modules"], .directory), (["W", "node_modules", "node_modules"], .directory),
    (["W", ".h"], .directory), (["W", ".h", "node_modules"], .directory),
    (["W", "packages"], .directory), (["W", "packages", "node_modules"], .directory),
    (["W", "packages", "b"], .directory), (["W", "packages", "b", "node_modules"], .directory),
    (["W", "packages", "b", "c"], .directory),
    (["W", "packages", "b", "c", "node_modules"], .directory),
    (["W", "packages", "a-b"], .directory), (["W", "packages", "a-b", "node_modules"], .directory),
    (["W", "packages", "a"], .link "b"),
    (["W", "apps"], .directory), (["W", "apps", "x"], .directory),
    (["W", "apps", "x", "node_modules"], .file "".toUTF8)]⟩

theorem dependency_directories_are_exact_workspace :
    dependencyDirectories workspaceFiles (FileSystem.standing ["W"]) "/W" =
      .ok ["/W/node_modules", "/W/packages/a/node_modules", "/W/packages/a-b/node_modules",
        "/W/packages/b/node_modules", "/W/packages/node_modules"] := by
  have hfs : workspaceFiles.WellFormed := by decide +kernel
  have htop : (FileSystem.standing ["W"]).absolute "." = .ok "/W" := by decide +kernel
  obtain ⟨hexact, hfails, -⟩ := dependency_directories_are_exact hfs (by decide +kernel) htop
  rcases hdirs : dependencyDirectories workspaceFiles (FileSystem.standing ["W"]) "/W"
    with e | dirs
  · -- No name on the way of what is looked at is too long.
    obtain ⟨-, path, hpath, hlong⟩ := hfails.mp ⟨e, hdirs⟩
    have hfits : ∀ path ∈ lookedAt workspaceFiles (FileSystem.standing ["W"]) "/W",
        workspaceFiles.isTooLong (FileSystem.standing ["W"]) path = false := by decide +kernel
    have hpath := hfits path (mem_lookedAt_iff.mpr hpath)
    rw [FileSystem.isTooLong_eq_true_iff.mpr hlong] at hpath
    cases hpath
  · rw [(hexact dirs hdirs).1]
    decide +kernel

/-- A workspace in which the dependencies of a member are a link. -/
def linkedFiles (target : String) : FileSystem :=
  ⟨[(["W"], .directory), (["W", "package.json"], .file "\x7b\x7d".toUTF8),
    (["W", "pnpm-workspace.yaml"], .file "".toUTF8), (["W", "node_modules"], .directory),
    (["W", "packages"], .directory), (["W", "packages", "n"], .directory),
    (["W", "packages", "n", "node_modules"], .link target)]⟩

/-- The link leads nowhere if its target is one name that is too long. -/
theorem find?_linkedFiles (target : String) (hpieces : Path.pieces target = [target])
    (hidle : Path.isIdle target = false) (hup : (target == "..") = false)
    (hlong : FileSystem.nameLimit < target.utf8ByteSize) :
    (linkedFiles target).find? (FileSystem.standing ["W"]) "/W/packages/n/node_modules" =
      .error .nameTooLong := by
  have hpath : FileSystem.followable "/W/packages/n/node_modules" =
      .ok ["", "W", "packages", "n", "node_modules"] := by decide +kernel
  have habs : Path.isAbsolute "/W/packages/n/node_modules" = true := by decide +kernel
  have hway : (linkedFiles target).resolveFrom true FileSystem.linkLimit []
      ["", "W", "packages", "n", "node_modules"] =
        (linkedFiles target).resolveFrom true 39
          (FileSystem.targetBase ["W", "packages", "n"] target) (Path.pieces target ++ []) := rfl
  have hends : (linkedFiles target).resolveFrom true 39
      (FileSystem.targetBase ["W", "packages", "n"] target) [target] = .error .nameTooLong := by
    simp [FileSystem.resolveFrom, FileSystem.resolveWith, hidle, hup, hlong]
  rw [FileSystem.find?, FileSystem.resolve, hpath, habs]
  show (FileSystem.resolveFrom _ _ _ _ _ >>= _) = _
  rw [hway, hpieces, List.append_nil, hends]
  rfl

/-- A workspace in which the dependencies of a member are a link to a name that is too long. -/
def overlongFiles : FileSystem := linkedFiles (String.ofList (List.replicate 300 'a'))

/-- **One such link hides everything.** The project has dependencies of its own and no member that
    has some, but its dependency directories cannot be looked for. -/
theorem overlong_link_hides_dependencies :
    overlongFiles.WellFormed ∧ overlongFiles.Distinct ∧
    (FileSystem.standing ["W"]).absolute "/W" = .ok "/W" ∧
    isWorkspace overlongFiles (FileSystem.standing ["W"]) "/W" = true ∧
    overlongFiles.isDirectory (FileSystem.standing ["W"]) "/W/node_modules" = true ∧
    (∀ base ∈ memberBases "/W", members overlongFiles (FileSystem.standing ["W"]) base = []) ∧
    dependencyDirectories overlongFiles (FileSystem.standing ["W"]) "/W" =
      .error ⟨.nameTooLong, ["/W/packages/n/node_modules"]⟩ := by
  have hfs : overlongFiles.WellFormed := by decide +kernel
  have hdistinct : overlongFiles.Distinct := by decide +kernel
  have htop : (FileSystem.standing ["W"]).absolute "/W" = .ok "/W" := by decide +kernel
  have hwork : isWorkspace overlongFiles (FileSystem.standing ["W"]) "/W" = true := by
    decide +kernel
  -- The link leads nowhere.
  have hsplit : Text.splitAt '/' (List.replicate 300 'a') = [List.replicate 300 'a'] := by
    decide +kernel
  have hlong := find?_linkedFiles (String.ofList (List.replicate 300 'a'))
    (by rw [Path.pieces, String.toList_ofList, hsplit, List.map_cons, List.map_nil])
    (by decide +kernel) (by decide +kernel) (by decide +kernel)
  have hpackages : members overlongFiles (FileSystem.standing ["W"]) "/W/packages" = [] := by
    have hentries : entries overlongFiles (FileSystem.standing ["W"]) "/W/packages" = ["n"] := by
      decide +kernel
    have hnone : overlongFiles.isDirectory (FileSystem.standing ["W"])
        (extend "/W/packages" ["n", dependencyName]) = false := by
      refine Bool.eq_false_iff.mpr (fun hdir => ?_)
      obtain ⟨loc, hloc⟩ := FileSystem.isDirectory_eq_true_iff.mp hdir
      cases hlong.symm.trans hloc
    rw [members, hentries, List.filter_singleton, hnone, Bool.and_false]
    rfl
  have hmembers : ∀ base ∈ ["/W/apps", "/W"],
      members overlongFiles (FileSystem.standing ["W"]) base = [] := by decide +kernel
  refine ⟨hfs, hdistinct, htop, hwork, by decide +kernel,
    List.forall_mem_cons.mpr ⟨hpackages, hmembers⟩, ?_⟩
  -- Of the paths that are looked at, the third one is the first that is behind the link.
  have hfirst : (lookedAt overlongFiles (FileSystem.standing ["W"]) "/W").take 3 =
      ["/W/packages", "/W/packages/n", "/W/packages/n/node_modules"] := by decide +kernel
  have hfits : ∀ path ∈ ["/W/packages", "/W/packages/n"],
      overlongFiles.isTooLong (FileSystem.standing ["W"]) path = false := by decide +kernel
  rw [dependencyDirectories_eq hfs hdistinct (isNormal_of_absolute htop), if_pos hwork]
  refine unlessTooLong_eq_error_iff.mpr ⟨["/W/packages", "/W/packages/n"], _,
    (lookedAt overlongFiles (FileSystem.standing ["W"]) "/W").drop 3, ?_, hfits,
    FileSystem.isTooLong_eq_true_iff.mpr hlong, rfl⟩
  rw [← List.take_append_drop 3 (lookedAt _ _ _), hfirst]
  rfl

end PackageAtlas.Package
