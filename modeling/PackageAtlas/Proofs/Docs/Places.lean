import PackageAtlas.Proofs.Docs.Fill
import PackageAtlas.Proofs.FileSystem.Ways

namespace PackageAtlas.Docs

open FileSystem (Grown LinkFree Maintains Stands makeDirectories outcome)
open PackageAtlas.Path (IsName isAbsolute ofNames parts)

/-!
# Where copies are put

Copying documentation puts nothing anywhere but in the directory for copies, apart from directories
that this one has to lie in:

* `two_le_of_mem_docsOf`: what is copied lies in a directory of its package;
* `PutFor`: all that is put somewhere for the sake of copies: in the directory for copies, or on the
  way there (`IsOnWay`);
* `Spares`: since a file system was what it was, only such things have been put into it, and there
  are no links in the directory for copies;
* `Spares.at?_eq_or`, `Spares.file_eq_or`: so all else is what it was;
* `Spares.put_above`, `Spares.put_inside`, `Spares.put_copy`: one more of them;
* `Spares.maintains_makeDirectories`, `Spares.maintains_copyOne`: and so on up to
  `Spares.copyPackage` and `Spares.maintains_fill`.
-/

variable {fs mid mid' : FileSystem} {here : Standpoint} {dir path : String} {base loc : Location}
  {p : Package} {key f : String} {names files : List String} {e : Entry}

/-! ### Names of copies -/

theorem IsKey.isName_of_mem (h : IsKey key) (hnames : ∀ n ∈ names, IsName n) :
    ∀ n ∈ key :: names, IsName n :=
  List.forall_mem_cons.mpr ⟨h.isName, hnames⟩

/-- The files of a package that are copied lie in a directory of it. -/
theorem two_le_of_mem_docsOf (hfs : fs.WellFormed) (h : Replica.docsOf fs here p = .ok files)
    (hf : f ∈ files) :
    ∃ names, 2 ≤ names.length ∧ (∀ n ∈ names, IsName n) ∧ f = ofNames names := by
  obtain ⟨names, hne, hnames, rfl, -⟩ := isDocsFile_of_mem_docsOf hfs h hf
  refine ⟨names, ?_, hnames, rfl⟩
  have hnested : isNested (ofNames names) = true := by
    obtain ⟨found, -, hmem⟩ := exists_walk_of_mem_docsOf h hf
    exact (List.mem_filter.mp hmem).2
  -- A single name holds no slash.
  rcases names with _ | ⟨n, _ | ⟨m, rest⟩⟩
  · exact absurd rfl hne
  · rw [isNested, List.contains_iff_mem] at hnested
    exact absurd (by simpa [ofNames] using hnested) (hnames n (by simp)).2.2
  · simp

/-! ### What is put for copies -/

/-- A location is on the way of a path: some of the parts that the path begins with lead there. -/
def IsOnWay (fs : FileSystem) (here : Standpoint) (dir : String) (loc : Location) : Prop :=
  ∃ path, isAbsolute path = isAbsolute dir ∧ parts path <+: parts dir ∧
    fs.find? here path = .ok (loc, .directory)

/-- What is put into a file system for the sake of copies in a directory. -/
inductive PutFor (fs : FileSystem) (here : Standpoint) (dir : String) :
    Location → Entry → Prop where
  /-- A directory in that of a package. -/
  | inside {base : Location} {key : String} {names : List String}
      (hbase : fs.find? here dir = .ok (base, .directory)) (hkey : IsKey key)
      (hnames : ∀ n ∈ names, IsName n) : PutFor fs here dir (base ++ key :: names) .directory
  /-- A copy, in a directory of that of a package. -/
  | copy {base : Location} {key : String} {names : List String} {bytes : ByteArray}
      (hbase : fs.find? here dir = .ok (base, .directory)) (hkey : IsKey key)
      (hnames : ∀ n ∈ names, IsName n) (htwo : 2 ≤ names.length) :
      PutFor fs here dir (base ++ key :: names) (.file bytes)
  /-- The directory for copies, or one that its path comes by. -/
  | above {loc : Location} (hway : IsOnWay fs here dir loc) : PutFor fs here dir loc .directory

theorem PutFor.grown {P : Location → Entry → Prop} (h : PutFor mid here dir loc e)
    (hgrown : Grown P mid mid') : PutFor mid' here dir loc e := by
  cases h with
  | inside hbase hkey hnames => exact .inside (hgrown.find?_directory hbase) hkey hnames
  | copy hbase hkey hnames htwo => exact .copy (hgrown.find?_directory hbase) hkey hnames htwo
  | above hway =>
    obtain ⟨path, hroot, hparts, hfind⟩ := hway
    exact .above ⟨path, hroot, hparts, hgrown.find?_directory hfind⟩

/-- Since a file system was `fs`, only what copies need has been put into it. There are no links in
    the directory for copies, and it is there or its path does not lead up. -/
structure Spares (fs : FileSystem) (here : Standpoint) (dir : String) (mid : FileSystem) :
    Prop where
  stands : Stands mid here
  grown : Grown (PutFor mid here dir) fs mid
  links : ∀ base, mid.find? here dir = .ok (base, .directory) → LinkFree mid base
  free : (∃ found, mid.find? here dir = .ok found) ∨ ".." ∉ parts dir

/-- Something is found where something was found before. -/
theorem exists_found_of_grown {P : Location → Entry → Prop} {found : Location × Entry}
    (h : Stands mid here) (hgrown : Grown P mid mid') (hfound : mid.find? here path = .ok found) :
    ∃ found', mid'.find? here path = .ok found' := by
  obtain ⟨loc, _ | bytes | target⟩ := found
  · exact ⟨_, hgrown.find?_directory hfound⟩
  · -- The bytes of a file may be others.
    obtain ⟨b, hb⟩ := exists_find?_of_grown hgrown hfound
    exact ⟨_, hb⟩
  · obtain ⟨hresolve, hloc⟩ := FileSystem.find?_eq_ok_iff.mp hfound
    exact absurd hloc (h.not_link_of_resolve hresolve target)

namespace Spares

/-- At the start there are no links in the directory for copies, or it is lacking and its path does
    not lead up. -/
theorem start (hfs : Stands fs here)
    (hfree : (∃ found, fs.find? here dir = .ok found ∧ LinkFree fs found.1) ∨
      fs.exists? here dir = false ∧ ".." ∉ parts dir) : Spares fs here dir fs := by
  refine ⟨hfs, .same, fun base hbase => ?_, ?_⟩
  · rcases hfree with ⟨found, hfound, hlinks⟩ | ⟨hnone, -⟩
    · rw [hbase, Except.ok.injEq] at hfound
      rw [← hfound] at hlinks
      exact hlinks
    · rw [FileSystem.exists?_eq_true_iff.mpr ⟨_, hbase⟩] at hnone
      simp at hnone
  · rcases hfree with ⟨found, hfound, -⟩ | ⟨-, hup⟩
    · exact Or.inl ⟨found, hfound⟩
    · exact Or.inr hup

variable (h : Spares fs here dir mid)

include h

/-- In a directory for copies that was found before, no links are made. -/
theorem links_of_grown {P : Location → Entry → Prop} (hgrown : Grown P mid mid')
    (hbase : mid.find? here dir = .ok (base, .directory)) {base' : Location}
    (hbase' : mid'.find? here dir = .ok (base', .directory)) : LinkFree mid' base' := by
  rw [hgrown.find?_directory hbase, Except.ok.injEq] at hbase'
  obtain rfl := (Prod.mk.inj hbase').1
  exact fun ns t => hgrown.not_link (h.links _ hbase ns) t

/-- One more directory or copy. -/
theorem step (hstands : Stands mid' here) (hgrown : Grown (PutFor mid' here dir) mid mid')
    (hlinks : ∀ base, mid'.find? here dir = .ok (base, .directory) → LinkFree mid' base) :
    Spares fs here dir mid' := by
  -- What was put before was put where the same paths still lead.
  have hbefore : Grown (PutFor mid' here dir) fs mid :=
    h.grown.mono (fun _ _ hput => hput.grown hgrown)
  refine ⟨hstands, hbefore.trans hgrown, hlinks, ?_⟩
  rcases h.free with ⟨found, hfound⟩ | hup
  · exact Or.inl (exists_found_of_grown h.stands hgrown hfound)
  · exact Or.inr hup

/-- **Above.** A directory is made on the way of the path of the directory for copies. That one was
    not there then; if it is now, it is the new one. -/
theorem put_above (hroot : isAbsolute path = isAbsolute dir) (hparts : parts path <+: parts dir)
    (hloc : mid.resolve false here path = .ok loc) (hnone : mid.at? loc = none) :
    Spares fs here dir (mid.put loc .directory) := by
  have hstep : Grown (fun _ _ => True) mid (mid.put loc .directory) :=
    .directory .same hnone trivial
  have hstands : Stands (mid.put loc .directory) here :=
    h.stands.put (h.stands.placed_of_resolve hloc) (by simp [hnone])
  have hself : (mid.put loc .directory).at? loc = some .directory :=
    FileSystem.at?_put_self (FileSystem.ne_nil_of_at?_eq_none hnone)
  have hfind : (mid.put loc .directory).find? here path = .ok (loc, .directory) :=
    FileSystem.find?_eq_ok_iff.mpr ⟨hstep.resolve_eq (by simp [hnone]) hloc, hself⟩
  -- All parts but the last lead to where the directory is made, and the parts of the directory for
  -- copies begin with them.
  obtain ⟨ps, last, at_, hps, hlast, hleads, rfl⟩ :=
    FileSystem.exists_leads_of_missing h.stands hloc hnone
  obtain ⟨more, hmore⟩ := hparts
  rw [hps, List.append_assoc, List.singleton_append] at hmore
  rw [hroot] at hleads
  refine h.step hstands (.directory .same hnone (.above ⟨path, hroot, ?_, hfind⟩))
    (fun base hbase => ?_)
  · exact ⟨more, by rw [hps, ← hmore]; simp⟩
  rcases h.free with ⟨found, hfound⟩ | hup
  · -- Something is on the way of a path that is found.
    exact absurd hnone (hleads.at?_ne_none hlast hmore.symm hfound)
  · -- Otherwise the parts behind the new directory do not lead up, and it holds nothing.
    have hbehind := FileSystem.leads_of_find? hbase
    rw [← hmore] at hbehind hup
    refine hleads.linkFree_of_put hlast h.stands.files hnone (fun q hq => ⟨?_, ?_⟩) hbehind
    · have hmem : q ∈ Path.telling (Path.pieces dir) := by
        rw [← Path.parts_eq_telling, ← hmore]
        simp [hq]
      exact Path.isIdle_of_mem_telling hmem
    · rintro rfl
      exact hup (by simp [hq])

/-- All that lies outside of the directory for copies is what it was, apart from directories on the
    way there that were lacking. -/
theorem at?_eq_or (loc : Location) :
    mid.at? loc = fs.at? loc ∨
      (∃ base, mid.find? here dir = .ok (base, .directory) ∧ base <+: loc) ∨
      (fs.at? loc = none ∧ mid.at? loc = some .directory ∧ IsOnWay mid here dir loc) := by
  rcases h.grown.at?_eq_or loc with heq | ⟨e, he, hput⟩
  · exact Or.inl heq
  cases hput with
  | inside hbase _ _ => exact Or.inr (Or.inl ⟨_, hbase, List.prefix_append _ _⟩)
  | copy hbase _ _ _ => exact Or.inr (Or.inl ⟨_, hbase, List.prefix_append _ _⟩)
  | above hway =>
    -- Directories are made where nothing was, so nothing else can have turned into one.
    rcases hold : fs.at? loc with _ | _ | bytes | target
    · exact Or.inr (Or.inr ⟨rfl, he, hway⟩)
    · exact Or.inl he
    · obtain ⟨b, hb⟩ := h.grown.at?_file hold
      rw [he] at hb
      simp at hb
    · rw [h.grown.at?_link hold] at he
      simp at he

/-- A file is what it was, or it is a copy, in a directory of that of its package. -/
theorem file_eq_or {bytes : ByteArray} (hfile : mid.at? loc = some (.file bytes)) :
    fs.at? loc = some (.file bytes) ∨
      ∃ base key names, mid.find? here dir = .ok (base, .directory) ∧ IsKey key ∧
        2 ≤ names.length ∧ (∀ n ∈ names, IsName n) ∧ loc = base ++ key :: names := by
  rcases h.grown.at?_eq_or loc with heq | ⟨e, he, hput⟩
  · rw [← heq]
    exact Or.inl hfile
  obtain rfl : .file bytes = e := Option.some.inj (hfile.symm.trans he)
  -- Of all that is put for copies, only copies are files.
  cases hput with
  | copy hbase hkey hnames htwo => exact Or.inr ⟨_, _, _, hbase, hkey, htwo, hnames, rfl⟩

variable (hdir : dir ≠ "")

include hdir

/-- A path in the directory of a package leads into the directory for copies, which is there then and
    has no links that could lead out of it. -/
theorem exists_base (hkey : IsKey key) (hnames : ∀ n ∈ names, IsName n)
    (hloc : mid.resolve true here (Path.join dir (ofNames (key :: names))) = .ok loc) :
    ∃ base, mid.find? here dir = .ok (base, .directory) ∧ loc = base ++ key :: names := by
  have hall := hkey.isName_of_mem hnames
  obtain ⟨base, hbase⟩ :=
    FileSystem.exists_find?_of_resolve_join h.stands hdir (by simp) hall hloc
  exact ⟨base, hbase, (h.links base hbase).eq_of_resolve_join hbase (by simp) hall hloc⟩

/-- **Inside.** A directory is made in that of a package. -/
theorem put_inside (hkey : IsKey key) (hnames : ∀ n ∈ names, IsName n)
    (hloc : mid.resolve false here (Path.join dir (ofNames (key :: names))) = .ok loc)
    (hnone : mid.at? loc = none) : Spares fs here dir (mid.put loc .directory) := by
  have hstep : Grown (fun _ _ => True) mid (mid.put loc .directory) :=
    .directory .same hnone trivial
  have hstands : Stands (mid.put loc .directory) here :=
    h.stands.put (h.stands.placed_of_resolve hloc) (by simp [hnone])
  obtain ⟨base, hbase, rfl⟩ :=
    h.exists_base hdir hkey hnames (FileSystem.resolve_of_missing hloc hnone)
  refine h.step hstands (.directory .same hnone ?_)
    (fun base' hbase' => h.links_of_grown hstep hbase hbase')
  exact .inside (hstep.find?_directory hbase) hkey hnames

/-- **Copies.** The bytes of a file are put in the place of its copy. -/
theorem put_copy (hkey : IsKey key) (hnames : ∀ n ∈ names, IsName n)
    (htwo : 2 ≤ names.length) {bytes : ByteArray}
    (hloc : mid.resolve true here (Path.join dir (ofNames (key :: names))) = .ok loc)
    (hfile : mid.at? loc ≠ some .directory) :
    Spares fs here dir (mid.put loc (.file bytes)) := by
  have hold := h.stands.file_of_resolve hloc hfile
  have hstep : Grown (fun _ _ => True) mid (mid.put loc (.file bytes)) := .file .same hold trivial
  have hstands : Stands (mid.put loc (.file bytes)) here :=
    h.stands.put (h.stands.placed_of_resolve hloc) hfile
  obtain ⟨base, hbase, rfl⟩ := h.exists_base hdir hkey hnames hloc
  refine h.step hstands (.file .same hold ?_)
    (fun base' hbase' => h.links_of_grown hstep hbase hbase')
  exact .copy (hstep.find?_directory hbase) hkey hnames htwo

end Spares

/-! ### Copying -/

/-- The paths of directories that are made for copies: that of the directory for copies or one
    before it, and those of directories in that of a package. -/
def IsNeeded (dir path : String) : Prop :=
  (isAbsolute path = isAbsolute dir ∧ parts path <+: parts dir) ∨
    ∃ key names, IsKey key ∧ (∀ n ∈ names, IsName n) ∧ path = Path.join dir (ofNames (key :: names))

/-- What a needed directory has to lie in is needed as well. -/
theorem IsNeeded.head (hdir : dir ≠ "") (h : IsNeeded dir path)
    (hhead : (FileSystem.splitPath path).1 ≠ "") : IsNeeded dir (FileSystem.splitPath path).1 := by
  rcases h with ⟨hroot, hparts⟩ | ⟨key, names, hkey, hnames, rfl⟩
  · refine Or.inl ⟨(Path.isAbsolute_splitPath hhead).trans hroot, ?_⟩
    exact List.IsPrefix.trans ⟨_, (Path.parts_splitPath path).symm⟩ hparts
  have hall := hkey.isName_of_mem hnames
  rcases List.eq_nil_or_concat names with rfl | ⟨front, last, rfl⟩
  · -- Before the directory of a package stands the directory for copies.
    have hcut := Path.parts_splitPath (Path.join dir (ofNames [key]))
    have hlast : (FileSystem.splitPath (Path.join dir (ofNames [key]))).2 = key := by
      rw [show ofNames [key] = key by simp [ofNames], FileSystem.splitPath_join hdir hkey.isName]
    rw [Path.parts_join_ofNames hdir (by simp) hall, hlast, Path.telling_cons hkey.isName.1,
      Path.telling_nil] at hcut
    have hsame := List.append_cancel_right hcut
    refine Or.inl ⟨?_, ⟨[], by rw [List.append_nil, hsame]⟩⟩
    rw [Path.isAbsolute_splitPath hhead, Path.isAbsolute_join hdir (Path.isAbsolute_ofNames hall)]
  · have hfront : ∀ n ∈ front, IsName n := fun n hn => hnames n (by simp [hn])
    rw [List.concat_eq_append, ← List.cons_append, FileSystem.splitPath_join_concat dir (by simp)
      (hkey.isName_of_mem hfront) (hnames last (by simp))]
    exact Or.inr ⟨key, front, hkey, hfront, rfl⟩

namespace Spares

variable (hdir : dir ≠ "")

include hdir

/-- Making directories that copies need. -/
theorem maintains_makeDirectories (hpath : IsNeeded dir path) :
    Maintains (Spares fs here dir) (makeDirectories here path) := by
  refine FileSystem.maintains_makeDirectoriesUpTo (Q := IsNeeded dir)
    (fun _ _ _ hneeded hlacking => hneeded.head hdir hlacking.1) (fun q hneeded => ?_) _ _ hpath
  refine FileSystem.maintains_makeDirectory (fun mid loc h hloc hnone => ?_)
  rcases hneeded with ⟨hroot, hparts⟩ | ⟨key, names, hkey, hnames, rfl⟩
  · rw [← Path.isAbsolute_withoutSlashes] at hroot
    rw [← Path.parts_withoutSlashes] at hparts
    exact h.put_above hroot hparts hloc hnone
  · rw [FileSystem.withoutSlashes_join_ofNames dir (by simp) (hkey.isName_of_mem hnames)] at hloc
    exact h.put_inside hdir hkey hnames hloc hnone

/-- Copying a file that lies in a directory of its package. -/
theorem maintains_copyOne (source : String) (hkey : IsKey key) (htwo : 2 ≤ names.length)
    (hnames : ∀ n ∈ names, IsName n) :
    Maintains (Spares fs here dir) (copyOne here source (Path.join dir key) (ofNames names)) := by
  have hne : names ≠ [] := by
    rintro rfl
    simp at htwo
  obtain ⟨front, last, rfl⟩ : ∃ front last, names = front ++ [last] :=
    ⟨names.dropLast, names.getLast hne, (List.dropLast_concat_getLast hne).symm⟩
  have hfront : ∀ n ∈ front, IsName n := fun n hn => hnames n (by simp [hn])
  rw [copyOne_join_ofNames here source dir hkey.isName hfront (hnames last (by simp))]
  refine Maintains.bind ?_ (fun _ => ?_)
  · exact maintains_makeDirectories hdir (Or.inr ⟨key, front, hkey, hfront, rfl⟩)
  · exact FileSystem.maintains_copy (fun mid loc bytes h _ hloc hfile =>
      h.put_copy hdir hkey hnames htwo hloc hfile)

theorem maintains_copyAll (source : String) (hkey : IsKey key)
    (hfiles : ∀ f ∈ files, ∃ names,
      2 ≤ names.length ∧ (∀ n ∈ names, IsName n) ∧ f = ofNames names) :
    Maintains (Spares fs here dir) (copyAll here source (Path.join dir key) files) := by
  refine Docs.maintains_copyAll (fun f hf => ?_)
  obtain ⟨names, htwo, hnames, rfl⟩ := hfiles f hf
  exact maintains_copyOne hdir source hkey htwo hnames

/-- **One package**, of whatever name and version, from whatever directory. -/
theorem copyPackage {r r' : Replica} (h : Spares fs here dir mid) (hr : r.directory = dir)
    (hcopy : r.copyPackage mid here p = .ok (files, r', mid')) :
    Spares fs here dir mid' ∧ r'.directory = dir := by
  obtain ⟨key, hkey, ⟨-, rfl, rfl⟩ | ⟨-, hdocs, rfl, hbehind⟩⟩ := Replica.copyPackage_cases hcopy
  · exact ⟨h, hr⟩
  · refine ⟨?_, hr⟩
    rw [hbehind, hr]
    exact maintains_copyAll hdir p.directory (isKey_of_packageKey hkey)
      (fun f hf => two_le_of_mem_docsOf h.stands.files hdocs hf) mid h

theorem copyPackages (packages : List Package) (cached : Nat) {r : Replica}
    (h : Spares fs here dir mid) (hr : r.directory = dir) :
    Spares fs here dir (Replica.copyPackages here cached r mid packages).2.2 ∧
      (Replica.copyPackages here cached r mid packages).2.1.directory = dir :=
  Replica.copyPackages_induction (J := fun r mid => Spares fs here dir mid ∧ r.directory = dir)
    (fun _ _ _ _ _ _ _ hJ hcopy => hJ.1.copyPackage hdir hJ.2 hcopy) cached r mid ⟨h, hr⟩

/-- **All packages of a project**, whether they can be found or not. -/
theorem maintains_fill {r : Replica} (hr : r.directory = dir) (root : String) :
    Maintains (Spares fs here dir) (r.fill here root) := by
  have hmake : Maintains (Spares fs here dir) (makeDirectories here r.directory) := by
    rw [hr]
    exact maintains_makeDirectories hdir (Or.inl ⟨rfl, List.prefix_rfl⟩)
  unfold Replica.fill
  refine Maintains.bind hmake (fun _ => ?_)
  split
  · exact FileSystem.maintains_throw _
  · rename_i top _
    -- Packages are looked for once the directory for copies has been made.
    refine FileSystem.maintains_get_bind (fun mid h => ?_)
    rcases Package.scan mid here top "" with e | packages
    · exact h
    have hcopied := (h.copyPackages hdir packages 0 hr).1
    rcases hrun : Replica.copyPackages here 0 r mid packages with ⟨cached, r', mid'⟩
    rw [hrun] at hcopied
    simp only [hrun]
    exact hcopied

end Spares

end PackageAtlas.Docs
