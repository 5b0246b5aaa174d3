import Mathlib.Data.Set.Function
import PackageAtlas.Proofs.Docs.Reports
import PackageAtlas.Proofs.Package.Texts

namespace PackageAtlas.Docs

open FileSystem (Grown Stands behind makeDirectories outcome)
open PackageAtlas.Path (IsName)
open Text (WideText)

/-!
# Packages that share their documentation

Copies are kept apart by a digest of the name and the version of a package, which are run together:

* `eq_of_digestText`: a digest can be told from its digits;
* `runTogether`, `keyText`: the text that the digest is made of;
* `Entangled`: two packages of different names for which that text is the same;
* `same_or_entangled`: no others have the same key;
* `OwnDocs`: a file of documentation in the directory of a package, which stays one;
* `RemembersOwn`: what is remembered under a key are files of a package of that key;
* `docs_are_kept_apart_unless_entangled`: what is reported of the packages of a project.
-/

/-! ### Digests -/

theorem hexDigitChar_inj :
    ∀ m < 16, ∀ n < 16, Text.hexDigitChar m = Text.hexDigitChar n → m = n := by decide

/-- The last digits of a number are told by their text. -/
theorem mod_eq_of_hexTextAfter {width m n : Nat} {done done' : List Char}
    (hlength : done.length = done'.length)
    (h : Text.hexTextAfter done width m = Text.hexTextAfter done' width n) :
    m % 16 ^ width = n % 16 ^ width ∧ done = done' := by
  induction width generalizing m n done done' with
  | zero => exact ⟨by simp [Nat.mod_one], h⟩
  | succ width ih =>
    rw [Text.hexTextAfter, Text.hexTextAfter] at h
    obtain ⟨hrest, hdone⟩ := ih (by simp [hlength]) h
    obtain ⟨hdigit, rfl⟩ := List.cons.inj hdone
    have hlast := hexDigitChar_inj _ (Nat.mod_lt m (by omega)) _ (Nat.mod_lt n (by omega)) hdigit
    rw [Nat.pow_succ', Nat.mod_mul, Nat.mod_mul, hrest, hlast]
    exact ⟨rfl, rfl⟩

/-- A digest can be told from its digits. -/
theorem eq_of_digestText {a b : ByteArray} (h : Digest.digestText a = Digest.digestText b) :
    Digest.digest a = Digest.digest b := by
  unfold Digest.digestText Text.hexText at h
  have hdigits := congrArg String.toList h
  rw [String.toList_ofList, String.toList_ofList] at hdigits
  obtain ⟨hmod, -⟩ := mod_eq_of_hexTextAfter rfl hdigits
  have hall : ∀ d : UInt64, d.toNat % 16 ^ 16 = d.toNat := fun d => Nat.mod_eq_of_lt d.toNat_lt
  rw [hall, hall] at hmod
  exact UInt64.toNat_inj.mp hmod

/-! ### Keys -/

variable {fs fs' : FileSystem} {here : Standpoint} {p q : Package} {key f : String}
  {files : List String}

/-- Two texts with an at sign between them. -/
def runTogether (a b : WideText) : WideText := (a.append (.ofString "@")).append b

/-- The text that the digest of a package is made of. -/
def keyText (p : Package) : Except Text.UnwritableText String :=
  (runTogether p.name p.version).toString?

/-- The name of one of two packages is that of the other with an at sign and the first part of its
    version. -/
def Entangled (p q : Package) : Prop :=
  ∃ part, (p.name = runTogether q.name part ∧ q.version = runTogether part p.version) ∨
    (q.name = runTogether p.name part ∧ p.version = runTogether part q.version)

/-- Entangled packages have names of different lengths. -/
theorem Entangled.name_ne (h : Entangled p q) : p.name ≠ q.name := by
  have hlonger : ∀ a b part : WideText, a = runTogether b part → a ≠ b := by
    rintro a b part rfl heq
    have hlength := congrArg (fun t => t.codes.length) heq
    simp [runTogether, WideText.append, WideText.ofString] at hlength
  obtain ⟨part, ⟨hp, -⟩ | ⟨hq, -⟩⟩ := h
  · exact hlonger _ _ part hp
  · exact (hlonger _ _ part hq).symm

/-- Texts that are run together are told apart by the at sign between them, unless there is another
    one. -/
theorem runTogether_eq_iff {a b c d : WideText} :
    runTogether a b = runTogether c d ↔ (a = c ∧ b = d) ∨
      ∃ part, (a = runTogether c part ∧ d = runTogether part b) ∨
        (c = runTogether a part ∧ b = runTogether part d) := by
  have hcodes : ∀ x y : WideText, (runTogether x y).codes = x.codes ++ '@'.toNat :: y.codes := by
    intro x y
    simp [runTogether, WideText.append, WideText.ofString]
  have heq : ∀ x y : WideText, x = y ↔ x.codes = y.codes := by
    rintro ⟨x⟩ ⟨y⟩
    simp
  simp only [heq, hcodes]
  constructor
  · intro h
    -- One of the at signs stands first, unless they are one and the same.
    rcases List.append_eq_append_iff.mp h with ⟨more, hc, hb⟩ | ⟨more, ha, hd⟩
    · rcases more with _ | ⟨n, more⟩
      · simp at hb
        exact Or.inl ⟨by simpa using hc.symm, hb⟩
      · rw [List.cons_append, List.cons.injEq] at hb
        obtain ⟨rfl, hb⟩ := hb
        exact Or.inr ⟨⟨more⟩, Or.inr ⟨hc, hb⟩⟩
    · rcases more with _ | ⟨n, more⟩
      · simp at hd
        exact Or.inl ⟨by simpa using ha, hd.symm⟩
      · rw [List.cons_append, List.cons.injEq] at hd
        obtain ⟨rfl, hd⟩ := hd
        exact Or.inr ⟨⟨more⟩, Or.inl ⟨ha, hd⟩⟩
  · rintro (⟨ha, hb⟩ | ⟨part, ⟨ha, hd⟩ | ⟨hc, hb⟩⟩)
    · rw [ha, hb]
    · rw [ha, hd]
      simp
    · rw [hc, hb]
      simp

theorem packageKey_eq (p : Package) :
    packageKey p = (keyText p).map (fun text => Digest.digestText text.toUTF8) := by
  unfold packageKey keyText runTogether
  rcases WideText.toString? _ with e | text <;> rfl

/-- The bytes that the digests of some packages are made of. -/
def keyBytes (packages : List Package) : Set ByteArray :=
  {bytes | ∃ p ∈ packages, ∃ text, keyText p = .ok text ∧ bytes = text.toUTF8}

theorem packageKey_of_entangled (h : Entangled p q) : packageKey p = packageKey q := by
  rw [packageKey_eq, packageKey_eq, keyText, keyText, runTogether_eq_iff.mpr (Or.inr h)]

/-- **Keys are shared by entangled packages only**, where the digest tells the texts of packages
    apart. -/
theorem same_or_entangled {packages : List Package}
    (hdigest : Set.InjOn Digest.digest (keyBytes packages))
    (hcoded : ∀ p ∈ packages, p.name.IsCoded ∧ p.version.IsCoded)
    (hp : p ∈ packages) (hq : q ∈ packages) (hkey : packageKey p = .ok key)
    (hkey' : packageKey q = .ok key) :
    (p.name = q.name ∧ p.version = q.version) ∨ Entangled p q := by
  have hwritten : ∀ x : Package, packageKey x = .ok key →
      ∃ text, keyText x = .ok text ∧ Digest.digestText text.toUTF8 = key := by
    intro x hx
    rw [packageKey_eq] at hx
    rcases htext : keyText x with e | text
    · simp [htext, Except.map] at hx
    · rw [htext] at hx
      exact ⟨text, rfl, Except.ok.inj hx⟩
  obtain ⟨a, ha, hdigit⟩ := hwritten p hkey
  obtain ⟨b, hb, hdigit'⟩ := hwritten q hkey'
  -- The digests are the same, so the texts are, and only their at signs can be mistaken.
  have hbytes : a.toUTF8 = b.toUTF8 :=
    hdigest ⟨p, hp, a, ha, rfl⟩ ⟨q, hq, b, hb, rfl⟩ (eq_of_digestText (hdigit.trans hdigit'.symm))
  obtain rfl : a = b := String.toByteArray_inj.mp hbytes
  have hat := WideText.isCoded_ofString "@"
  exact runTogether_eq_iff.mp (WideText.eq_of_toString?
    (((hcoded p hp).1.append hat).append (hcoded p hp).2)
    (((hcoded q hq).1.append hat).append (hcoded q hq).2) ha hb)

/-! ### Files of packages -/

/-- A file of documentation lies in the directory of a package: names lead to it that are those of
    its path, the last of them is one that files of documentation have, and no directory is there,
    unless its name is longer than a name can be. -/
def OwnDocs (fs : FileSystem) (here : Standpoint) (p : Package) (f : String) : Prop :=
  ∃ loc names name e, fs.find? here p.directory = .ok (loc, .directory) ∧
    (∀ n ∈ names, IsName n) ∧ f = Path.ofNames names ∧ names.getLast? = some name ∧
    FileFilter.docs.rejectsFile name = false ∧ fs.at? (loc ++ names) = some e ∧
    (e = .directory → FileSystem.nameLimit < name.utf8ByteSize)

theorem ownDocs_of_mem_docsOf (hfs : fs.WellFormed) (h : Replica.docsOf fs here p = .ok files)
    (hf : f ∈ files) : OwnDocs fs here p f := by
  obtain ⟨found, hwalk, hmem⟩ := exists_walk_of_mem_docsOf h hf
  obtain ⟨loc, names, hloc, hnames, rfl⟩ :=
    FileSystem.exists_names_of_mem_walkFirst hwalk (mem_of_mem_selectDocs hmem)
  obtain ⟨-, hall⟩ := FileSystem.isName_of_mem_walkFrom hfs hnames
  obtain ⟨name, hlast, haccepted⟩ := FileSystem.rejectsFile_of_mem_walkFrom hfs hnames
  obtain ⟨e, he, hne⟩ := FileSystem.entry_of_mem_walkFrom hfs hnames
  exact ⟨loc, names, name, e, hloc, hall, rfl, hlast, haccepted, he, fun hdir => absurd hdir hne⟩

/-- More files elsewhere change nothing of it. -/
theorem OwnDocs.of_grown {P : Location → Entry → Prop} (h : OwnDocs fs here p f)
    (hgrown : Grown P fs fs') : OwnDocs fs' here p f := by
  obtain ⟨loc, names, name, e, hloc, hall, rfl, hlast, haccepted, he, hlong⟩ := h
  have hkept : ∃ e', fs'.at? (loc ++ names) = some e' ∧
      (e' = .directory → FileSystem.nameLimit < name.utf8ByteSize) := by
    cases e with
    | directory => exact ⟨_, hgrown.at?_directory he, hlong⟩
    | file bytes =>
      obtain ⟨b, hb⟩ := hgrown.at?_file he
      exact ⟨_, hb, by simp⟩
    | link target => exact ⟨_, hgrown.at?_link he, by simp⟩
  obtain ⟨e', he', hlong'⟩ := hkept
  exact ⟨loc, names, name, e', hgrown.find?_directory hloc, hall, rfl, hlast, haccepted, he',
    hlong'⟩

/-! ### What is remembered -/

/-- What is remembered under a key are files of a package of that key. -/
structure RemembersOwn (here : Standpoint) (dir : String) (packages : List Package) (r : Replica)
    (fs : FileSystem) : Prop where
  stands : Stands fs here
  directory : r.directory = dir
  own : ∀ key files, r.memo.lookup key = some files →
    ∃ q ∈ packages, packageKey q = .ok key ∧ ∀ f ∈ files, OwnDocs fs here q f

variable {dir : String} {packages : List Package} {r r' : Replica}

/-- **One package.** -/
theorem RemembersOwn.copyPackage (h : RemembersOwn here dir packages r fs) (hp : p ∈ packages)
    (hcopy : r.copyPackage fs here p = .ok (files, r', fs')) :
    RemembersOwn here dir packages r' fs' := by
  have hgrown : Grown (fun _ _ => True) fs fs' := by
    obtain ⟨key, -, ⟨-, -, rfl⟩ | ⟨-, -, -, rfl⟩⟩ := Replica.copyPackage_cases hcopy
    · exact .same
    · exact grown_of_copyAll h.stands rfl
  refine ⟨Replica.stands_of_copyPackage h.stands hcopy, ?_, fun key found hlook => ?_⟩
  · obtain ⟨key, -, ⟨-, rfl, -⟩ | ⟨-, -, rfl, -⟩⟩ := Replica.copyPackage_cases hcopy
    · exact h.directory
    · exact h.directory
  · rcases Replica.lookup_of_copyPackage hcopy hlook with hold | ⟨hkey, hdocs⟩
    · obtain ⟨q, hq, hkey, hown⟩ := h.own key found hold
      exact ⟨q, hq, hkey, fun f hf => (hown f hf).of_grown hgrown⟩
    · exact ⟨p, hp, hkey, fun f hf =>
        (ownDocs_of_mem_docsOf h.stands.files hdocs hf).of_grown hgrown⟩

/-- **All packages of a project**, one after another. -/
theorem RemembersOwn.copyPackages (hfs : Stands fs here) (dir : String) (packages : List Package) :
    RemembersOwn here dir packages
      (Replica.copyPackages here 0 (Replica.new dir) fs packages).2.1
      (Replica.copyPackages here 0 (Replica.new dir) fs packages).2.2 :=
  Replica.copyPackages_induction (J := RemembersOwn here dir packages)
    (fun _ _ _ _ _ _ hp hr hcopy => hr.copyPackage hp hcopy) 0 (Replica.new dir) fs
    ⟨hfs, rfl, fun key files h => by simp [Replica.new] at h⟩

/-! ### What is reported -/

theorem packageDirectory_eq_ok_iff {d : String} :
    r.packageDirectory p = .ok d ↔
      ∃ key, packageKey p = .ok key ∧ d = Path.join r.directory key := by
  unfold Replica.packageDirectory
  rcases packageKey p with e | key
  · simp [bind, Except.bind]
  · simp [bind, Except.bind, pure, Except.pure, eq_comm]

/-- Directories for copies are different where keys are. -/
theorem key_eq_of_join {base key' : String} (hkey : packageKey p = .ok key)
    (hkey' : packageKey q = .ok key') (h : Path.join base key = Path.join base key') :
    key = key' := by
  rw [Path.join_eq_stem_append base (isName_of_packageKey hkey).isAbsolute_eq,
    Path.join_eq_stem_append base (isName_of_packageKey hkey').isAbsolute_eq] at h
  exact (String.append_right_inj _).mp h

/-- **Documentation is kept apart unless packages are entangled.** Where the digest tells the texts of
    the packages of a project apart, two of them have the same directory for copies if and only if
    they are one package or are entangled. When all of them have been copied to a new replica, the
    files that are reported of a package lie in its own directory, or in that of a package that it
    is entangled with. -/
theorem docs_are_kept_apart_unless_entangled {fs fs' : FileSystem} {here : Standpoint}
    {dir root top : String} {summary : Summary} {r : Replica} (hfs : Stands fs here)
    (htop : here.absolute root = .ok top)
    (hfill : outcome ((Replica.new dir).fill here root) fs = (.ok (summary, r), fs'))
    {packages : List Package}
    (hscan : Package.scan (behind (makeDirectories here dir) fs) here top "" = .ok packages)
    (hdigest : Set.InjOn Digest.digest (keyBytes packages)) :
    (∀ p ∈ packages, ∀ q ∈ packages, ∀ d, r.packageDirectory p = .ok d →
      (r.packageDirectory q = .ok d ↔ p = q ∨ Entangled p q)) ∧
    ∀ p ∈ packages, ∀ files, r.docs p = .ok files → ∀ f ∈ files,
      OwnDocs fs' here p f ∨ ∃ q ∈ packages, Entangled p q ∧ OwnDocs fs' here q f := by
  have hmade : Stands (behind (makeDirectories here dir) fs) here :=
    FileSystem.sound_makeDirectories fs hfs
  -- Names tell the packages of a project apart.
  have hshared : ∀ p ∈ packages, ∀ q ∈ packages, ∀ key,
      packageKey p = .ok key → packageKey q = .ok key → p = q ∨ Entangled p q := by
    intro p hp q hq key hkey hkey'
    refine (same_or_entangled hdigest
      (fun x hx => (Package.isListed_of_mem_scan hscan hx).isCoded hmade.files)
      hp hq hkey hkey').imp_left (fun hsame => ?_)
    exact (Package.isListed_of_mem_scan hscan hp).eq_of_name
      (Package.isListed_of_mem_scan hscan hq) hsame.1
  obtain ⟨top', packages', htop', hscan', hr, hfs'⟩ := Replica.fill_cases hfill
  obtain rfl : top = top' := Except.ok.inj (htop.symm.trans htop')
  rw [show (Replica.new dir).directory = dir from rfl] at hscan' hr hfs'
  obtain rfl : packages = packages' := Except.ok.inj (hscan.symm.trans hscan')
  have hown := RemembersOwn.copyPackages hmade dir packages
  rw [← hr, ← hfs'] at hown
  refine ⟨fun p hp q hq d hd => ?_, fun p hp files hfiles f hf => ?_⟩
  · obtain ⟨key, hkey, rfl⟩ := packageDirectory_eq_ok_iff.mp hd
    constructor
    · intro hd'
      obtain ⟨key', hkey', heq⟩ := packageDirectory_eq_ok_iff.mp hd'
      obtain rfl := key_eq_of_join hkey hkey' heq
      exact hshared p hp q hq key hkey hkey'
    · rintro (rfl | hentangled)
      · exact hd
      · rw [packageKey_of_entangled hentangled] at hkey
        exact packageDirectory_eq_ok_iff.mpr ⟨key, hkey, rfl⟩
  · unfold Replica.docs at hfiles
    obtain ⟨key, hkey, hfiles⟩ := bind_eq_ok_iff.mp hfiles
    obtain rfl : (r.memo.lookup key).getD [] = files := Except.ok.inj hfiles
    rcases hlook : r.memo.lookup key with _ | found
    · simp [hlook] at hf
    · rw [hlook, Option.getD_some] at hf
      obtain ⟨q, hq, hkey', hdocs⟩ := hown.own key found hlook
      rcases hshared p hp q hq key hkey hkey' with rfl | hentangled
      · exact Or.inl (hdocs f hf)
      · exact Or.inr ⟨q, hq, hentangled, hdocs f hf⟩

/-! ### Packages with at signs in their texts -/

/-- A project with two packages, one of them with documentation. The version of the other is
    given. -/
def signedFiles (version : String) : FileSystem :=
  ⟨[(["W"], .directory),
    (["W", "package.json"], .file "\x7b\x7d".toUTF8),
    (["W", "node_modules"], .directory),
    (["W", "node_modules", "a"], .directory),
    (["W", "node_modules", "a", "package.json"],
      .file "\x7b\"name\": \"a\", \"version\": \"1@2\"\x7d".toUTF8),
    (["W", "node_modules", "a", "d"], .directory),
    (["W", "node_modules", "a", "d", "x.md"], .file "text\n".toUTF8),
    (["W", "node_modules", "b"], .directory),
    (["W", "node_modules", "b", "package.json"],
      .file ("\x7b\"name\": \"a@1\", \"version\": \"" ++ version ++ "\"\x7d").toUTF8)]⟩

/-- The packages in the project. -/
def signedPackages (version : String) : Package × Package :=
  (⟨.ofString "a", .ofString "1@2", "/W/node_modules/a"⟩,
    ⟨.ofString "a@1", .ofString version, "/W/node_modules/b"⟩)

/-- Where one stands in the project. -/
def signedHere : Standpoint := FileSystem.standing ["W"]

theorem stands_signed : Stands (signedFiles "3") signedHere ∧ Stands (signedFiles "2") signedHere :=
  ⟨⟨by decide, by decide, by decide⟩,
    ⟨by decide, by decide, by decide⟩⟩

/-- The digest tells the texts of the two packages apart where they are different. -/
theorem injOn_digest_signed :
    Set.InjOn Digest.digest (keyBytes [(signedPackages "3").1, (signedPackages "3").2]) := by
  have hbytes : ∀ x ∈ keyBytes [(signedPackages "3").1, (signedPackages "3").2],
      x = "a@1@2".toUTF8 ∨ x = "a@1@3".toUTF8 := by
    rintro x ⟨p, hp, text, htext, rfl⟩
    rcases List.mem_pair.mp hp with rfl | rfl
    · rw [show keyText (signedPackages "3").1 = .ok "a@1@2" by decide +kernel] at htext
      exact Or.inl (congrArg String.toUTF8 (Except.ok.inj htext).symm)
    · rw [show keyText (signedPackages "3").2 = .ok "a@1@3" by decide +kernel] at htext
      exact Or.inr (congrArg String.toUTF8 (Except.ok.inj htext).symm)
  have hdifferent : Digest.digest "a@1@2".toUTF8 ≠ Digest.digest "a@1@3".toUTF8 := by
    decide +kernel
  intro x hx y hy heq
  rcases hbytes x hx with rfl | rfl <;> rcases hbytes y hy with rfl | rfl
  · rfl
  · exact absurd heq hdifferent
  · exact absurd heq.symm hdifferent
  · rfl

/-- The replica of the project when it has been filled, where the packages are not entangled. -/
def signedReplica : Replica :=
  ⟨"/W/c", [("78a8f387e433c20d", ["d/x.md"]), ("b5c8a6ac60e7d474", [])]⟩

theorem exists_fill_signed :
    ∃ fs', outcome ((Replica.new "/W/c").fill signedHere "/W") (signedFiles "3") =
      (.ok (⟨2, 1⟩, signedReplica), fs') := by
  have hfill : (outcome ((Replica.new "/W/c").fill signedHere "/W") (signedFiles "3")).1 =
      .ok (⟨2, 1⟩, signedReplica) := by decide +kernel
  rcases hrun : outcome ((Replica.new "/W/c").fill signedHere "/W") (signedFiles "3") with
    ⟨result, fs'⟩
  rw [hrun] at hfill
  exact ⟨fs', congrArg (·, fs') hfill⟩

/-- Packages with at signs in their texts that are not entangled: each has its own directory for
    copies, and what is reported of the first lies in its own directory. -/
theorem docs_are_kept_apart_signed :
    signedReplica.packageDirectory (signedPackages "3").1 ≠
      signedReplica.packageDirectory (signedPackages "3").2 ∧
    signedReplica.docs (signedPackages "3").1 = .ok ["d/x.md"] ∧
    ∃ fs', outcome ((Replica.new "/W/c").fill signedHere "/W") (signedFiles "3") =
        (.ok (⟨2, 1⟩, signedReplica), fs') ∧
      OwnDocs fs' signedHere (signedPackages "3").1 "d/x.md" := by
  have htop : signedHere.absolute "/W" = .ok "/W" := by decide +kernel
  have hscan : Package.scan (behind (makeDirectories signedHere "/W/c") (signedFiles "3"))
      signedHere "/W" "" = .ok [(signedPackages "3").1, (signedPackages "3").2] := by
    decide +kernel
  have hkeys : packageKey (signedPackages "3").1 ≠ packageKey (signedPackages "3").2 := by
    decide +kernel
  have hdocs : signedReplica.docs (signedPackages "3").1 = .ok ["d/x.md"] := by decide +kernel
  have hfirst : signedReplica.packageDirectory (signedPackages "3").1 =
      .ok "/W/c/78a8f387e433c20d" := by decide +kernel
  obtain ⟨fs', hfill⟩ := exists_fill_signed
  obtain ⟨hdirectories, hown⟩ := docs_are_kept_apart_unless_entangled stands_signed.1 htop hfill
    hscan injOn_digest_signed
  have hp : (signedPackages "3").1 ∈ [(signedPackages "3").1, (signedPackages "3").2] :=
    List.mem_cons_self
  have hq : (signedPackages "3").2 ∈ [(signedPackages "3").1, (signedPackages "3").2] :=
    List.mem_cons_of_mem _ List.mem_cons_self
  have hentangled : ∀ x ∈ [(signedPackages "3").1, (signedPackages "3").2],
      ¬ Entangled (signedPackages "3").1 x := by
    intro x hx h
    rcases List.mem_pair.mp hx with heq | heq
    · exact h.name_ne (congrArg Package.name heq.symm)
    · exact hkeys (heq ▸ packageKey_of_entangled h)
  refine ⟨fun hsame => ?_, hdocs, fs', hfill, ?_⟩
  · rcases (hdirectories _ hp _ hq _ hfirst).mp (hsame.symm.trans hfirst) with heq | h
    · exact hkeys (congrArg packageKey heq)
    · exact hentangled _ hq h
  · rcases hown _ hp _ hdocs "d/x.md" (List.mem_singleton.mpr rfl) with h | ⟨x, hx, h, -⟩
    · exact h
    · exact absurd h (hentangled x hx)

/-- **Documentation of another package.** The name and the version of one package run together to
    the same text as those of another. So both have the same directory for copies, and a file of the
    one is reported of the other, which has no such file. -/
theorem docs_of_entangled_package :
    let packages := signedPackages "2"
    let filled := outcome ((Replica.new "/W/c").fill signedHere "/W") (signedFiles "2")
    Stands (signedFiles "2") signedHere ∧
    Package.scan (behind (makeDirectories signedHere "/W/c") (signedFiles "2")) signedHere "/W" "" =
      .ok [packages.1, packages.2] ∧
    packages.1 ≠ packages.2 ∧
    ∃ r, filled.1 = .ok (⟨2, 2⟩, r) ∧ r.packageDirectory packages.1 = r.packageDirectory packages.2 ∧
      r.docs packages.2 = .ok ["d/x.md"] ∧
      filled.2.exists? signedHere "/W/node_modules/b/d/x.md" = false := by
  have hfilled :
      (outcome ((Replica.new "/W/c").fill signedHere "/W") (signedFiles "2")).1 =
        .ok (⟨2, 2⟩, ⟨"/W/c", [("78a8f387e433c20d", ["d/x.md"])]⟩) ∧
      (outcome ((Replica.new "/W/c").fill signedHere "/W") (signedFiles "2")).2.exists? signedHere
        "/W/node_modules/b/d/x.md" = false := by
    decide +kernel
  exact ⟨stands_signed.2, by decide +kernel, by decide +kernel, _, hfilled.1, by decide +kernel,
    by decide +kernel, hfilled.2⟩

end PackageAtlas.Docs
