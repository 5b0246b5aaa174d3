import PackageAtlas.Proofs.FileSystem.Frame
import PackageAtlas.Proofs.FileSystem.Growth
import PackageAtlas.Proofs.Path.Normal

namespace PackageAtlas.FileSystem

open PackageAtlas.Path (IsName dropSlashes isAbsolute isIdle ofNames pieces stem)

/-!
# Inside of a directory

What is made inside of a directory without links stays inside:

* `find?_directory_iff`: a path leads to a directory if its pieces enter it, from wherever they are
  taken;
* `find?_append_slash`, `find?_parent_join`: slashes at the end of a path change nothing;
* `LinkFree`, `LinkFree.eq_of_resolve_join`: names lead from a directory without links to where they
  say;
* `LinkFree.exists_prefix_of_passes`: and they come by nothing else;
* `splitPath_join`, `split_join_concat`: what such a path lies below;
* `maintains_makeDirectories_inside`: making directories inside of a directory makes them there.
-/

variable {fs : FileSystem} {here : Standpoint} {base loc : Location} {dir path : String}
  {ps qs ns : List String}

/-! ### Where paths start -/

/-- A path leads to a directory if its pieces enter it. -/
theorem find?_directory_iff :
    fs.find? here path = .ok (loc, .directory) ↔
      path ≠ "" ∧ Char.ofNat 0 ∉ path.toList ∧ fs.at? loc = some .directory ∧
        ∃ start qs n, start? here path = .ok (start, qs) ∧ n ≤ linkLimit ∧
          Enters fs start qs loc n := by
  rw [find?_eq_ok_iff, resolve_eq_ok_iff_start?]
  constructor
  · rintro ⟨⟨hne, hnull, start, qs, hstart, h⟩, hloc⟩
    rw [← List.append_nil qs] at h
    obtain ⟨mid, n, left, hmid, hlinks, hleft⟩ := exists_enters h (Or.inr hloc)
    rw [resolveFrom_nil, Except.ok.injEq] at hleft
    subst hleft
    exact ⟨hne, hnull, hloc, start, qs, n, hstart, by omega, hmid⟩
  · rintro ⟨hne, hnull, hloc, start, qs, n, hstart, hn, henters⟩
    refine ⟨⟨hne, hnull, start, qs, hstart, ?_⟩, hloc⟩
    have hway := henters.resolveFrom_append (linkLimit - n) []
    rw [List.append_nil, resolveFrom_nil, Nat.sub_add_cancel hn] at hway
    exact hway

/-! ### Slashes and names at the end -/

theorem isAbsolute_append (hpath : path ≠ "") (text : String) :
    isAbsolute (path ++ text) = isAbsolute path := by
  obtain ⟨c, cs, hc⟩ := List.exists_cons_of_ne_nil (mt String.toList_eq_nil_iff.mp hpath)
  rw [isAbsolute, isAbsolute, String.toList_append, hc]
  rfl

theorem pieces_append_slash_empty (path : String) : pieces (path ++ "/") = pieces path ++ [""] := by
  simpa using Path.pieces_append_slash path ""

/-- A slash at the end of a path changes nothing for a directory. -/
theorem find?_append_slash (hpath : path ≠ "") :
    fs.find? here (path ++ "/") = .ok (loc, .directory) ↔
      fs.find? here path = .ok (loc, .directory) := by
  have hnull : Char.ofNat 0 ∉ (path ++ "/").toList ↔ Char.ofNat 0 ∉ path.toList := by
    rw [String.toList_append, List.mem_append]
    constructor
    · exact fun h hmem => h (Or.inl hmem)
    · rintro h (hmem | hmem)
      · exact h hmem
      · exact absurd hmem (by decide)
  -- The slash makes an empty piece at the end, and one stays where one is.
  rw [find?_directory_iff, find?_directory_iff, hnull]
  simp only [start?_eq_begin?]
  rw [isAbsolute_append hpath, pieces_append_slash_empty]
  constructor
  · rintro ⟨-, hclean, hloc, start, qs, n, hbegin, hn, henters⟩
    obtain ⟨front, hfront, rfl⟩ := begin?_of_concat_empty hbegin
    exact ⟨hpath, hclean, hloc, start, front, n, hfront, hn, henters.of_concat_empty⟩
  · rintro ⟨-, hclean, hloc, start, qs, n, hbegin, hn, henters⟩
    exact ⟨by simp, hclean, hloc, start, qs ++ [""], n, begin?_append hbegin [""], hn,
      henters.concat_empty⟩

/-- A path leads to a directory with or without the slash that divides it from what lies below
    it. -/
theorem find?_stem (hfind : fs.find? here dir = .ok (loc, .directory)) :
    fs.find? here (stem dir) = .ok (loc, .directory) := by
  have hne := (find?_directory_iff.mp hfind).1
  unfold stem
  split
  · exact hfind
  · exact (find?_append_slash hne).mpr hfind

/-- All slashes at the end of a path can be left out. -/
theorem find?_dropSlashes {cs : List Char} (hcs : dropSlashes cs ≠ [])
    (hfind : fs.find? here (String.ofList cs) = .ok (loc, .directory)) :
    fs.find? here (String.ofList (dropSlashes cs)) = .ok (loc, .directory) := by
  induction cs using List.reverseRecOn with
  | nil => exact absurd rfl hcs
  | append_singleton front c ih =>
    by_cases hc : c = '/'
    · subst hc
      have hdrop : dropSlashes (front ++ ['/']) = dropSlashes front := by simp [dropSlashes]
      rw [hdrop] at hcs ⊢
      have hfront : String.ofList front ≠ "" := by
        intro hempty
        have hnil : front = [] := by simpa using congrArg String.toList hempty
        subst hnil
        exact hcs rfl
      -- One slash is left out, and the others by induction.
      apply ih hcs
      rw [← find?_append_slash hfront]
      rw [show String.ofList front ++ "/" = String.ofList (front ++ ['/']) by
        rw [← String.toList_inj]; simp]
      exact hfind
    · have hdrop : dropSlashes (front ++ [c]) = front ++ [c] := by simp [dropSlashes, hc]
      rw [hdrop]
      exact hfind

/-- A path to an entry of a directory is that of the directory, a slash and the name. -/
theorem toList_join_name {name : String} (hdir : dir ≠ "") (hname : IsName name) :
    (Path.join dir name).toList = (stem dir).toList ++ name.toList ∧
      (stem dir).toList.getLast? = some '/' := by
  obtain ⟨front, hstem, -⟩ := Path.exists_stem_eq hdir
  constructor
  · rw [Path.join_eq_stem_append dir hname.isAbsolute_eq, String.toList_append]
  · rw [hstem, String.toList_append]
    simp

/-- What a path to an entry of a directory lies below is the directory. -/
theorem find?_parent_join {name : String} (hname : IsName name)
    (hfind : fs.find? here dir = .ok (loc, .directory)) :
    fs.find? here (Path.parent (Path.join dir name)) = .ok (loc, .directory) := by
  obtain ⟨htext, hlast⟩ := toList_join_name (find?_directory_iff.mp hfind).1 hname
  rw [Path.parent_append hname.2.2 hlast htext]
  have hstemFind : fs.find? here (String.ofList (stem dir).toList) = .ok (loc, .directory) := by
    rw [String.ofList_toList]
    exact find?_stem hfind
  split
  · exact hstemFind
  · rename_i hdrop
    exact find?_dropSlashes (by simpa using hdrop) hstemFind

/-! ### Without links -/

/-- There are no links inside of a directory, and it is none itself. -/
def LinkFree (fs : FileSystem) (base : Location) : Prop :=
  ∀ ns t, fs.at? (base ++ ns) ≠ some (.link t)

theorem LinkFree.concat (hbase : LinkFree fs base) (name : String) :
    LinkFree fs (base ++ [name]) := by
  intro ns t
  rw [List.append_assoc]
  exact hbase ([name] ++ ns) t

/-- Names lead from a directory without links to where they say. -/
theorem LinkFree.eq_of_follows {follow : Bool} {links : Nat} (hbase : LinkFree fs base)
    (hns : ∀ n ∈ ns, IsName n) (h : Follows fs follow links base ns loc) : loc = base ++ ns := by
  induction h with
  | here => rw [List.append_nil]
  | idle hidle _ _ =>
    rw [(hns _ List.mem_cons_self).1] at hidle
    simp at hidle
  | up _ _ => exact absurd rfl (hns _ List.mem_cons_self).2.1
  | last _ _ => rfl
  | directory _ _ _ ih =>
    rw [ih (hbase.concat _) (List.forall_mem_cons.mp hns).2, List.append_assoc]
    rfl
  | link _ hentry _ _ _ => exact absurd hentry (hbase [_] _)

/-- Without links, the way of names comes by nothing but what they say. -/
theorem LinkFree.exists_prefix_of_passes (hbase : LinkFree fs base)
    (hps : ∀ p ∈ ps, isIdle p = false → IsName p) (h : Passes fs base ps loc) :
    ∃ front, front <+: ps.filter (fun p => !isIdle p) ∧ loc = base ++ front := by
  -- Every step but the idle ones goes on to the next name.
  induction h with
  | here dir ps => exact ⟨[], List.nil_prefix, by simp⟩
  | @entry dir piece rest hstep =>
    refine ⟨[piece], ?_, rfl⟩
    rw [List.filter_cons_of_pos (by simp [hstep.1])]
    exact List.cons_prefix_cons.mpr ⟨rfl, List.nil_prefix⟩
  | @idle dir loc piece rest hidle _ ih =>
    rw [List.filter_cons_of_neg (by simp [hidle])]
    exact ih hbase (fun p hp => hps p (List.mem_cons_of_mem piece hp))
  | up _ _ => exact absurd rfl (hps ".." List.mem_cons_self (by decide)).2.1
  | @directory dir loc piece rest hstep _ _ ih =>
    obtain ⟨front, hfront, rfl⟩ :=
      ih (hbase.concat piece) (fun p hp => hps p (List.mem_cons_of_mem piece hp))
    refine ⟨piece :: front, ?_, by simp⟩
    rw [List.filter_cons_of_pos (by simp [hstep.1])]
    exact List.cons_prefix_cons.mpr ⟨rfl, hfront⟩
  | @link dir loc piece target rest _ hentry _ _ => exact absurd hentry (hbase [piece] target)

section Join

variable (hfind : fs.find? here dir = .ok (base, .directory)) (hne : ns ≠ [])
  (hns : ∀ n ∈ ns, IsName n)

include hfind hne hns

/-- A path below a directory without links leads to where its names say. -/
theorem LinkFree.eq_of_resolve_join (hbase : LinkFree fs base)
    (h : fs.resolve true here (Path.join dir (ofNames ns)) = .ok loc) : loc = base ++ ns := by
  have hdir := (find?_directory_iff.mp hfind).1
  have hrel := Path.isAbsolute_ofNames hns
  obtain ⟨-, -, -, start, qs, n, hstart, hn, henters⟩ := find?_directory_iff.mp hfind
  obtain ⟨-, -, start', qs', hstart', h⟩ := resolve_eq_ok_iff_start?.mp h
  obtain ⟨front, hpieces, hfront⟩ := Path.pieces_join hdir hrel
  rw [Path.pieces_ofNames hne (fun n hn => (hns n hn).2.2)] at hpieces
  -- The way starts where that of the directory starts, and enters the directory.
  obtain ⟨way, rfl, rfl, hway⟩ : ∃ way, start' = start ∧ qs' = way ++ ns ∧
      Enters fs start way base n := by
    rw [start?_eq_begin?, Path.isAbsolute_join hdir hrel, hpieces] at hstart'
    rw [start?_eq_begin?] at hstart
    rcases hfront with hfront | hfront
    · rw [hfront] at hstart
      rw [begin?_append hstart ns] at hstart'
      obtain ⟨rfl, rfl⟩ := Prod.mk.inj (Except.ok.inj hstart')
      exact ⟨qs, rfl, rfl, henters⟩
    · rw [hfront] at hstart
      obtain ⟨way, hway, rfl⟩ := begin?_of_concat_empty hstart
      rw [begin?_append hway ns] at hstart'
      obtain ⟨rfl, rfl⟩ := Prod.mk.inj (Except.ok.inj hstart')
      exact ⟨way, rfl, rfl, henters.of_concat_empty⟩
  rw [← Nat.sub_add_cancel hn, hway.resolveFrom_append] at h
  exact hbase.eq_of_follows hns (follows_of_resolveFrom h)

end Join

/-- What a path below a directory is made of. -/
theorem toList_join_ofNames (dir : String) (hns : ∀ n ∈ ns, IsName n) :
    (Path.join dir (ofNames ns)).toList = (stem dir).toList ++ (ofNames ns).toList := by
  rw [Path.join_eq_stem_append dir (Path.isAbsolute_ofNames hns), String.toList_append]

/-- A path below a directory does not end with a slash. -/
theorem getLast?_join_ofNames (dir : String) (hne : ns ≠ []) (hns : ∀ n ∈ ns, IsName n) :
    ∃ c, (Path.join dir (ofNames ns)).toList.getLast? = some c ∧ c ≠ '/' := by
  obtain ⟨c, hc, hslash⟩ := Path.getLast?_ofNames hne hns
  refine ⟨c, ?_, hslash⟩
  rw [toList_join_ofNames dir hns, List.getLast?_append, hc, Option.some_or]

theorem withoutSlashes_join_ofNames (dir : String) (hne : ns ≠ []) (hns : ∀ n ∈ ns, IsName n) :
    withoutSlashes (Path.join dir (ofNames ns)) = Path.join dir (ofNames ns) := by
  obtain ⟨c, hlast, hslash⟩ := getLast?_join_ofNames dir hne hns
  obtain ⟨front, hfront⟩ := List.getLast?_eq_some_iff.mp hlast
  have hdrop : dropSlashes (Path.join dir (ofNames ns)).toList =
      (Path.join dir (ofNames ns)).toList := by
    rw [hfront]
    simp [dropSlashes, hslash]
  unfold withoutSlashes
  simp only [hdrop, String.ofList_toList, ite_self]

/-- A path to an entry of a directory is cut before the name of the entry. -/
theorem splitPath_join {name : String} (hdir : dir ≠ "") (hname : IsName name) :
    splitPath (Path.join dir name) = (Path.parent (Path.join dir name), name) := by
  obtain ⟨htext, hlast⟩ := toList_join_name hdir hname
  have hempty : name.isEmpty = false := by simpa using hname.ne_empty
  unfold splitPath Path.parent
  rw [Path.split_append hname.2.2 hlast htext]
  simp [hempty]

/-- A path below a directory is cut before its last name, if that is not the only one. -/
theorem split_join_concat (dir : String) {name : String} (hne : ns ≠ []) (hns : ∀ n ∈ ns, IsName n)
    (hname : IsName name) :
    Path.split (Path.join dir (ofNames (ns ++ [name]))) = (Path.join dir (ofNames ns), name) := by
  obtain ⟨c, hlast, hslash⟩ := getLast?_join_ofNames dir hne hns
  have hsome : (Path.join dir (ofNames ns)).toList.isEmpty = false := by
    rw [List.isEmpty_eq_false_iff]
    intro hnil
    rw [hnil] at hlast
    simp at hlast
  have htext : (Path.join dir (ofNames (ns ++ [name]))).toList =
      ((Path.join dir (ofNames ns)).toList ++ ['/']) ++ name.toList := by
    rw [toList_join_ofNames dir (Path.isName_of_mem_concat hns hname), toList_join_ofNames dir hns,
      Path.ofNames_concat hne]
    simp [String.toList_append]
  rw [Path.split_append hname.2.2 (by simp) htext, Path.dropSlashes_concat hlast hslash, hsome]
  simp [String.ofList_toList]

theorem parent_join_concat (dir : String) {name : String} (hne : ns ≠ []) (hns : ∀ n ∈ ns, IsName n)
    (hname : IsName name) :
    Path.parent (Path.join dir (ofNames (ns ++ [name]))) = Path.join dir (ofNames ns) := by
  rw [Path.parent, split_join_concat dir hne hns hname]

theorem splitPath_join_concat (dir : String) {name : String} (hne : ns ≠ [])
    (hns : ∀ n ∈ ns, IsName n) (hname : IsName name) :
    splitPath (Path.join dir (ofNames (ns ++ [name]))) = (Path.join dir (ofNames ns), name) := by
  have hempty : name.isEmpty = false := by simpa using hname.ne_empty
  unfold splitPath
  rw [split_join_concat dir hne hns hname]
  simp [hempty]

/-! ### Directories that are made inside -/

/-- **Inside.** Making directories below a directory without links makes them there: whatever a
    change keeps that puts one where the names say, is kept. -/
theorem maintains_makeDirectories_inside {I : FileSystem → Prop}
    (hfind : ∀ fs, I fs → fs.find? here dir = .ok (base, .directory))
    (hfree : ∀ fs, I fs → LinkFree fs base)
    (hput : ∀ fs ns, I fs → ns ≠ [] → fs.at? (base ++ ns) = none →
      I (fs.put (base ++ ns) .directory))
    (hne : ns ≠ []) (hns : ∀ n ∈ ns, IsName n) :
    Maintains I (makeDirectories here (Path.join dir (ofNames ns))) := by
  let Q : String → Prop := fun path =>
    ∃ ns, ns ≠ [] ∧ (∀ n ∈ ns, IsName n) ∧ path = Path.join dir (ofNames ns)
  unfold makeDirectories
  refine maintains_makeDirectoriesUpTo (Q := Q) ?_ ?_ _ _ ⟨ns, hne, hns, rfl⟩
  · rintro fs path hI ⟨ms, hms, hnames, rfl⟩ ⟨-, -, hlacking⟩
    obtain ⟨front, name, rfl⟩ : ∃ front name, ms = front ++ [name] :=
      ⟨ms.dropLast, ms.getLast hms, (List.dropLast_concat_getLast hms).symm⟩
    have hname := hnames name (by simp)
    have hfront : ∀ n ∈ front, IsName n := fun n hn => hnames n (by simp [hn])
    by_cases hnil : front = []
    · -- The directory itself is there.
      subst hnil
      have hdir := (find?_directory_iff.mp (hfind fs hI)).1
      have hone : ofNames ([] ++ [name]) = name := by simp [ofNames]
      have hthere : fs.exists? here (Path.parent (Path.join dir name)) = true :=
        exists?_eq_true_iff.mpr ⟨_, find?_parent_join hname (hfind fs hI)⟩
      rw [hone, splitPath_join hdir hname, hthere] at hlacking
      exact absurd hlacking (by decide)
    · rw [splitPath_join_concat dir hnil hfront hname]
      exact ⟨front, hnil, hfront, rfl⟩
  · rintro path ⟨ms, hms, hnames, rfl⟩
    refine maintains_makeDirectory (fun fs loc hI hloc hnone => ?_)
    rw [withoutSlashes_join_ofNames dir hms hnames] at hloc
    obtain rfl := (hfree fs hI).eq_of_resolve_join (hfind fs hI) hms hnames
      (resolve_of_missing hloc hnone)
    exact hput fs ms hI hms hnone

end PackageAtlas.FileSystem
