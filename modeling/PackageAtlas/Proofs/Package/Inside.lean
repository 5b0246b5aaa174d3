import PackageAtlas.Package.Inside
import PackageAtlas.Proofs.Path.Normal

namespace PackageAtlas.Package

open PackageAtlas.Path (IsName LiesBelow normalNames rootMark)

/-!
# Containment of paths inside packages

Which paths are refused, and where the others lead:

* `Escapes`: the texts that could lead out of a directory, said by their characters alone;
* `insidePath_eq_error_iff`: exactly these are refused;
* `innerNames`, `insidePath_eq_ok`: the others lead to the directory with their names added;
* `liesBelow_of_insidePath`: so no path leads out of the directory;
* `insidePath_ofNames`: names that lead to a file are found again by their path.
-/

/-! ### Which paths are refused -/

/-- A path that could lead out of a directory: with slashes in place of its backslashes it is empty,
    starts with a slash or with the letter of a drive, or has two dots between slashes. -/
def Escapes (path : String) : Prop :=
  let cs := (withSlashes path).toList
  cs = [] ∨ (∃ rest, cs = '/' :: rest) ∨
    (∃ letter rest, letter.isAlpha = true ∧ cs = letter :: ':' :: '/' :: rest) ∨
    ['.', '.'] ∈ cs.splitOn '/'

/-- The texts between the slashes and backslashes of a path that are neither empty nor a dot. -/
def innerNames (path : String) : List String :=
  (((withSlashes path).toList.splitOn '/').filter (fun cs => cs ≠ [] ∧ cs ≠ ['.'])).map
    String.ofList

theorem isDriveLetter_eq_isAlpha (c : Char) : isDriveLetter c = c.isAlpha := by
  -- The letters are compared as characters on one side and as numbers on the other.
  have hupper : c.isUpper = ('A' ≤ c && c ≤ 'Z') := Bool.decide_and ..
  have hlower : c.isLower = ('a' ≤ c && c ≤ 'z') := rfl
  show _ = (c.isUpper || c.isLower)
  rw [hupper, hlower, isDriveLetter, Bool.or_comm]

theorem hasDrive_iff (path : String) :
    hasDrive path = true ↔
      ∃ letter rest, letter.isAlpha = true ∧ path.toList = letter :: ':' :: '/' :: rest := by
  unfold hasDrive
  constructor
  · intro h
    split at h
    · rename_i c d rest heq
      rw [isDriveLetter_eq_isAlpha, Bool.and_eq_true, beq_iff_eq] at h
      obtain ⟨hc, rfl⟩ := h
      exact ⟨c, rest, hc, heq⟩
    · simp at h
  · rintro ⟨letter, rest, hletter, heq⟩
    rw [heq]
    simp [isDriveLetter_eq_isAlpha, hletter]

/-- The names between the slashes are the parts of a path. -/
theorem innerNames_eq_parts (path : String) : innerNames path = Path.parts (withSlashes path) := by
  rw [innerNames, Path.parts, Path.pieces_eq, List.filter_map]
  refine congrArg (List.map String.ofList) (List.filter_congr (fun cs _ => ?_))
  have hempty : String.ofList cs = "" ↔ cs = [] := by
    rw [← String.toList_inj, String.toList_ofList]
    simp
  have hdot : String.ofList cs = "." ↔ cs = ['.'] := by
    rw [← String.toList_inj, String.toList_ofList]
    simp
  rw [Bool.eq_iff_iff]
  simp [Path.isIdle, hempty, hdot]

theorem mem_parts_up_iff (text : String) :
    ".." ∈ Path.parts text ↔ ['.', '.'] ∈ text.toList.splitOn '/' := by
  rw [Path.parts, List.mem_filter, Path.pieces_eq, List.mem_map]
  constructor
  · rintro ⟨⟨cs, hcs, heq⟩, -⟩
    rw [← String.toList_inj, String.toList_ofList] at heq
    rw [heq] at hcs
    exact hcs
  · intro h
    exact ⟨⟨_, h, by decide⟩, by decide⟩

theorem insidePath_eq_error_iff (dir path : String) :
    (∃ e, insidePath dir path = .error e) ↔ Escapes path := by
  have hempty : (withSlashes path).isEmpty = true ↔ (withSlashes path).toList = [] := by simp
  have hroot : Path.isAbsolute (withSlashes path) = true ↔
      ∃ rest, (withSlashes path).toList = '/' :: rest := by
    simp [Path.isAbsolute, List.head?_eq_some_iff]
  have hdrive := hasDrive_iff (withSlashes path)
  have hup : (Path.parts (withSlashes path)).contains ".." = true ↔
      ['.', '.'] ∈ (withSlashes path).toList.splitOn '/' := by
    rw [List.contains_iff_mem]
    exact mem_parts_up_iff _
  unfold insidePath Escapes
  simp only
  rw [← hempty, ← hroot, ← hdrive, ← hup]
  -- What is left is a table of four truth values.
  generalize (withSlashes path).isEmpty = b₁
  generalize Path.isAbsolute (withSlashes path) = b₂
  generalize hasDrive (withSlashes path) = b₃
  generalize (Path.parts (withSlashes path)).contains ".." = b₄
  cases b₁ <;> cases b₂ <;> cases b₃ <;> cases b₄ <;> simp

theorem not_escapes_of_insidePath {dir path inner : String} (h : insidePath dir path = .ok inner) :
    ¬ Escapes path := by
  rw [← insidePath_eq_error_iff dir path]
  rintro ⟨e, he⟩
  rw [h] at he
  simp at he

/-- A path that is not refused leads to the directory with the path's names added. -/
theorem insidePath_eq_ok (dir : String) {path : String} (h : ¬ Escapes path) :
    insidePath dir path = .ok (extend dir (innerNames path)) := by
  have hnone := mt (insidePath_eq_error_iff dir path).mp h
  rw [innerNames_eq_parts]
  cases hp : insidePath dir path with
  | error e => exact absurd ⟨e, hp⟩ hnone
  | ok inner =>
    unfold insidePath at hp
    simp only at hp
    split at hp
    · simp at hp
    · split at hp
      · simp at hp
      · split at hp
        · simp at hp
        · exact hp.symm

/-- The names of a path that is not refused are names of entries. -/
theorem isName_of_mem_innerNames {path : String} (h : ¬ Escapes path) :
    ∀ n ∈ innerNames path, IsName n := by
  rw [innerNames_eq_parts]
  intro n hn
  have hmem := List.mem_filter.mp hn
  refine ⟨by simpa using hmem.2, ?_, Path.not_mem_of_mem_pieces hmem.1⟩
  rintro rfl
  exact h (Or.inr (Or.inr (Or.inr ((mem_parts_up_iff _).mp hn))))

/-! ### Where the other paths lead -/

@[simp] theorem extend_nil (dir : String) : extend dir [] = dir := rfl

@[simp] theorem extend_cons (dir n : String) (ns : List String) :
    extend dir (n :: ns) = extend (Path.join dir n) ns := rfl

/-- Names that are added one after the other lead to where all of them lead. -/
theorem extend_extend (dir : String) (ns ms : List String) :
    extend (extend dir ns) ms = extend dir (ns ++ ms) :=
  (List.foldl_append ..).symm

theorem rootMark_extend (dir : String) {ns : List String} (h : ∀ n ∈ ns, IsName n) :
    rootMark (extend dir ns) = rootMark dir := by
  induction ns generalizing dir with
  | nil => rfl
  | cons n ns ih =>
    rw [extend_cons, ih _ (fun m hm => h m (List.mem_cons_of_mem n hm)),
      Path.rootMark_join dir (h n (by simp))]

/-- Names that are added to a directory are added to its normal form. -/
theorem normalNames_extend (dir : String) {ns : List String} (h : ∀ n ∈ ns, IsName n) :
    normalNames (extend dir ns) = normalNames dir ++ ns := by
  induction ns generalizing dir with
  | nil => simp
  | cons n ns ih =>
    rw [extend_cons, ih _ (fun m hm => h m (List.mem_cons_of_mem n hm)),
      Path.normalNames_join dir (h n (by simp)), List.append_assoc]
    rfl

/-- **Containment.** Whatever path is asked for, the file lies below the directory. -/
theorem liesBelow_of_insidePath {dir path inner : String} (h : insidePath dir path = .ok inner) :
    LiesBelow dir inner := by
  have hesc := not_escapes_of_insidePath h
  have hnames := isName_of_mem_innerNames hesc
  rw [insidePath_eq_ok dir hesc, Except.ok.injEq] at h
  subst h
  refine ⟨rootMark_extend dir hnames, ?_⟩
  rw [normalNames_extend dir hnames]
  exact List.prefix_append _ _

/-! ### Paths that are made of names -/

/-- Names are added one by one or all at once. -/
theorem extend_eq_join (dir : String) {ns : List String} (hne : ns ≠ [])
    (h : ∀ n ∈ ns, IsName n) : extend dir ns = Path.join dir (Path.ofNames ns) := by
  induction ns generalizing dir with
  | nil => exact absurd rfl hne
  | cons n ns ih =>
    cases ns with
    | nil => simp [Path.ofNames]
    | cons m ns =>
      have hrest : ∀ r ∈ m :: ns, IsName r := fun r hr => h r (List.mem_cons_of_mem n hr)
      have habs := Path.isAbsolute_ofNames hrest
      rw [extend_cons, ih _ (by simp) hrest, Path.join_join dir (h n (by simp)) habs,
        Path.ofNames_cons_cons]

/-- A path that is not refused leads to the directory with the path's names added, and normal forms
    say the same. -/
theorem insidePath_spec {dir path : String} (hdir : Path.isAbsolute dir = true)
    (h : ¬ Escapes path) :
    ∃ inner front, insidePath dir path = .ok inner ∧
      inner = (if innerNames path = [] then dir
        else Path.join dir (Path.ofNames (innerNames path))) ∧
      (∀ n ∈ front ++ innerNames path, IsName n) ∧
      Path.normalize dir = rootMark dir ++ Path.ofNames front ∧
      Path.normalize inner = rootMark dir ++ Path.ofNames (front ++ innerNames path) := by
  -- What is left of the path when nothing leads up are names, which are added one by one.
  have hnames := isName_of_mem_innerNames h
  have hmark := Path.rootMark_ne_empty hdir
  refine ⟨extend dir (innerNames path), normalNames dir, insidePath_eq_ok dir h, ?_, ?_, ?_, ?_⟩
  · split
    · rename_i hnil
      rw [hnil, extend_nil]
    · rename_i hne
      exact extend_eq_join dir hne hnames
  · intro n hn
    rcases List.mem_append.mp hn with hfront | hinner
    · exact Path.isName_of_mem_normalNames hdir n hfront
    · exact hnames n hinner
  · exact Path.normalize_eq hmark
  · rw [← normalNames_extend dir hnames, ← rootMark_extend dir hnames]
    exact Path.normalize_eq (by rw [rootMark_extend dir hnames]; exact hmark)

/-- A path without backslashes is left as it is. -/
theorem withSlashes_eq_self {path : String} (h : '\\' ∉ path.toList) : withSlashes path = path := by
  rw [withSlashes, ← String.toList_inj, String.toList_ofList]
  conv => rhs; rw [← List.map_id path.toList]
  apply List.map_congr_left
  intro c hc
  have hne : c ≠ '\\' := fun heq => h (heq ▸ hc)
  simp [hne]

theorem not_mem_withSlashes (path : String) : '\\' ∉ (withSlashes path).toList := by
  rw [withSlashes, String.toList_ofList, List.mem_map]
  rintro ⟨c, -, hc⟩
  split at hc
  · simp at hc
  · rename_i hne
    exact hne (by simpa using hc)

theorem withSlashes_withSlashes (path : String) :
    withSlashes (withSlashes path) = withSlashes path :=
  withSlashes_eq_self (not_mem_withSlashes path)

/-- A path is refused or not, and leads to the same place, with slashes or with backslashes. -/
theorem insidePath_withSlashes {dir path inner : String} (h : insidePath dir path = .ok inner) :
    ¬ Escapes (withSlashes path) ∧ insidePath dir (withSlashes path) = .ok inner := by
  have hesc := not_escapes_of_insidePath h
  have hsame : Escapes (withSlashes path) ↔ Escapes path := by
    unfold Escapes
    rw [withSlashes_withSlashes]
  have hnames : innerNames (withSlashes path) = innerNames path := by
    unfold innerNames
    rw [withSlashes_withSlashes]
  have hesc' := mt hsame.mp hesc
  refine ⟨hesc', ?_⟩
  rw [insidePath_eq_ok dir hesc', hnames, ← insidePath_eq_ok dir hesc, h]

/-- **Names are found again.** A path that is made of names is refused only if it looks as if it
    started with the letter of a drive, and else it leads to the names below the directory. -/
theorem insidePath_ofNames (dir : String) {ns : List String} (hne : ns ≠ [])
    (h : ∀ n ∈ ns, IsName n) (hback : '\\' ∉ (Path.ofNames ns).toList)
    (hdrive : hasDrive (Path.ofNames ns) = false) :
    insidePath dir (Path.ofNames ns) = .ok (Path.join dir (Path.ofNames ns)) := by
  have hself := withSlashes_eq_self hback
  have hpieces : Path.pieces (Path.ofNames ns) = ns :=
    Path.pieces_ofNames hne (fun n hn => (h n hn).2.2)
  have hparts : Path.parts (Path.ofNames ns) = ns := by
    rw [Path.parts, hpieces, List.filter_eq_self]
    intro n hn
    simp [(h n hn).1]
  have hesc : ¬ Escapes (Path.ofNames ns) := by
    unfold Escapes
    simp only [hself]
    rw [← mem_parts_up_iff, hparts]
    -- A path of names is not empty, and it begins neither with a slash nor with a drive.
    rintro (hnil | ⟨rest, hroot⟩ | hletter | hup)
    · have : Path.pieces (Path.ofNames ns) = [""] := by
        rw [String.toList_eq_nil_iff.mp hnil, Path.pieces_empty]
      rw [hpieces] at this
      exact (h "" (by simp [this])).ne_empty rfl
    · exact Path.head?_ofNames h (by rw [hroot]; rfl)
    · rw [← hasDrive_iff, hdrive] at hletter
      simp at hletter
    · exact (h ".." hup).2.1 rfl
  rw [insidePath_eq_ok dir hesc, innerNames_eq_parts, hself, hparts, extend_eq_join dir hne h]

/-- A path that is made of names leads to the names below the directory, if it is not refused. -/
theorem eq_join_of_insidePath_ofNames {dir inner : String} {ns : List String} (hne : ns ≠ [])
    (h : ∀ n ∈ ns, IsName n) (hback : '\\' ∉ (Path.ofNames ns).toList)
    (hinside : insidePath dir (Path.ofNames ns) = .ok inner) :
    inner = Path.join dir (Path.ofNames ns) := by
  have hdrive : hasDrive (Path.ofNames ns) = false := by
    rw [← Bool.not_eq_true, hasDrive_iff]
    intro hletter
    apply not_escapes_of_insidePath hinside
    unfold Escapes
    rw [withSlashes_eq_self hback]
    exact Or.inr (Or.inr (Or.inl hletter))
  rw [insidePath_ofNames dir hne h hback hdrive, Except.ok.injEq] at hinside
  exact hinside.symm

end PackageAtlas.Package
