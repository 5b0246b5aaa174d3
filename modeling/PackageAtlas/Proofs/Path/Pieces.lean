import PackageAtlas.FileSystem.Path

namespace PackageAtlas

/-!
# The pieces of paths

How the pieces of a path depend on how its text is put together:

* `Text.splitAt_eq_splitOn`: pieces are what the list operation `splitOn` gives;
* `Path.IsName`: the pieces that name an entry of a directory;
* `Path.pieces_append_slash`, `Path.pieces_ofNames`: the pieces of texts with slashes in them;
* `Path.pieces_join`: the pieces of one path below another;
* `Path.join_join`: names are added one by one or all at once.
-/

/-! ### Splitting lists -/

namespace Text

variable {α : Type} [BEq α]

/-- What has been split off already only stands in front. -/
theorem splitAfter_eq (sep : α) (done : List (List α)) (current as : List α) :
    splitAfter sep done current as
      = done.reverse ++ as.splitOnPPrepend (· == sep) current := by
  induction as generalizing done current with
  | nil => simp [splitAfter]
  | cons a as ih =>
    rw [splitAfter, List.splitOnPPrepend_cons_eq_if]
    by_cases h : a == sep
    · -- The current piece is done, and an empty one begins.
      rw [if_pos h, if_pos h, ih]
      simp
    · rw [if_neg h, if_neg h, ih]

theorem splitAt_eq_splitOn (sep : α) (as : List α) : splitAt sep as = as.splitOn sep := by
  rw [splitAt, splitAfter_eq]
  simp [List.splitOn_eq_splitOnP]

end Text

namespace Path

/-! ### Names -/

/-- Whether a piece can name an entry of a directory. -/
def IsName (piece : String) : Prop :=
  isIdle piece = false ∧ piece ≠ ".." ∧ '/' ∉ piece.toList

instance (piece : String) : Decidable (IsName piece) :=
  inferInstanceAs (Decidable (_ ∧ _ ∧ _))

theorem IsName.ne_empty {name : String} (h : IsName name) : name ≠ "" := by
  rintro rfl
  exact absurd h.1 (by decide)

theorem IsName.toList_ne_nil {name : String} (h : IsName name) : name.toList ≠ [] := by
  rw [ne_eq, String.toList_eq_nil_iff]
  exact h.ne_empty

/-- A name does not start at the root. -/
theorem IsName.isAbsolute_eq {name : String} (h : IsName name) : isAbsolute name = false := by
  unfold isAbsolute
  cases hn : name.toList with
  | nil => rfl
  | cons c cs =>
    have hc : c ≠ '/' := by
      rintro rfl
      exact h.2.2 (by rw [hn]; simp)
    simpa using hc

/-- Names with one name more are names. -/
theorem isName_of_mem_concat {names : List String} {name : String}
    (hnames : ∀ n ∈ names, IsName n) (hname : IsName name) : ∀ n ∈ names ++ [name], IsName n := by
  intro n hn
  rcases List.mem_append.mp hn with hn | hn
  · exact hnames n hn
  · rw [List.mem_singleton.mp hn]
    exact hname

theorem ne_empty_of_isAbsolute {path : String} (h : isAbsolute path = true) : path ≠ "" := by
  rintro rfl
  simp [isAbsolute] at h

/-! ### Pieces of texts -/

theorem pieces_eq (text : String) :
    pieces text = (text.toList.splitOn '/').map String.ofList := by
  rw [pieces, Text.splitAt_eq_splitOn]

@[simp] theorem pieces_empty : pieces "" = [""] := by decide

theorem pieces_ne_nil (text : String) : pieces text ≠ [] := by
  rw [pieces_eq]
  simp

/-- A text without slashes is a piece by itself. -/
theorem pieces_of_not_mem {text : String} (h : '/' ∉ text.toList) : pieces text = [text] := by
  rw [pieces_eq, List.splitOn_eq_singleton h]
  simp

/-- A slash divides the pieces before it from those behind it. -/
theorem pieces_append_slash (a b : String) : pieces (a ++ "/" ++ b) = pieces a ++ pieces b := by
  have h : (a ++ "/" ++ b).toList = a.toList ++ '/' :: b.toList := by
    simp [String.toList_append]
  rw [pieces_eq, h, List.splitOn_append_cons_self, List.map_append, ← pieces_eq, ← pieces_eq]

/-- No piece holds a slash. -/
theorem not_mem_of_mem_pieces {text piece : String} (h : piece ∈ pieces text) :
    '/' ∉ piece.toList := by
  rw [pieces_eq, List.mem_map] at h
  obtain ⟨cs, hcs, rfl⟩ := h
  rw [String.toList_ofList]
  generalize text.toList = as at hcs
  -- The first character makes a piece of its own or joins the first of the others.
  induction as generalizing cs with
  | nil => simp_all
  | cons a as ih =>
    rw [List.splitOn_cons_eq_if_modifyHead] at hcs
    split at hcs
    case isTrue =>
      rcases List.mem_cons.mp hcs with rfl | hcs
      · simp
      · exact ih cs hcs
    case isFalse ha =>
      cases hs : as.splitOn '/' with
      | nil => exact absurd hs (List.splitOn_ne_nil '/' as)
      | cons first others =>
        rw [hs, List.modifyHead_cons] at hcs
        rcases List.mem_cons.mp hcs with rfl | hcs
        · have hfirst := ih first (by rw [hs]; simp)
          have hne : a ≠ '/' := by simpa using ha
          simp [hfirst, hne.symm]
        · exact ih cs (by rw [hs]; simp [hcs])

theorem ofNames_cons_cons (n m : String) (ns : List String) :
    ofNames (n :: m :: ns) = n ++ "/" ++ ofNames (m :: ns) := by
  simp [ofNames]

/-- Names are the pieces of the text that they make. -/
theorem pieces_ofNames {ns : List String} (hne : ns ≠ []) (h : ∀ n ∈ ns, '/' ∉ n.toList) :
    pieces (ofNames ns) = ns := by
  induction ns with
  | nil => exact absurd rfl hne
  | cons n ns ih =>
    cases ns with
    | nil => simpa [ofNames] using pieces_of_not_mem (h n (by simp))
    | cons m ns =>
      rw [ofNames_cons_cons, pieces_append_slash, pieces_of_not_mem (h n (by simp)),
        ih (by simp) (fun r hr => h r (List.mem_cons_of_mem n hr))]
      rfl

/-! ### One path below another -/

/-- A path with the slash that divides it from what lies below it. -/
def stem (base : String) : String :=
  if base.isEmpty || base.toList.getLast? == some '/' then base else base ++ "/"

theorem join_eq_stem_append (base : String) {part : String} (h : isAbsolute part = false) :
    join base part = stem base ++ part := by
  rw [join, if_neg (by simp [h]), stem]
  split <;> rfl

/-- The stem of a path that is not empty ends with a slash. -/
theorem exists_stem_eq {base : String} (h : base ≠ "") :
    ∃ front : String, stem base = front ++ "/" ∧ (base = front ∨ base = front ++ "/") := by
  have hempty : base.isEmpty = false := by simpa using h
  by_cases hlast : base.toList.getLast? = some '/'
  · -- The slash is there already.
    obtain ⟨cs, hcs⟩ := List.getLast?_eq_some_iff.mp hlast
    have hfront : base = String.ofList cs ++ "/" := by
      rw [← String.toList_inj, String.toList_append, String.toList_ofList, hcs]
      rfl
    refine ⟨String.ofList cs, ?_, Or.inr hfront⟩
    rw [stem, hempty, hlast, ← hfront]
    rfl
  · refine ⟨base, ?_, Or.inl rfl⟩
    have hb : (base.toList.getLast? == some '/') = false := by simpa using hlast
    rw [stem, hempty, hb]
    rfl

/-- The pieces of a path below another are those of both, less the empty one at the end of a path
    that ends with a slash. -/
theorem pieces_join {base part : String} (hbase : base ≠ "") (hpart : isAbsolute part = false) :
    ∃ front, pieces (join base part) = front ++ pieces part ∧
      (pieces base = front ∨ pieces base = front ++ [""]) := by
  obtain ⟨front, hstem, hfront⟩ := exists_stem_eq hbase
  refine ⟨pieces front, ?_, ?_⟩
  · rw [join_eq_stem_append base hpart, hstem, pieces_append_slash]
  · rcases hfront with rfl | rfl
    · exact Or.inl rfl
    · exact Or.inr (by simpa using pieces_append_slash front "")

theorem join_ne_empty {base part : String} (hbase : base ≠ "") (hpart : isAbsolute part = false) :
    join base part ≠ "" := by
  obtain ⟨front, hstem, -⟩ := exists_stem_eq hbase
  rw [join_eq_stem_append _ hpart, hstem]
  simp

/-- A path below another starts as that one does. -/
theorem isAbsolute_join {base part : String} (hbase : base ≠ "")
    (hpart : isAbsolute part = false) : isAbsolute (join base part) = isAbsolute base := by
  obtain ⟨c, cs, hc⟩ := List.exists_cons_of_ne_nil (mt String.toList_eq_nil_iff.mp hbase)
  obtain ⟨front, hstem, rfl | rfl⟩ := exists_stem_eq hbase
  · rw [join_eq_stem_append _ hpart, hstem, isAbsolute, isAbsolute, String.toList_append,
      String.toList_append, hc]
    rfl
  · rw [join_eq_stem_append _ hpart, hstem, isAbsolute, isAbsolute, String.toList_append, hc]
    rfl

/-- Joining paths adds no characters but slashes. -/
theorem mem_join_iff {base part : String} (hbase : base ≠ "") (hpart : isAbsolute part = false)
    {c : Char} (hc : c ≠ '/') :
    c ∈ (join base part).toList ↔ c ∈ base.toList ∨ c ∈ part.toList := by
  obtain ⟨front, hstem, rfl | rfl⟩ := exists_stem_eq hbase
  · rw [join_eq_stem_append _ hpart, hstem]
    simp [hc]
  · rw [join_eq_stem_append _ hpart, hstem]
    simp [hc]

/-- A path to which a name was added does not end with a slash. -/
theorem stem_join (base : String) {name : String} (h : IsName name) :
    stem (join base name) = join base name ++ "/" := by
  have hne : name.toList ≠ [] := h.toList_ne_nil
  have hlist : (join base name).toList = (stem base).toList ++ name.toList := by
    rw [join_eq_stem_append base h.isAbsolute_eq, String.toList_append]
  have hempty : (join base name).isEmpty = false := by
    rw [String.isEmpty_eq_false_iff, ne_eq, ← String.toList_eq_nil_iff, hlist]
    simp [hne]
  have hlast : (join base name).toList.getLast? = some (name.toList.getLast hne) := by
    rw [hlist, List.getLast?_append, List.getLast?_eq_some_getLast hne, Option.some_or]
  -- The last character is one of the name, so it is no slash.
  have hslash : name.toList.getLast hne ≠ '/' := by
    intro hc
    exact h.2.2 (hc ▸ List.getLast_mem hne)
  rw [stem, hempty, hlast]
  simp [hslash]

/-- Below a path with a name added lies what lies below the path with both added at once. -/
theorem join_join (base : String) {name part : String} (hname : IsName name)
    (hpart : isAbsolute part = false) :
    join (join base name) part = join base (name ++ "/" ++ part) := by
  have habs : isAbsolute (name ++ "/" ++ part) = false := by
    have hn := hname.isAbsolute_eq
    unfold isAbsolute at hn ⊢
    obtain ⟨c, cs, hc⟩ := List.exists_cons_of_ne_nil hname.toList_ne_nil
    rw [hc] at hn
    rw [String.toList_append, String.toList_append, hc]
    exact hn
  calc join (join base name) part
      = join base name ++ "/" ++ part := by
        rw [join_eq_stem_append _ hpart, stem_join base hname]
    _ = stem base ++ (name ++ "/" ++ part) := by
        rw [join_eq_stem_append base hname.isAbsolute_eq]
        simp [String.append_assoc]
    _ = join base (name ++ "/" ++ part) := (join_eq_stem_append base habs).symm

end Path

end PackageAtlas
