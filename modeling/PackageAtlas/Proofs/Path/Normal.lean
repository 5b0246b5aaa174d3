import Mathlib.Data.List.Basic
import PackageAtlas.Proofs.Path.Pieces
import PackageAtlas.Proofs.Text.Case

namespace PackageAtlas.Path

/-!
# Normal paths

What is left of a path when it is made normal, and which paths are normal already:

* `normalNames`: the pieces of the normal form;
* `LiesBelow`: whether a path has the pieces of another one in front, in normal form;
* `normalNames_join`, `rootMark_join`: a name that is added to a path is added to its normal form;
* `IsNormal`: paths from the root on all of whose pieces are names;
* `isNormal_normalize`, `IsNormal.normalize_eq`: making a path normal once is enough;
* `IsNormal.join`, `IsNormal.parent`: going down and up does not leave the normal paths.
-/

/-! ### Normal pieces -/

/-- The pieces of the normal form of a path. -/
def normalNames (text : String) : List String :=
  normalPieces (rootMark text != "") (pieces text)

/-- The normal form of `path` is that of `base` with pieces added at its end. -/
def LiesBelow (base path : String) : Prop :=
  rootMark path = rootMark base ∧ normalNames base <+: normalNames path

theorem addPiece_of_isName (rooted : Bool) (done : List String) {name : String}
    (h : IsName name) : addPiece rooted done name = name :: done := by
  unfold addPiece
  rw [if_neg (by simp [h.1]), if_neg (by simpa using h.2.1)]

theorem foldl_addPiece_names (rooted : Bool) (done : List String) {ns : List String}
    (h : ∀ n ∈ ns, IsName n) : ns.foldl (addPiece rooted) done = ns.reverse ++ done := by
  induction ns generalizing done with
  | nil => rfl
  | cons n ns ih =>
    rw [List.foldl_cons, addPiece_of_isName rooted done (h n (by simp)),
      ih _ (fun m hm => h m (List.mem_cons_of_mem n hm))]
    simp

/-- Names stay as they are behind other pieces. -/
theorem normalPieces_append_names (rooted : Bool) (ps : List String) {ns : List String}
    (h : ∀ n ∈ ns, IsName n) :
    normalPieces rooted (ps ++ ns) = normalPieces rooted ps ++ ns := by
  rw [normalPieces, List.foldl_append, foldl_addPiece_names rooted _ h, normalPieces]
  simp

theorem normalPieces_append_empty (rooted : Bool) (ps : List String) :
    normalPieces rooted (ps ++ [""]) = normalPieces rooted ps := by
  simp [normalPieces, addPiece, isIdle]

/-- Behind the root only names are left. -/
theorem isName_of_mem_normalPieces {ps : List String} (hps : ∀ p ∈ ps, '/' ∉ p.toList) :
    ∀ n ∈ normalPieces true ps, IsName n := by
  -- Every piece that is put in place is a name, so `..` never stays.
  suffices h : ∀ done : List String, (∀ n ∈ done, IsName n) →
      ∀ n ∈ ps.foldl (addPiece true) done, IsName n by
    intro n hn
    exact h [] (by simp) n (by simpa [normalPieces] using hn)
  induction ps with
  | nil => exact fun done hdone => hdone
  | cons p ps ih =>
    intro done hdone
    rw [List.foldl_cons]
    apply ih (fun q hq => hps q (List.mem_cons_of_mem p hq))
    intro n hn
    unfold addPiece at hn
    split at hn
    · exact hdone n hn
    · split at hn
      · cases done with
        | nil => simp at hn
        | cons last before =>
          have hlast : last ≠ ".." := (hdone last (by simp)).2.1
          simp only [beq_iff_eq, hlast, if_false] at hn
          exact hdone n (List.mem_cons_of_mem last hn)
      · rename_i hidle hup
        rcases List.mem_cons.mp hn with rfl | hn
        · exact ⟨by simpa using hidle, by simpa using hup, hps n (by simp)⟩
        · exact hdone n hn

/-! ### Marks of the root -/

/-- The mark of a path is told by the characters before the first that is no slash. -/
theorem rootMark_append {a b : String} (ha : a ≠ "")
    (h : b.toList.head? ≠ some '/' ∨ a.toList.getLast? ≠ some '/') :
    rootMark (a ++ b) = rootMark a := by
  have hne : a.toList ≠ [] := by simpa using ha
  unfold rootMark
  rw [String.toList_append]
  generalize a.toList = as at *
  generalize b.toList = bs at *
  -- Three characters tell the mark; some of them may come from the second text.
  match as, bs, hne with
  | [x], [], _ => simp
  | [x], y :: ys, _ =>
    by_cases hx : x = '/' <;> by_cases hy : y = '/' <;> simp_all
  | [x, y], [], _ => simp
  | [x, y], z :: zs, _ =>
    by_cases hx : x = '/' <;> by_cases hy : y = '/' <;> by_cases hz : z = '/' <;> simp_all
  | x :: y :: z :: as, bs, _ =>
    by_cases hx : x = '/' <;> by_cases hy : y = '/' <;> by_cases hz : z = '/' <;> simp_all

theorem rootMark_eq_empty {text : String} (h : isAbsolute text = false) : rootMark text = "" := by
  unfold rootMark
  unfold isAbsolute at h
  split <;> simp_all

theorem rootMark_of_isAbsolute {text : String} (h : isAbsolute text = true) :
    rootMark text = "/" ∨ rootMark text = "//" := by
  obtain ⟨cs, hcs⟩ := List.head?_eq_some_iff.mp (by simpa [isAbsolute] using h)
  unfold rootMark
  rw [hcs]
  split <;> simp_all

theorem rootMark_ne_empty {text : String} (h : isAbsolute text = true) : rootMark text ≠ "" := by
  rcases rootMark_of_isAbsolute h with hm | hm <;> rw [hm] <;> decide

theorem isName_of_mem_normalNames {text : String} (h : isAbsolute text = true) :
    ∀ n ∈ normalNames text, IsName n := by
  have hrooted : (rootMark text != "") = true := by simpa using rootMark_ne_empty h
  rw [normalNames, hrooted]
  exact isName_of_mem_normalPieces (fun p hp => not_mem_of_mem_pieces hp)

/-- A name that is added to a path leaves its mark. -/
theorem rootMark_join (base : String) {name : String} (h : IsName name) :
    rootMark (join base name) = rootMark base := by
  have habs := h.isAbsolute_eq
  have hhead : name.toList.head? ≠ some '/' := by simpa [isAbsolute] using habs
  by_cases hbase : base = ""
  · subst hbase
    rw [join_eq_stem_append "" habs]
    have hname : stem "" ++ name = name := by simp [stem]
    rw [hname, rootMark_eq_empty habs, rootMark_eq_empty (by decide)]
  · have hempty : base.isEmpty = false := by simpa using hbase
    rw [join_eq_stem_append base habs, stem, hempty]
    by_cases hlast : base.toList.getLast? = some '/'
    · rw [if_pos (by simp [hlast]), rootMark_append hbase (Or.inl hhead)]
    · rw [if_neg (by simp [hlast]), String.append_assoc,
        rootMark_append hbase (Or.inr hlast)]

/-- A name that is added to a path is added to its normal form. -/
theorem normalNames_join (base : String) {name : String} (h : IsName name) :
    normalNames (join base name) = normalNames base ++ [name] := by
  have habs := h.isAbsolute_eq
  have hpieces : pieces name = [name] := pieces_of_not_mem h.2.2
  have hnames : ∀ n ∈ [name], IsName n := by simpa using h
  rw [normalNames, rootMark_join base h]
  -- Joining adds the name behind the pieces of the path, or behind an empty one.
  by_cases hbase : base = ""
  · subst hbase
    have hjoin : join "" name = name := by
      rw [join_eq_stem_append "" habs]
      simp [stem]
    rw [hjoin, hpieces, normalNames]
    exact normalPieces_append_names _ [""] hnames
  · obtain ⟨front, hjoin, hfront | hfront⟩ := pieces_join hbase habs
    · rw [hjoin, hpieces, normalPieces_append_names _ front hnames, normalNames, hfront]
    · rw [hjoin, hpieces, normalPieces_append_names _ front hnames, normalNames, hfront,
        normalPieces_append_empty]

/-! ### Paths that are normal -/

/-- A path from the root on all of whose pieces are names. -/
def IsNormal (text : String) : Prop :=
  ∃ mark names, (mark = "/" ∨ mark = "//") ∧ (∀ n ∈ names, IsName n) ∧
    text = mark ++ ofNames names

section

variable {mark : String} {ns : List String}

/-- The text of names does not start with a slash. -/
theorem head?_ofNames (hns : ∀ n ∈ ns, IsName n) : (ofNames ns).toList.head? ≠ some '/' := by
  cases ns with
  | nil => simp [ofNames]
  | cons n ns =>
    have hn : IsName n := hns n (by simp)
    obtain ⟨c, cs, hc⟩ := List.exists_cons_of_ne_nil hn.toList_ne_nil
    have hcn : c ≠ '/' := by
      rintro rfl
      exact hn.2.2 (by rw [hc]; simp)
    cases ns with
    | nil => simpa [ofNames, hc] using hcn
    | cons m ns =>
      rw [ofNames_cons_cons, String.toList_append, String.toList_append, hc]
      simpa using hcn

/-- The text of names does not start at the root. -/
theorem isAbsolute_ofNames (hns : ∀ n ∈ ns, IsName n) : isAbsolute (ofNames ns) = false := by
  simpa [isAbsolute] using head?_ofNames hns

theorem rootMark_mark_append (hmark : mark = "/" ∨ mark = "//") (hns : ∀ n ∈ ns, IsName n) :
    rootMark (mark ++ ofNames ns) = mark := by
  have hhead := head?_ofNames hns
  rcases hmark with rfl | rfl
  · rw [rootMark_append (by decide) (Or.inl hhead)]
    decide
  · rw [rootMark_append (by decide) (Or.inl hhead)]
    decide

theorem pieces_ofNames_of_isName (hns : ∀ n ∈ ns, IsName n) :
    ∃ k, pieces (ofNames ns) = List.replicate k "" ++ ns := by
  cases ns with
  | nil => exact ⟨1, by simp [ofNames]⟩
  | cons n ns =>
    refine ⟨0, ?_⟩
    rw [pieces_ofNames (by simp) (fun m hm => (hns m hm).2.2)]
    rfl

/-- The pieces of a normal path are empty ones and then its names. -/
theorem pieces_mark_append (hmark : mark = "/" ∨ mark = "//") (hns : ∀ n ∈ ns, IsName n) :
    ∃ k, pieces (mark ++ ofNames ns) = List.replicate k "" ++ ns := by
  obtain ⟨k, hk⟩ := pieces_ofNames_of_isName hns
  rcases hmark with rfl | rfl
  · refine ⟨k + 1, ?_⟩
    have h := pieces_append_slash "" (ofNames ns)
    rw [hk, pieces_empty] at h
    exact h
  · refine ⟨k + 2, ?_⟩
    have h := pieces_append_slash "/" (ofNames ns)
    rw [hk, show pieces "/" = ["", ""] by decide] at h
    exact h

theorem normalPieces_replicate_append (rooted : Bool) (k : Nat) (hns : ∀ n ∈ ns, IsName n) :
    normalPieces rooted (List.replicate k "" ++ ns) = ns := by
  rw [normalPieces_append_names rooted _ hns]
  have h : normalPieces rooted (List.replicate k "") = [] := by
    induction k with
    | zero => rfl
    | succ k ih => rw [List.replicate_succ', normalPieces_append_empty, ih]
  rw [h]
  rfl

theorem normalNames_mark_append (hmark : mark = "/" ∨ mark = "//") (hns : ∀ n ∈ ns, IsName n) :
    normalNames (mark ++ ofNames ns) = ns := by
  obtain ⟨k, hk⟩ := pieces_mark_append hmark hns
  rw [normalNames, hk, normalPieces_replicate_append _ k hns]

theorem ofNames_concat (hne : ns ≠ []) (name : String) :
    ofNames (ns ++ [name]) = ofNames ns ++ "/" ++ name := by
  rw [ofNames, String.intercalate_append_of_ne_nil hne (by simp)]
  simp [ofNames]

/-- In small letters, a path that is made of names ends as the last of them. -/
theorem suffix_lower_ofNames {ending : List Char} (hfinal : 'ς' ∉ ending) (hsigma : 'σ' ∉ ending)
    (hslash : '/' ∉ ending) (front : List String) (name : String) :
    ending <:+ (Text.lower (ofNames (front ++ [name]))).toList ↔
      ending <:+ (Text.lower name).toList := by
  by_cases hfront : front = []
  · simp [hfront, ofNames]
  · rw [ofNames_concat hfront, Text.suffix_lower_append_slash hfinal hsigma hslash]

/-- The text of names does not end with a slash. -/
theorem getLast?_ofNames (hne : ns ≠ []) (hns : ∀ n ∈ ns, IsName n) :
    ∃ c, (ofNames ns).toList.getLast? = some c ∧ c ≠ '/' := by
  obtain ⟨front, name, rfl⟩ : ∃ front name, ns = front ++ [name] :=
    ⟨ns.dropLast, ns.getLast hne, (List.dropLast_concat_getLast hne).symm⟩
  have hname : IsName name := hns name (by simp)
  refine ⟨name.toList.getLast hname.toList_ne_nil, ?_, ?_⟩
  · by_cases hfront : front = []
    · subst hfront
      simp [ofNames, List.getLast?_eq_some_getLast hname.toList_ne_nil]
    · rw [ofNames_concat hfront, String.toList_append, List.getLast?_append,
        List.getLast?_eq_some_getLast hname.toList_ne_nil, Option.some_or]
  · intro hc
    exact hname.2.2 (hc ▸ List.getLast_mem hname.toList_ne_nil)

theorem join_mark_append (hmark : mark = "/" ∨ mark = "//") (hns : ∀ n ∈ ns, IsName n)
    {name : String} (hname : IsName name) :
    join (mark ++ ofNames ns) name = mark ++ ofNames (ns ++ [name]) := by
  rw [join_eq_stem_append _ hname.isAbsolute_eq]
  by_cases hne : ns = []
  · subst hne
    rcases hmark with rfl | rfl <;> simp [stem, ofNames]
  · obtain ⟨c, hc, hslash⟩ := getLast?_ofNames hne hns
    have hlast : (mark ++ ofNames ns).toList.getLast? = some c := by
      rw [String.toList_append, List.getLast?_append, hc, Option.some_or]
    have hempty : (mark ++ ofNames ns).isEmpty = false := by
      rw [String.isEmpty_eq_false_iff, ne_eq, ← String.toList_eq_nil_iff]
      intro hnil
      rw [hnil] at hlast
      simp at hlast
    rw [stem, hempty, hlast, ofNames_concat hne]
    simp [hslash, String.append_assoc]

/-- A path whose last piece stands behind a slash is cut at the slashes before that piece. -/
theorem split_append {head : List Char} {name text : String} (hname : '/' ∉ name.toList)
    (hhead : head.getLast? = some '/') (htext : text.toList = head ++ name.toList) :
    split text =
      (String.ofList (if (dropSlashes head).isEmpty then head else dropSlashes head), name) := by
  obtain ⟨front, rfl⟩ := List.getLast?_eq_some_iff.mp hhead
  -- What stands behind the last slash is the name, and what stands before it is the head.
  have htail : (text.toList.reverse.takeWhile (· != '/')).reverse = name.toList := by
    have hall : ∀ c ∈ name.toList.reverse, (c != '/') = true := by
      intro c hc
      rw [bne_iff_ne]
      rintro rfl
      exact hname (List.mem_reverse.mp hc)
    rw [htext, List.reverse_append, List.takeWhile_append_of_pos hall]
    simp
  have htake : text.toList.take (text.toList.length - name.toList.length) = front ++ ['/'] := by
    rw [htext, List.length_append, Nat.add_sub_cancel, List.take_left]
  rw [split]
  simp only [htail, htake, String.ofList_toList]

/-- A path whose last piece stands behind a slash lies below what stands before the slash. -/
theorem parent_append {head : List Char} {name text : String} (hname : '/' ∉ name.toList)
    (hhead : head.getLast? = some '/') (htext : text.toList = head ++ name.toList) :
    parent text =
      String.ofList (if (dropSlashes head).isEmpty then head else dropSlashes head) := by
  rw [parent, split_append hname hhead htext]

theorem dropSlashes_concat {cs : List Char} {c : Char} (hc : cs.getLast? = some c)
    (hne : c ≠ '/') : dropSlashes (cs ++ ['/']) = cs := by
  obtain ⟨front, rfl⟩ := List.getLast?_eq_some_iff.mp hc
  simp [dropSlashes, hne]

theorem parent_mark_append (hmark : mark = "/" ∨ mark = "//") (hns : ∀ n ∈ ns, IsName n)
    {name : String} (hname : IsName name) :
    parent (mark ++ ofNames (ns ++ [name])) = mark ++ ofNames ns := by
  by_cases hne : ns = []
  · subst hne
    have htext : (mark ++ ofNames ([] ++ [name])).toList = mark.toList ++ name.toList := by
      simp [ofNames]
    rcases hmark with rfl | rfl
    · rw [parent_append hname.2.2 (by decide) htext]
      decide
    · rw [parent_append hname.2.2 (by decide) htext]
      decide
  · obtain ⟨c, hc, hslash⟩ := getLast?_ofNames hne hns
    have hlast : (mark ++ ofNames ns).toList.getLast? = some c := by
      rw [String.toList_append, List.getLast?_append, hc, Option.some_or]
    have htext : (mark ++ ofNames (ns ++ [name])).toList
        = ((mark ++ ofNames ns).toList ++ ['/']) ++ name.toList := by
      rw [ofNames_concat hne]
      simp [String.toList_append]
    -- The path does not end with a slash, so only the one before the name is dropped.
    have hfull : (mark ++ ofNames ns).toList.isEmpty = false := by
      rw [List.isEmpty_eq_false_iff]
      intro hnil
      rw [hnil] at hlast
      simp at hlast
    rw [parent_append hname.2.2 (by simp) htext, dropSlashes_concat hlast hslash, hfull]
    simp

end

/-- A path that is not empty when it is made normal is its mark and its names. -/
theorem normalize_eq {text : String} (h : rootMark text ≠ "") :
    normalize text = rootMark text ++ ofNames (normalNames text) := by
  have hne : (rootMark text ++ ofNames (normalNames text)).isEmpty = false := by
    rw [String.isEmpty_eq_false_iff]
    intro hempty
    exact h (String.append_eq_empty_iff.mp hempty).1
  show (if (rootMark text ++ ofNames (normalNames text)).isEmpty then "."
    else rootMark text ++ ofNames (normalNames text)) = _
  rw [hne]
  rfl

/-- A path from the root on becomes a normal one. -/
theorem isNormal_normalize {text : String} (h : isAbsolute text = true) :
    IsNormal (normalize text) :=
  ⟨rootMark text, normalNames text, rootMark_of_isAbsolute h, isName_of_mem_normalNames h,
    normalize_eq (rootMark_ne_empty h)⟩

namespace IsNormal

variable {text : String}

theorem isAbsolute_eq (h : IsNormal text) : isAbsolute text = true := by
  obtain ⟨mark, names, hmark, -, rfl⟩ := h
  rcases hmark with rfl | rfl <;> simp [isAbsolute]

/-- What the pieces of a normal path name are its names. -/
theorem parts_eq (h : IsNormal text) : parts text = normalNames text := by
  obtain ⟨mark, names, hmark, hns, rfl⟩ := h
  obtain ⟨k, hk⟩ := pieces_mark_append hmark hns
  have hnames : names.filter (fun p => !isIdle p) = names := by
    rw [List.filter_eq_self]
    intro n hn
    simp [(hns n hn).1]
  rw [normalNames_mark_append hmark hns, parts, hk, List.filter_append, hnames,
    List.filter_replicate_of_neg (by decide), List.nil_append]

/-- The pieces of a normal path that name something are names. -/
theorem isName_of_mem_pieces (h : IsNormal text) {piece : String} (hpiece : piece ∈ pieces text)
    (hidle : isIdle piece = false) : IsName piece := by
  have hmem : piece ∈ parts text := List.mem_filter.mpr ⟨hpiece, by simp [hidle]⟩
  rw [h.parts_eq] at hmem
  exact isName_of_mem_normalNames h.isAbsolute_eq piece hmem

/-- A normal path stays as it is. -/
theorem normalize_eq (h : IsNormal text) : normalize text = text := by
  obtain ⟨mark, names, hmark, hns, rfl⟩ := h
  have hroot := rootMark_mark_append hmark hns
  have hne : rootMark (mark ++ ofNames names) ≠ "" := by
    rw [hroot]
    rcases hmark with rfl | rfl <;> decide
  rw [Path.normalize_eq hne, hroot, normalNames_mark_append hmark hns]

/-- A normal path with a name added is normal. -/
theorem join (h : IsNormal text) {name : String} (hname : IsName name) :
    IsNormal (join text name) := by
  obtain ⟨mark, names, hmark, hns, rfl⟩ := h
  exact ⟨mark, names ++ [name], hmark, isName_of_mem_concat hns hname,
    join_mark_append hmark hns hname⟩

/-- What a normal path lies below is normal. -/
theorem parent (h : IsNormal text) : IsNormal (parent text) := by
  obtain ⟨mark, names, hmark, hns, rfl⟩ := h
  rcases List.eq_nil_or_concat' names with rfl | ⟨front, name, rfl⟩
  · refine ⟨mark, [], hmark, by simp, ?_⟩
    rcases hmark with rfl | rfl <;> decide
  · have hfront : ∀ n ∈ front, IsName n := fun n hn => hns n (by simp [hn])
    exact ⟨mark, front, hmark, hfront, parent_mark_append hmark hfront (hns name (by simp))⟩

theorem of_mem_ancestors (h : IsNormal text) : ∀ a ∈ ancestors text, IsNormal a := by
  unfold ancestors
  generalize text.length = fuel
  -- Each of them is the parent of the one before, however many are asked for.
  induction fuel generalizing text with
  | zero =>
    intro a ha
    rw [List.mem_singleton.mp ha]
    exact h
  | succ fuel ih =>
    intro a ha
    rw [ancestorsUpTo] at ha
    split at ha
    · rw [List.mem_singleton.mp ha]
      exact h
    · rcases List.mem_cons.mp ha with rfl | ha
      · exact h
      · exact ih h.parent a ha

end IsNormal

end PackageAtlas.Path
