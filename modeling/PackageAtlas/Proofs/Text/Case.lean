import PackageAtlas.Text.Case
import PackageAtlas.Text.Classes

namespace PackageAtlas.Text

/-!
# Texts in small letters

A capital sigma has two small forms, and which of them it gets depends on the letters around it. All
other characters are put in small letters one by one:

* `mergeSigma`, `smallImage`: small letters without the difference between the two forms;
* `map_mergeSigma_lower`: a text in small letters, up to that difference;
* `suffix_lower_append`: a text ends in small letters as the last part of it does;
* `slash_mem_lower_iff`: a text has slashes in small letters if it has any;
* `mem_lower_of_isBlank`: white space is kept in small letters;
* `suffix_lower_append_slash`: what comes before a slash has no part in an end without one.
-/

/-- The two small forms of a sigma as one. -/
def mergeSigma (c : Char) : Char := if c = 'ς' then 'σ' else c

/-- What a character becomes in small letters, up to the form of a sigma. -/
def smallImage (c : Char) : List Char :=
  if c.toNat = 0x3A3 then ['σ'] else (lowerChar c).map mergeSigma

theorem map_mergeSigma_lowerAfter (before done cs : List Char) :
    (lowerAfter before done cs).map mergeSigma =
      done.reverse.map mergeSigma ++ cs.flatMap smallImage := by
  induction cs generalizing before done with
  | nil => simp [lowerAfter]
  | cons c cs ih =>
    rw [lowerAfter, ih, List.reverse_append, List.reverse_reverse, List.map_append,
      List.append_assoc, List.flatMap_cons]
    congr 2
    by_cases hsigma : c.toNat = 0x3A3
    · -- Both forms are the same here, wherever the sigma stands.
      rw [smallImage, if_pos hsigma, if_pos hsigma]
      split <;> decide
    · rw [smallImage, if_neg hsigma, if_neg hsigma]

/-- Up to the form of a sigma, characters are put in small letters one by one. -/
theorem map_mergeSigma_lower (text : String) :
    (lower text).toList.map mergeSigma = text.toList.flatMap smallImage := by
  rw [lower, String.toList_ofList, map_mergeSigma_lowerAfter]
  rfl

/-- Only a final sigma is changed. -/
theorem map_mergeSigma_eq_self {cs : List Char} (h : ∀ c ∈ cs, c ≠ 'ς') :
    cs.map mergeSigma = cs := by
  conv => rhs; rw [← List.map_id cs]
  apply List.map_congr_left
  intro c hc
  exact if_neg (h c hc)

/-- An end without a sigma is told by the characters one by one. -/
theorem suffix_lower_iff {ending : List Char} (hfinal : 'ς' ∉ ending) (hsigma : 'σ' ∉ ending)
    (text : String) :
    ending <:+ (lower text).toList ↔ ending <:+ text.toList.flatMap smallImage := by
  rw [← map_mergeSigma_lower]
  constructor
  · intro h
    have hmap := h.map mergeSigma
    have hself := map_mergeSigma_eq_self (fun c hc heq => hfinal (heq ▸ hc))
    rw [hself] at hmap
    exact hmap
  · rintro ⟨front, hfront⟩
    obtain ⟨a, b, hab, -, hb⟩ := List.map_eq_append_iff.mp hfront.symm
    -- A final sigma would have become a sigma of the end.
    have hnot : ∀ c ∈ b, c ≠ 'ς' := by
      rintro c hc rfl
      apply hsigma
      rw [← hb]
      exact List.mem_map.mpr ⟨'ς', hc, by decide⟩
    rw [hab, ← hb, map_mergeSigma_eq_self hnot]
    exact List.suffix_append a b

/-- **Ends in small letters.** A text ends in small letters as the last part of it does. -/
theorem suffix_lower_append {ending : List Char} (hfinal : 'ς' ∉ ending) (hsigma : 'σ' ∉ ending)
    (front text : String) (h : ending <:+ (lower text).toList) :
    ending <:+ (lower (front ++ text)).toList := by
  rw [suffix_lower_iff hfinal hsigma] at h ⊢
  rw [String.toList_append, List.flatMap_append]
  exact h.trans (List.suffix_append _ _)

/-! ### Slashes -/

/-- What is found by bisection is one of the rows, and starts no later. -/
theorem lastStart_spec {α : Type} {first : α → Nat} {rows : Array α} {n lo hi : Nat} {row : α}
    (h : lastStart first rows n lo hi = some row) : row ∈ rows ∧ first row ≤ n := by
  fun_induction lastStart first rows n lo hi with
  | case1 lo hi hb hmid mid hle r hr ih =>
    obtain rfl := Option.some.inj h
    exact ih hr
  | case2 lo hi hb hmid mid hle hr ih =>
    obtain rfl := Option.some.inj h
    exact ⟨Array.getElem_mem hmid, hle⟩
  | case3 lo hi hb hmid mid hle ih => exact ih h
  | case4 => simp at h

/-- What a row makes of a character is none of the first ones. -/
theorem lt_of_lowerShifts {n m : Nat} (h : lowerShifts.apply? n = some m) : '/'.toNat < m := by
  have hrows : ∀ row ∈ lowerShifts.rows.toList, ('/'.toNat : Int) < row.first + row.delta := by
    decide +kernel
  unfold CodeShift.apply? at h
  split at h
  · rename_i row hrow
    obtain ⟨hmem, hfirst⟩ := lastStart_spec hrow
    have hlt := hrows row (Array.mem_toList_iff.mpr hmem)
    split at h
    · obtain rfl := Option.some.inj h
      omega
    · simp at h
  · simp at h

/-- The number of a character is the one that makes it, unless it stands for numbers that make no
    character. -/
theorem eq_toNat_of_ofNat_eq {n : Nat} {c : Char} (hc : c ≠ Char.ofNat 0)
    (h : Char.ofNat n = c) : n = c.toNat := by
  by_cases hvalid : n.isValidChar
  · rw [Char.ofNat, dif_pos hvalid] at h
    exact congrArg Char.toNat h
  · rw [Char.ofNat, dif_neg hvalid] at h
    exact absurd h.symm hc

theorem mem_lowerChar_slash_iff {c : Char} : '/' ∈ lowerChar c ↔ c = '/' := by
  unfold lowerChar
  split
  · rename_i hascii
    -- There are few characters below this bound, so all of them can be tried.
    have hall : ∀ n < 128, '/' ∈ [if 'A' ≤ Char.ofNat n && Char.ofNat n ≤ 'Z' then
        Char.ofNat ((Char.ofNat n).toNat + 32) else Char.ofNat n] ↔ Char.ofNat n = '/' := by
      decide
    have h := hall c.toNat hascii
    rwa [Char.ofNat_toNat] at h
  · rename_i hascii
    have hne : c ≠ '/' := by
      rintro rfl
      exact hascii (by decide)
    simp only [hne, iff_false]
    split
    · decide
    · split
      · rename_i m hm
        rw [List.mem_singleton]
        intro heq
        have hlt := lt_of_lowerShifts hm
        rw [eq_toNat_of_ofNat_eq (by decide) heq.symm] at hlt
        omega
      · simpa using hne.symm

/-- **Slashes** are no letters: a text in small letters has one if and only if the text has. -/
theorem slash_mem_lower_iff (text : String) : '/' ∈ (lower text).toList ↔ '/' ∈ text.toList := by
  -- Neither sigma is a slash, so it makes no difference which of them stands for the other.
  have hmerge : ∀ cs : List Char, '/' ∈ cs.map mergeSigma ↔ '/' ∈ cs := by
    intro cs
    have hone : ∀ c, mergeSigma c = '/' ↔ c = '/' := by
      intro c
      unfold mergeSigma
      split
      · rename_i hc
        rw [hc]
        decide
      · rfl
    simp only [List.mem_map, hone, exists_eq_right]
  have himage : ∀ c, '/' ∈ smallImage c ↔ c = '/' := by
    intro c
    unfold smallImage
    split
    · rename_i hsigma
      have hne : c ≠ '/' := by
        rintro rfl
        exact absurd hsigma (by decide)
      simp only [hne, iff_false]
      decide
    · rw [hmerge, mem_lowerChar_slash_iff]
  rw [← hmerge, map_mergeSigma_lower, List.mem_flatMap]
  simp only [himage, exists_eq_right]

/-- The numbers of the characters that are white space. -/
def blankNumbers : List Nat :=
  [9, 10, 11, 12, 13, 28, 29, 30, 31, 32, 0x85, 0xA0, 0x1680, 0x2000, 0x2001, 0x2002, 0x2003,
    0x2004, 0x2005, 0x2006, 0x2007, 0x2008, 0x2009, 0x200A, 0x2028, 0x2029, 0x202F, 0x205F, 0x3000]

theorem toNat_mem_blankNumbers {c : Char} (h : isBlank c = true) : c.toNat ∈ blankNumbers := by
  simp only [isBlank, Bool.or_eq_true, Bool.and_eq_true, decide_eq_true_eq, beq_iff_eq] at h
  simp only [blankNumbers, List.mem_cons, List.not_mem_nil, or_false]
  omega

/-- **White space** is no letter: a text in small letters has all that the text has. -/
theorem mem_lower_of_isBlank {c : Char} {text : String} (hc : isBlank c = true)
    (h : c ∈ text.toList) : c ∈ (lower text).toList := by
  have hall : ∀ n ∈ blankNumbers, smallImage (Char.ofNat n) = [Char.ofNat n] ∧
      Char.ofNat n ≠ 'σ' := by decide +kernel
  have hself := hall c.toNat (toNat_mem_blankNumbers hc)
  rw [Char.ofNat_toNat] at hself
  have himage : c ∈ text.toList.flatMap smallImage :=
    List.mem_flatMap.mpr ⟨c, h, by rw [hself.1]; exact List.mem_singleton_self c⟩
  rw [← map_mergeSigma_lower] at himage
  obtain ⟨d, hd, hmerge⟩ := List.mem_map.mp himage
  -- Only a sigma is changed into a sigma.
  have hsame : d = c := by
    unfold mergeSigma at hmerge
    split at hmerge
    · exact absurd hmerge.symm hself.2
    · exact hmerge
  exact hsame ▸ hd

/-- What comes before a slash has no part in an end without one, however the characters in front
    change in small letters. -/
theorem suffix_lower_append_slash {ending : List Char} (hfinal : 'ς' ∉ ending)
    (hsigma : 'σ' ∉ ending) (hslash : '/' ∉ ending) (front text : String) :
    ending <:+ (lower (front ++ "/" ++ text)).toList ↔ ending <:+ (lower text).toList := by
  refine ⟨fun h => ?_, suffix_lower_append hfinal hsigma _ _⟩
  rw [suffix_lower_iff hfinal hsigma] at h ⊢
  have himage : smallImage '/' = ['/'] := by decide
  have hsplit : (front ++ "/" ++ text).toList.flatMap smallImage =
      front.toList.flatMap smallImage ++ '/' :: text.toList.flatMap smallImage := by
    simp [himage]
  rw [hsplit] at h
  have hrest : text.toList.flatMap smallImage <:+
      front.toList.flatMap smallImage ++ '/' :: text.toList.flatMap smallImage :=
    (List.suffix_cons _ _).trans (List.suffix_append _ _)
  rcases List.suffix_or_suffix_of_suffix h hrest with hshort | hlong
  · exact hshort
  -- An end that is longer begins at the slash or before it.
  · obtain ⟨more, rfl⟩ := hlong
    rcases more.eq_nil_or_concat with rfl | ⟨others, c, rfl⟩
    · exact List.suffix_refl _
    · have hc : c = '/' := by
        obtain ⟨before, hbefore⟩ := h
        rw [List.concat_eq_append, List.append_assoc, ← List.append_assoc before,
          List.singleton_append] at hbefore
        have hlast := (List.append_inj' hbefore rfl).2
        exact (List.cons.inj hlast).1
      exact absurd (by simp [hc]) hslash

end PackageAtlas.Text
