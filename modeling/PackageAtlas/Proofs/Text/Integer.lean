import Mathlib.Data.List.DropRight
import Mathlib.Data.Nat.Digits.Defs
import PackageAtlas.Proofs.Text.Case
import PackageAtlas.Text.Integer
import PackageAtlas.Text.Lines

namespace PackageAtlas.Text

/-!
# Integers in text, by a grammar

* `MoreDigits`, `Digits`: digits of any script, with single underscores between them;
* `Sign`, `WritesInteger`: signs, and the texts of an integer;
* `drop_around`, `exists_eq_around`: what is left without the white space around it;
* `integer?_eq_some_iff`: the integer of a text is the one that it writes.
-/

/-! ### The grammar -/

/-- What may come behind a digit, with the values of its digits: nothing, or another digit, before
    which an underscore may stand. -/
inductive MoreDigits : List Char → List Nat → Prop where
  | none : MoreDigits [] []
  | next {c : Char} {cs : List Char} {d : Nat} {ds : List Nat} (h : decimalValue? c = some d)
      (more : MoreDigits cs ds) : MoreDigits (c :: cs) (d :: ds)
  | apart {c : Char} {cs : List Char} {d : Nat} {ds : List Nat} (h : decimalValue? c = some d)
      (more : MoreDigits cs ds) : MoreDigits ('_' :: c :: cs) (d :: ds)

/-- Digits with their values, the first one first. -/
inductive Digits : List Char → List Nat → Prop where
  | first {c : Char} {cs : List Char} {d : Nat} {ds : List Nat} (h : decimalValue? c = some d)
      (more : MoreDigits cs ds) : Digits (c :: cs) (d :: ds)

/-- A sign, and what it does to a number. -/
inductive Sign : List Char → Int → Prop where
  | none : Sign [] 1
  | plus : Sign ['+'] 1
  | minus : Sign ['-'] (-1)

/-- A text writes an integer: it is made of a sign and of digits, not too many of them, with white
    space around them. -/
inductive WritesInteger : String → Int → Prop where
  | intro {before sign digits after : List Char} {factor : Int} {ds : List Nat}
      (hbefore : ∀ c ∈ before, isIntegerBlank c = true) (hsign : Sign sign factor)
      (hdigits : Digits digits ds) (hlimit : ds.length ≤ digitLimit)
      (hafter : ∀ c ∈ after, isIntegerBlank c = true) :
      WritesInteger (String.ofList (before ++ (sign ++ digits) ++ after))
        (factor * (Nat.ofDigits 10 ds.reverse : Nat))

variable {c : Char} {cs : List Char} {d : Nat} {ds : List Nat} {text : String} {n : Int}

/-! ### Digits -/

/-- A digit lies behind the zero of its script. -/
theorem exists_zero_of_decimalValue? (h : decimalValue? c = some d) :
    ∃ first ∈ decimalZeros, ∃ k < 10, c = Char.ofNat (first + k) := by
  unfold decimalValue? at h
  split at h
  · rename_i first hrow
    obtain ⟨hmem, hfirst⟩ := lastStart_spec hrow
    rw [id] at hfirst
    split at h
    · exact ⟨first, hmem, c.toNat - first, by omega,
        by rw [Nat.add_sub_cancel' hfirst, Char.ofNat_toNat]⟩
    · simp at h
  · simp at h

/-- No digit is white space, and none is a sign or an underscore. -/
theorem not_digit_of_decimalValue? (h : decimalValue? c = some d) :
    isIntegerBlank c = false ∧ c ≠ '_' ∧ c ≠ '+' ∧ c ≠ '-' := by
  have hall : ∀ first ∈ decimalZeros.toList, ∀ k < 10,
      isIntegerBlank (Char.ofNat (first + k)) = false ∧ Char.ofNat (first + k) ≠ '_' ∧
        Char.ofNat (first + k) ≠ '+' ∧ Char.ofNat (first + k) ≠ '-' := by
    decide +kernel
  obtain ⟨first, hfirst, k, hk, rfl⟩ := exists_zero_of_decimalValue? h
  exact hall first (Array.mem_toList_iff.mpr hfirst) k hk

theorem MoreDigits.not_blank (h : MoreDigits cs ds) : ∀ c ∈ cs, isIntegerBlank c = false := by
  induction h with
  | none => simp
  | next h _ ih => exact List.forall_mem_cons.mpr ⟨(not_digit_of_decimalValue? h).1, ih⟩
  | apart h _ ih =>
    exact List.forall_mem_cons.mpr ⟨by decide,
      List.forall_mem_cons.mpr ⟨(not_digit_of_decimalValue? h).1, ih⟩⟩

theorem Digits.not_blank (h : Digits cs ds) : ∀ c ∈ cs, isIntegerBlank c = false := by
  obtain ⟨hc, more⟩ := h
  exact List.forall_mem_cons.mpr ⟨(not_digit_of_decimalValue? hc).1, more.not_blank⟩

theorem Sign.not_blank {factor : Int} (h : Sign cs factor) :
    ∀ c ∈ cs, isIntegerBlank c = false := by
  cases h with
  | none => exact List.forall_mem_nil _
  | plus => exact List.forall_mem_singleton.mpr (by decide)
  | minus => exact List.forall_mem_singleton.mpr (by decide)

theorem digitValuesAfter_apart (h : decimalValue? c = some d) (last : Nat) (done : List Nat)
    (cs : List Char) :
    digitValuesAfter (last :: done) ('_' :: c :: cs) =
      digitValuesAfter (d :: last :: done) cs := by
  simp [digitValuesAfter, h]

theorem digitValuesAfter_digit (h : decimalValue? c = some d) (done : List Nat) (cs : List Char) :
    digitValuesAfter done (c :: cs) = digitValuesAfter (d :: done) cs := by
  rw [digitValuesAfter, h]
  rintro a as rfl
  exact absurd rfl (not_digit_of_decimalValue? h).2.1

/-- Behind a digit the values of more digits are read. -/
theorem digitValuesAfter_eq_some_iff {done values : List Nat} (hne : done ≠ []) :
    digitValuesAfter done cs = some values ↔
      ∃ ds, MoreDigits cs ds ∧ values = ds.reverse ++ done := by
  constructor
  · intro h
    -- By the cases of the reader: behind a digit stands nothing, a digit, or a bar and a digit.
    fun_induction digitValuesAfter done cs with
    | case1 done => exact ⟨[], .none, (Option.some.inj h).symm⟩
    | case2 c cs last done d hc ih =>
      obtain ⟨ds, hmore, rfl⟩ := ih (List.cons_ne_nil _ _) h
      exact ⟨d :: ds, .apart hc hmore, by simp⟩
    | case4 done c cs _ d hc ih =>
      obtain ⟨ds, hmore, rfl⟩ := ih (List.cons_ne_nil _ _) h
      exact ⟨d :: ds, .next hc hmore, by simp⟩
    | case3 => simp at h
    | case5 => simp at h
  · rintro ⟨ds, hmore, rfl⟩
    induction hmore generalizing done with
    | none => rfl
    | next hc _ ih => rw [digitValuesAfter_digit hc, ih (List.cons_ne_nil _ _)]; simp
    | apart hc _ ih =>
      obtain ⟨last, done, rfl⟩ := List.exists_cons_of_ne_nil hne
      rw [digitValuesAfter_apart hc, ih (List.cons_ne_nil _ _)]
      simp

theorem Digits.ne_nil (h : Digits cs ds) : ds ≠ [] := by
  obtain ⟨-, -⟩ := h
  exact List.cons_ne_nil _ _

/-- The values of digits are read last one first, and those of nothing else. -/
theorem digitValuesAfter_nil_eq_some_iff {values : List Nat} (hne : values ≠ []) :
    digitValuesAfter [] cs = some values ↔ ∃ ds, Digits cs ds ∧ values = ds.reverse := by
  constructor
  · intro h
    -- The first character is a digit, as nothing is there that an underscore could stand behind.
    rcases cs with _ | ⟨c, cs⟩
    · exact absurd (Option.some.inj h).symm hne
    · rcases hc : decimalValue? c with _ | d
      · unfold digitValuesAfter at h
        split at h <;> simp_all
      · rw [digitValuesAfter_digit hc,
          digitValuesAfter_eq_some_iff (List.cons_ne_nil _ _)] at h
        obtain ⟨ds, hmore, rfl⟩ := h
        exact ⟨d :: ds, .first hc hmore, by simp⟩
  · rintro ⟨_, ⟨hc, hmore⟩, rfl⟩
    rw [digitValuesAfter_digit hc, digitValuesAfter_eq_some_iff (List.cons_ne_nil _ _)]
    exact ⟨_, hmore, by simp⟩

theorem foldr_eq_ofDigits (ds : List Nat) :
    ds.foldr (fun d n => n * 10 + d) 0 = Nat.ofDigits 10 ds := by
  induction ds with
  | nil => rfl
  | cons d ds ih =>
    rw [List.foldr_cons, ih, Nat.ofDigits_cons]
    omega

/-- A number is read from digits that are not too many, and from nothing else. -/
theorem natural?_eq_some_iff {n : Nat} :
    natural? cs = some n ↔
      ∃ ds, Digits cs ds ∧ ds.length ≤ digitLimit ∧ n = Nat.ofDigits 10 ds.reverse := by
  unfold natural?
  constructor
  · intro h
    split at h
    · simp at h
    · simp at h
    · rename_i values hne hvalues
      obtain ⟨ds, hdigits, rfl⟩ := (digitValuesAfter_nil_eq_some_iff (hne ·)).mp hvalues
      rw [List.length_reverse] at h
      split at h
      · simp at h
      · rename_i hlimit
        -- The digits were collected from the last one on.
        rw [← Option.some.inj h, foldr_eq_ofDigits]
        exact ⟨ds, hdigits, Nat.not_lt.mp hlimit, rfl⟩
  · rintro ⟨ds, hdigits, hlimit, rfl⟩
    have hne := List.reverse_ne_nil_iff.mpr hdigits.ne_nil
    rw [(digitValuesAfter_nil_eq_some_iff hne).mpr ⟨ds, hdigits, rfl⟩]
    split
    · simp_all
    · simp_all
    · rename_i values _ hvalues
      obtain rfl := Option.some.inj hvalues
      rw [List.length_reverse, if_neg (Nat.not_lt.mpr hlimit), foldr_eq_ofDigits]

/-! ### What stands around a text -/

section Around

variable {isOuter : Char → Bool}

/-- What is left out around a text is all of the sort that is left out. -/
theorem exists_eq_around (isOuter : Char → Bool) (cs : List Char) :
    ∃ before after, cs = before ++ (cs.dropWhile isOuter).rdropWhile isOuter ++ after ∧
      (∀ c ∈ before, isOuter c = true) ∧ ∀ c ∈ after, isOuter c = true := by
  refine ⟨cs.takeWhile isOuter, (cs.dropWhile isOuter).rtakeWhile isOuter, ?_,
    fun c hc => List.mem_takeWhile_imp hc, fun c hc => List.mem_rtakeWhile_imp hc⟩
  rw [List.append_assoc, List.rdropWhile_append_rtakeWhile, List.takeWhile_append_dropWhile]

/-- Nothing else is left out around what holds nothing of the sort. -/
theorem drop_around {before after : List Char} (hbefore : ∀ c ∈ before, isOuter c = true)
    (hne : cs ≠ []) (hcs : ∀ c ∈ cs, isOuter c = false) (hafter : ∀ c ∈ after, isOuter c = true) :
    ((before ++ cs ++ after).dropWhile isOuter).rdropWhile isOuter = cs := by
  have hfront : (cs ++ after).dropWhile isOuter = cs ++ after := by
    obtain ⟨c, rest, rfl⟩ := List.exists_cons_of_ne_nil hne
    rw [List.cons_append, List.dropWhile_cons_of_neg (by simp [hcs c List.mem_cons_self])]
  have hself : cs.rdropWhile isOuter = cs :=
    List.rdropWhile_eq_self_iff.mpr fun hl => by simp [hcs _ (List.getLast_mem hl)]
  rw [List.append_assoc, List.dropWhile_append_of_pos hbefore, hfront]
  rw [List.rdropWhile, List.reverse_append,
    List.dropWhile_append_of_pos (fun c hc => hafter c (List.mem_reverse.mp hc))]
  exact hself

end Around

theorem trimInteger_eq (cs : List Char) :
    trimInteger cs = (cs.dropWhile isIntegerBlank).rdropWhile isIntegerBlank := rfl

theorem trimList_eq (cs : List Char) :
    trimList cs = (cs.dropWhile isBlank).rdropWhile isBlank := rfl

/-! ### Integers -/

/-- The integer of a sign and the digits behind it. -/
def signed? : List Char → Option Int
  | '-' :: cs => (natural? cs).map (fun n : Nat => -(n : Int))
  | '+' :: cs => (natural? cs).map (fun n : Nat => (n : Int))
  | cs => (natural? cs).map (fun n : Nat => (n : Int))

theorem integer?_eq (text : String) : integer? text = signed? (trimInteger text.toList) := by
  unfold integer?
  generalize trimInteger text.toList = cs
  split
  · rename_i cs
    rw [signed?]
    cases natural? cs <;> rfl
  · rename_i cs
    rw [signed?]
    cases natural? cs <;> rfl
  · rename_i hminus hplus
    rw [signed?]
    · cases natural? _ <;> rfl
    · exact hminus
    · exact hplus

theorem signed?_of_digits (h : Digits cs ds) :
    signed? cs = (natural? cs).map (fun n : Nat => (n : Int)) := by
  obtain ⟨hc, -⟩ := h
  obtain ⟨-, -, hplus, hminus⟩ := not_digit_of_decimalValue? hc
  unfold signed?
  split
  · simp_all
  · simp_all
  · rfl

/-- A sign and digits that are not too many are read as an integer, and nothing else is. -/
theorem signed?_eq_some_iff :
    signed? cs = some n ↔ ∃ sign digits factor ds, cs = sign ++ digits ∧ Sign sign factor ∧
      Digits digits ds ∧ ds.length ≤ digitLimit ∧
        n = factor * (Nat.ofDigits 10 ds.reverse : Nat) := by
  constructor
  · intro h
    unfold signed? at h
    split at h <;> obtain ⟨k, hk, rfl⟩ := Option.map_eq_some_iff.mp h <;>
      obtain ⟨ds, hdigits, hlimit, rfl⟩ := natural?_eq_some_iff.mp hk
    · exact ⟨['-'], _, -1, ds, rfl, .minus, hdigits, hlimit, by simp⟩
    · exact ⟨['+'], _, 1, ds, rfl, .plus, hdigits, hlimit, by simp⟩
    · exact ⟨[], _, 1, ds, rfl, .none, hdigits, hlimit, by simp⟩
  · rintro ⟨sign, digits, factor, ds, rfl, hsign, hdigits, hlimit, rfl⟩
    have hnatural := natural?_eq_some_iff.mpr ⟨ds, hdigits, hlimit, rfl⟩
    cases hsign with
    | none => rw [List.nil_append, signed?_of_digits hdigits, hnatural]; simp
    | plus => simp [signed?, hnatural]
    | minus => simp [signed?, hnatural]

/-- **Integers.** The integer of a text is the one that it writes. -/
theorem integer?_eq_some_iff : integer? text = some n ↔ WritesInteger text n := by
  rw [integer?_eq, signed?_eq_some_iff]
  constructor
  · rintro ⟨sign, digits, factor, ds, htrim, hsign, hdigits, hlimit, rfl⟩
    obtain ⟨before, after, htext, hbefore, hafter⟩ := exists_eq_around isIntegerBlank text.toList
    rw [← trimInteger_eq, htrim] at htext
    rw [← String.ofList_toList (s := text), htext]
    exact .intro hbefore hsign hdigits hlimit hafter
  · rintro ⟨hbefore, hsign, hdigits, hlimit, hafter⟩
    rename_i sign digits after factor ds
    refine ⟨sign, digits, factor, ds, ?_, hsign, hdigits, hlimit, rfl⟩
    rw [String.toList_ofList, trimInteger_eq]
    -- Only blanks are trimmed, and neither a sign nor a digit is one.
    refine drop_around hbefore ?_ ?_ hafter
    · obtain ⟨-, -⟩ := hdigits
      simp
    · intro c hc
      rcases List.mem_append.mp hc with hc | hc
      · exact hsign.not_blank c hc
      · exact hdigits.not_blank c hc

/-- A text writes one integer at most. -/
theorem WritesInteger.unique {m : Int} (h : WritesInteger text n) (h' : WritesInteger text m) :
    n = m :=
  Option.some.inj ((integer?_eq_some_iff.mpr h).symm.trans (integer?_eq_some_iff.mpr h'))

end PackageAtlas.Text
