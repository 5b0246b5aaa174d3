import Mathlib.Algebra.Ring.Nat
import Mathlib.Data.List.TakeWhile
import PackageAtlas.Proofs.Package.Catalogue

namespace PackageAtlas

open Text (WideText isHalf)

/-!
# Texts of packages

The names and versions of packages are made of code points, so they can be told from what is written
of them:

* `WideText.IsCoded`: a wide text holds code points only;
* `WideText.eq_of_toString?`: such a text can be told from what is written of it;
* `isCoded_of_readText`, `isCoded_of_get?`: so are the texts in manifests;
* `IsListed.isCoded`: so are the names and versions of packages.
-/

namespace Text

/-! ### Code points -/

/-- A wide text holds nothing above the last code point. -/
def WideText.IsCoded (t : WideText) : Prop := ∀ n ∈ t.codes, n < 0x110000

theorem toNat_lt_of_char (c : Char) : c.toNat < 0x110000 := by
  have hvalid := c.valid
  simp only [UInt32.isValidChar, Nat.isValidChar] at hvalid
  show c.val.toNat < 0x110000
  omega

namespace WideText

variable {a b : WideText} {text : String}

theorem isCoded_ofString (text : String) : (ofString text).IsCoded := by
  intro n hn
  obtain ⟨c, -, rfl⟩ := List.mem_map.mp hn
  exact toNat_lt_of_char c

theorem IsCoded.append (ha : a.IsCoded) (hb : b.IsCoded) : (a.append b).IsCoded := by
  intro n hn
  rcases List.mem_append.mp hn with hn | hn
  · exact ha n hn
  · exact hb n hn

theorem firstHalves?_eq_none_iff : a.firstHalves? = none ↔ ∀ n ∈ a.codes, isHalf n = false := by
  have hprefix : a.codes.takeWhile (fun n => !isHalf n) <+: a.codes := List.takeWhile_prefix _
  have hall : a.codes.takeWhile (fun n => !isHalf n) = a.codes ↔
      ∀ n ∈ a.codes, isHalf n = false := by
    simp [List.takeWhile_eq_self_iff]
  rw [← hall, firstHalves?]
  constructor
  · intro h
    split at h
    · rename_i hnone
      exact hprefix.eq_of_length_le (List.drop_eq_nil_iff.mp hnone)
    · simp at h
  · intro h
    simp only [h, List.drop_length]

/-- What is written of a text are its code points as characters, if none of them is a half. -/
theorem toString?_eq_ok_iff :
    a.toString? = .ok text ↔ (∀ n ∈ a.codes, isHalf n = false) ∧ text = a.shown := by
  rw [← firstHalves?_eq_none_iff, toString?]
  rcases a.firstHalves? with _ | e <;> simp [eq_comm]

theorem toNat_ofNat_of_not_half {n : Nat} (hcode : n < 0x110000) (hhalf : isHalf n = false) :
    (Char.ofNat n).toNat = n := by
  have hvalid : n.isValidChar := by
    simp only [isHalf, Bool.and_eq_false_iff, decide_eq_false_iff_not, Nat.not_le] at hhalf
    unfold Nat.isValidChar
    omega
  rw [Char.ofNat, dif_pos hvalid]
  rfl

/-- **A text can be told from what is written of it.** -/
theorem eq_of_toString? (ha : a.IsCoded) (hb : b.IsCoded) (h : a.toString? = .ok text)
    (h' : b.toString? = .ok text) : a = b := by
  have hcodes : ∀ t : WideText, t.IsCoded → t.toString? = .ok text →
      t.codes = text.toList.map Char.toNat := by
    intro t ht hwritten
    obtain ⟨hhalves, rfl⟩ := toString?_eq_ok_iff.mp hwritten
    rw [shown, String.toList_ofList, List.map_map]
    have hsame : ∀ n ∈ t.codes, (Char.toNat ∘ Char.ofNat) n = id n :=
      fun n hn => toNat_ofNat_of_not_half (ht n hn) (hhalves n hn)
    rw [List.map_congr_left hsame, List.map_id]
  have heq := (hcodes a ha h).trans (hcodes b hb h').symm
  cases a
  cases b
  exact congrArg WideText.mk heq

end WideText

/-! ### Hexadecimal digits -/

theorem hexDigit?_lt {c : Char} {d : Nat} (h : hexDigit? c = some d) : d < 16 := by
  -- Letters and digits come one after another, so that their places can be counted.
  have hle : ∀ last : Char, c ≤ last → c.toNat ≤ last.toNat := fun _ hc => hc
  unfold hexDigit? at h
  simp only [Bool.and_eq_true, decide_eq_true_eq] at h
  split at h
  · rename_i hc
    have hlast := hle '9' hc.2
    simp at h hlast
    omega
  split at h
  · rename_i hc
    have hlast := hle 'f' hc.2
    simp at h hlast
    omega
  split at h
  · rename_i hc
    have hlast := hle 'F' hc.2
    simp at h hlast
    omega
  · simp at h

/-- A number that is read digit by digit has as many places as there are digits, and those that it
    had before. -/
theorem foldl_lt_pow {step : Nat → Char → Nat}
    (hstep : ∀ n k c, n < 16 ^ k → step n c < 16 ^ (k + 1)) (cs : List Char) {n k : Nat}
    (hn : n < 16 ^ k) : cs.foldl step n < 16 ^ (k + cs.length) := by
  induction cs generalizing n k with
  | nil => exact hn
  | cons c cs ih =>
    rw [List.foldl_cons, List.length_cons, Nat.add_comm cs.length 1, ← Nat.add_assoc]
    exact ih (hstep n k c hn)

theorem hexNumber_lt (cs : List Char) : hexNumber cs < 16 ^ cs.length := by
  rw [← Nat.zero_add cs.length]
  refine foldl_lt_pow (fun n k c hn => ?_) cs (by simp)
  rw [Nat.pow_succ]
  rcases hc : hexDigit? c with _ | d
  · simp only
    omega
  · have hd := hexDigit?_lt hc
    simp only
    omega

end Text

namespace Package

/-! ### Texts in manifests -/

variable {t : WideText} {cs rest : List Char}

theorem fourDigits?_lt {n : Nat} (h : fourDigits? cs = some (n, rest)) : n < 0x10000 := by
  unfold fourDigits? at h
  split at h
  · split at h
    · obtain ⟨rfl, -⟩ := Prod.mk.inj (Option.some.inj h)
      refine Nat.lt_of_lt_of_eq (Text.hexNumber_lt _) ?_
      simp
    · simp at h
  · simp at h

theorem unicodeEscape?_lt {n : Nat} (h : unicodeEscape? cs = some (n, rest)) : n < 0x110000 := by
  unfold unicodeEscape? at h
  split at h
  · simp at h
  rename_i high rest' hhigh
  have hlt := fourDigits?_lt hhigh
  have hself : ∀ {more : List Char}, some (high, more) = some (n, rest) → n < 0x110000 := by
    intro more heq
    obtain ⟨rfl, -⟩ := Prod.mk.inj (Option.some.inj heq)
    omega
  split at h
  · rename_i hhalf
    split at h
    · split at h
      · split at h
        · -- Two halves of a pair make a code point of the last sixteen planes.
          rename_i hlow
          obtain ⟨rfl, -⟩ := Prod.mk.inj (Option.some.inj h)
          simp only [Bool.and_eq_true, decide_eq_true_eq] at hhalf hlow
          unfold joinHalves
          omega
        · exact hself h
      · simp at h
    · exact hself h
  · exact hself h

/-- The texts in manifests hold code points only. -/
theorem isCoded_of_readText {fuel : Nat} {done : List Nat}
    (h : readText fuel done cs = some (t, rest)) (hdone : ∀ n ∈ done, n < 0x110000) :
    t.IsCoded := by
  induction fuel generalizing done cs with
  | zero => simp [readText] at h
  | succ fuel ih =>
    have hmore : ∀ {n : Nat}, n < 0x110000 → ∀ m ∈ n :: done, m < 0x110000 := by
      intro n hn m hm
      rcases List.mem_cons.mp hm with rfl | hm
      · exact hn
      · exact hdone m hm
    rcases cs with _ | ⟨c, cs⟩
    · simp [readText] at h
    -- A text ends with a quote, or goes on with an escape or with a character that stands for
    -- itself.
    unfold readText at h
    split at h
    · obtain ⟨rfl, -⟩ := Prod.mk.inj (Option.some.inj h)
      exact fun n hn => hdone n (List.mem_reverse.mp hn)
    split at h
    · split at h
      · split at h
        · rename_i hescape
          exact ih h (hmore (unicodeEscape?_lt hescape))
        · simp at h
      · split at h
        · exact ih h (hmore (Text.toNat_lt_of_char _))
        · simp at h
      · simp at h
    split at h
    · simp at h
    · exact ih h (hmore (Text.toNat_lt_of_char c))

variable {v : Value} {depth : Nat}

/-- If a value is a text, it holds code points only. -/
def Value.IsCodedText (v : Value) : Prop := ∀ t, v = .text t → t.IsCoded

theorem eq_number_of_readNumber (h : readNumber cs = some (v, rest)) : ∃ b, v = .number b := by
  unfold readNumber at h
  simp only at h
  split at h
  · simp at h
  split at h
  · split at h
    · simp at h
    · exact ⟨_, (Prod.mk.inj (Option.some.inj h)).1.symm⟩
  · exact ⟨_, (Prod.mk.inj (Option.some.inj h)).1.symm⟩
  · exact ⟨_, (Prod.mk.inj (Option.some.inj h)).1.symm⟩
  · exact ⟨_, (Prod.mk.inj (Option.some.inj h)).1.symm⟩

/-- Words and numbers hold no texts. -/
theorem isPlain_of_readPlain (h : readPlain cs = some (v, rest)) :
    (∀ t, v ≠ .text t) ∧ ∀ fields, v ≠ .record fields := by
  unfold readPlain at h
  simp only at h
  split at h
  · rename_i found hfound
    obtain rfl := Option.some.inj h
    -- There are six words, none of which means a text or a record.
    obtain ⟨⟨word, value⟩, hword, hvalue⟩ := List.exists_of_findSome?_eq_some hfound
    obtain ⟨more, -, heq⟩ := Option.map_eq_some_iff.mp hvalue
    obtain ⟨rfl, -⟩ := Prod.mk.inj heq
    simp only [List.mem_cons, Prod.mk.injEq, List.not_mem_nil, or_false] at hword
    rcases hword with ⟨-, rfl⟩ | ⟨-, rfl⟩ | ⟨-, rfl⟩ | ⟨-, rfl⟩ | ⟨-, rfl⟩ | ⟨-, rfl⟩ <;>
      exact ⟨by simp, by simp⟩
  · have hnumber : ∃ b, v = .number b := by
      split at h
      · exact eq_number_of_readNumber h
      · exact eq_number_of_readNumber h
    obtain ⟨b, rfl⟩ := hnumber
    exact ⟨by simp, by simp⟩

/-- A value that is read is a text of code points, a record of fields that were read, or something
    else. -/
theorem readValue_cases (h : readValue (depth + 1) cs = some (v, rest)) :
    (∃ t, v = .text t ∧ t.IsCoded) ∨
      (∃ fields, v = .record fields ∧ (fields = [] ∨ ∃ behind more,
        readFields depth [] behind = some (fields, more))) ∨
      ((∀ t, v ≠ .text t) ∧ ∀ fields, v ≠ .record fields) := by
  unfold readValue at h
  split at h
  · split at h
    · rename_i t more hread
      obtain ⟨rfl, -⟩ := Prod.mk.inj (Option.some.inj h)
      exact Or.inl ⟨t, rfl, isCoded_of_readText hread (by simp)⟩
    · simp at h
  · -- What begins with a bracket is a list, whatever its items are.
    have hlist : ∃ items, v = .list items := by
      split at h
      · exact ⟨_, (Prod.mk.inj (Option.some.inj h)).1.symm⟩
      · split at h
        · exact ⟨_, (Prod.mk.inj (Option.some.inj h)).1.symm⟩
        · simp at h
    obtain ⟨items, rfl⟩ := hlist
    exact Or.inr (Or.inr ⟨by simp, by simp⟩)
  · refine Or.inr (Or.inl ?_)
    split at h
    · exact ⟨[], (Prod.mk.inj (Option.some.inj h)).1.symm, Or.inl rfl⟩
    · split at h
      · rename_i hfields
        exact ⟨_, (Prod.mk.inj (Option.some.inj h)).1.symm, Or.inr ⟨_, _, hfields⟩⟩
      · simp at h
  · exact Or.inr (Or.inr (isPlain_of_readPlain h))

theorem isCodedText_of_readValue (h : readValue depth cs = some (v, rest)) : v.IsCodedText := by
  rcases depth with _ | depth
  · simp [readValue] at h
  intro t ht
  rcases readValue_cases h with ⟨t', rfl, hcoded⟩ | ⟨fields, rfl, -⟩ | ⟨hno, -⟩
  · obtain rfl := Value.text.inj ht
    exact hcoded
  · simp at ht
  · exact absurd ht (hno t)

theorem isCodedText_of_readFields {done fields : List (WideText × Value)}
    (h : readFields depth done cs = some (fields, rest))
    (hdone : ∀ f ∈ done, f.2.IsCodedText) : ∀ f ∈ fields, f.2.IsCodedText := by
  induction depth generalizing done cs with
  | zero => simp [readFields] at h
  | succ depth ih =>
    unfold readFields at h
    split at h
    · split at h
      · simp at h
      split at h
      · split at h
        · simp at h
        · rename_i key _ _ _ _ _ _ v _ hv
          -- One field more has been read; a brace ends the record, and a comma goes on.
          have hmore : ∀ f ∈ (key, v) :: done, f.2.IsCodedText := by
            intro f hf
            rcases List.mem_cons.mp hf with rfl | hf
            · exact isCodedText_of_readValue hv
            · exact hdone f hf
          split at h
          · obtain ⟨rfl, -⟩ := Prod.mk.inj (Option.some.inj h)
            exact fun f hf => hmore f (List.mem_reverse.mp hf)
          · exact ih h hmore
          · simp at h
      · simp at h
    · simp at h

/-- The value that a whole text is was read. -/
theorem exists_readValue_of_valueOf? {text : String} (h : valueOf? text = some v) :
    ∃ depth cs rest, readValue (depth + 1) cs = some (v, rest) := by
  unfold valueOf? at h
  simp only at h
  split at h
  · rename_i hread
    split at h
    · obtain rfl := Option.some.inj h
      exact ⟨_, _, _, hread⟩
    · simp at h
  · simp at h

/-- The texts that a manifest has under a name hold code points only. -/
theorem isCoded_of_get? {text name : String} (h : valueOf? text = some v)
    (ht : (v.get? name).bind Value.text? = some t) : t.IsCoded := by
  obtain ⟨depth, cs, rest, hread⟩ := exists_readValue_of_valueOf? h
  obtain ⟨field, hfield, htext⟩ := Option.bind_eq_some_iff.mp ht
  -- Only a record has fields, and those of a record were read one after another.
  have hcoded : field.IsCodedText := by
    cases v with
    | record fields =>
      obtain ⟨f, hf, rfl⟩ := Option.map_eq_some_iff.mp hfield
      have hmem : f ∈ fields := (List.mem_filter.mp (List.mem_of_getLast? hf)).1
      rcases readValue_cases hread with ⟨t', heq, -⟩ | ⟨fields', heq, hfields⟩ | ⟨-, hno⟩
      · simp at heq
      · obtain rfl := Value.record.inj heq
        rcases hfields with rfl | ⟨behind, left, hfields⟩
        · simp at hmem
        · exact isCodedText_of_readFields hfields (by simp) f hmem
      · exact absurd rfl (hno fields)
    | _ => simp [Value.get?] at hfield
  cases field with
  | text found =>
    rw [Value.text?] at htext
    split at htext
    · simp at htext
    · obtain rfl := Option.some.inj htext
      exact hcoded _ rfl
  | _ => simp [Value.text?] at htext

/-! ### Names and versions -/

variable {fs : FileSystem} {here : Standpoint} {p : Package} {top : String}

/-- The name and the version of a package hold code points only. -/
theorem isCoded_of_inDirectory? {dir fallback : String}
    (h : inDirectory? fs here dir fallback = some p) : p.name.IsCoded ∧ p.version.IsCoded := by
  -- What stands in for a text that the manifest does not give holds characters.
  have hgiven : ∀ (name : String) (otherwise : String),
      ((((readManifest fs here (Path.join dir manifestName)).getD .null).get? name).bind
        Value.text?).getD (WideText.ofString otherwise) |>.IsCoded := by
    intro name otherwise
    rcases hget : (((readManifest fs here (Path.join dir manifestName)).getD .null).get?
      name).bind Value.text? with _ | t
    · exact WideText.isCoded_ofString otherwise
    · rcases hmanifest : readManifest fs here (Path.join dir manifestName) with _ | manifest
      · rw [hmanifest] at hget
        simp [Value.get?] at hget
      · rw [hmanifest] at hget
        unfold readManifest at hmanifest
        split at hmanifest
        · obtain ⟨text, -, hvalue⟩ := Option.bind_eq_some_iff.mp hmanifest
          exact isCoded_of_get? hvalue hget
        · simp at hmanifest
  unfold inDirectory? at h
  simp only at h
  split at h
  · obtain rfl := Option.some.inj h
    exact ⟨hgiven "name" fallback, hgiven "version" "unknown"⟩
  · simp at h

/-- **Names and versions hold code points only.** -/
theorem IsListed.isCoded (h : IsListed fs here top p) (hfs : fs.WellFormed) :
    p.name.IsCoded ∧ p.version.IsCoded := by
  obtain ⟨dir, fallback, -, hp⟩ := h.exists_inDirectory? (Q := fun _ => True) hfs trivial
    (fun _ _ _ _ => trivial)
  exact isCoded_of_inDirectory? hp

end Package

end PackageAtlas
