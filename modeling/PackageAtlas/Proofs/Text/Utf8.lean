import Mathlib.Data.List.Basic
import Mathlib.Tactic.SplitIfs
import PackageAtlas.Text.Utf8

namespace PackageAtlas.Text.Utf8

/-!
# Well-formed and broken sequences

The decoder looks at first bytes and at the bytes that may follow them. What it gives is told by the
bytes of characters alone:

* `Encoding`, `Spells`: the bytes of a character, by its number and by what its first byte promises;
  `spells_iff`: both are the same;
* `Broken`: the longest part of a character that is broken off, or a byte that is part of none;
* `First`, `Decodes`: what stands first in some bytes, and what they stand for;
* `decodes_iff`: that is what the decoder gives;
* `decode_append_ascii`: so a byte that is a character of its own ends whatever was begun before it.
-/

/-! ### First bytes -/

/-- What a first byte of the number `n` promises: the second byte leaves out what has a shorter
    sequence, halves of pairs, and numbers that are too great. -/
def Lead.Fits (n : Nat) : Lead → Prop
  | .ascii => n ≤ 0x7F
  | .stray => 0x80 ≤ n ∧ n ≤ 0xC1 ∨ 0xF5 ≤ n
  | .long more lo hi bits =>
    (more = 0 ∧ 0xC2 ≤ n ∧ n ≤ 0xDF ∧ bits = n - 0xC0 ∧ lo.toNat = 0x80 ∧ hi.toNat = 0xBF) ∨
    (more = 1 ∧ 0xE0 ≤ n ∧ n ≤ 0xEF ∧ bits = n - 0xE0 ∧
      (n = 0xE0 ∧ lo.toNat = 0xA0 ∨ n ≠ 0xE0 ∧ lo.toNat = 0x80) ∧
      (n = 0xED ∧ hi.toNat = 0x9F ∨ n ≠ 0xED ∧ hi.toNat = 0xBF)) ∨
    (more = 2 ∧ 0xF0 ≤ n ∧ n ≤ 0xF4 ∧ bits = n - 0xF0 ∧
      (n = 0xF0 ∧ lo.toNat = 0x90 ∨ n ≠ 0xF0 ∧ lo.toNat = 0x80) ∧
      (n = 0xF4 ∧ hi.toNat = 0x8F ∨ n ≠ 0xF4 ∧ hi.toNat = 0xBF))

instance (n : Nat) (promise : Lead) : Decidable (promise.Fits n) :=
  match promise with
  | .ascii => inferInstanceAs (Decidable (_ ≤ _))
  | .stray => inferInstanceAs (Decidable (_ ∨ _))
  | .long _ _ _ _ => inferInstanceAs (Decidable (_ ∨ _ ∨ _))

theorem fits_lead (b : UInt8) : (lead b).Fits b.toNat := by
  have hbytes : ∀ n : Fin 256, (lead (.ofFin n)).Fits n.val := by decide +kernel
  exact hbytes b.toFin

theorem exists_lead_long {b : UInt8} (hlow : 0xC2 ≤ b.toNat) (hhigh : b.toNat ≤ 0xF4) :
    ∃ more lo hi bits, lead b = .long more lo hi bits := by
  have hfits := fits_lead b
  rcases hlead : lead b with _ | ⟨more, lo, hi, bits⟩ | _ <;> rw [hlead] at hfits
  · exact absurd hfits (by simp only [Lead.Fits]; omega)
  · exact ⟨more, lo, hi, bits, rfl⟩
  · exact absurd hfits (by simp only [Lead.Fits]; omega)

theorem lead_eq_ascii {b : UInt8} (h : b.toNat ≤ 0x7F) : lead b = .ascii := by
  rw [lead, if_pos (UInt8.lt_iff_toNat_lt.mpr (Nat.lt_succ_of_le h))]

theorem isContinuation_iff {b : UInt8} :
    isContinuation b = true ↔ 0x80 ≤ b.toNat ∧ b.toNat ≤ 0xBF := by
  rw [isContinuation, Bool.and_eq_true, decide_eq_true_iff, decide_eq_true_iff,
    UInt8.le_iff_toNat_le, UInt8.le_iff_toNat_le]
  rfl

/-! ### Sequences of characters -/

/-- The bytes of the number `n`: six bits of it in each of them but the first. -/
inductive Encoding (n : Nat) : List UInt8 → Prop
  | one {a : UInt8} (hhigh : n ≤ 0x7F) (ha : a.toNat = n) : Encoding n [a]
  | two {a b : UInt8} (hlow : 0x80 ≤ n) (hhigh : n ≤ 0x7FF) (ha : a.toNat = n / 64 + 0xC0)
      (hb : b.toNat = n % 64 + 0x80) : Encoding n [a, b]
  | three {a b c : UInt8} (hlow : 0x800 ≤ n) (hhigh : n ≤ 0xFFFF) (ha : a.toNat = n / 4096 + 0xE0)
      (hb : b.toNat = n / 64 % 64 + 0x80) (hc : c.toNat = n % 64 + 0x80) : Encoding n [a, b, c]
  | four {a b c d : UInt8} (hlow : 0x10000 ≤ n) (ha : a.toNat = n / 262144 + 0xF0)
      (hb : b.toNat = n / 4096 % 64 + 0x80) (hc : c.toNat = n / 64 % 64 + 0x80)
      (hd : d.toNat = n % 64 + 0x80) : Encoding n [a, b, c, d]

theorem encoding_utf8EncodeChar (c : Char) : Encoding c.toNat (String.utf8EncodeChar c) := by
  have hvalid : c.toNat < 0xD800 ∨ 0xDFFF < c.toNat ∧ c.toNat < 0x110000 := c.valid
  have hval : c.val.toNat = c.toNat := rfl
  have hbyte : ∀ {m k : Nat}, m < 256 → m = k → (UInt8.ofNat m).toNat = k := by
    rintro m k hm rfl
    rw [UInt8.toNat_ofNat', Nat.mod_eq_of_lt hm]
  unfold String.utf8EncodeChar
  simp only [hval]
  split_ifs with hone htwo hthree
  · exact .one hone (hbyte (by omega) rfl)
  · exact .two (by omega) htwo (hbyte (by omega) (by omega)) (hbyte (by omega) rfl)
  · exact .three (by omega) hthree (hbyte (by omega) (by omega)) (hbyte (by omega) rfl)
      (hbyte (by omega) rfl)
  · exact .four (by omega) (hbyte (by omega) (by omega)) (hbyte (by omega) rfl)
      (hbyte (by omega) rfl) (hbyte (by omega) rfl)

/-- A number has one sequence of bytes. -/
theorem Encoding.unique {n : Nat} {bs bs' : List UInt8} (h : Encoding n bs) (h' : Encoding n bs') :
    bs = bs' := by
  cases h <;> cases h' <;> first
    | omega
    | simp only [List.cons.injEq, ← UInt8.toNat_inj, and_true]; omega

/-- The number that further bytes make of the payload of the bytes before them. -/
def payload (bits : Nat) (tail : List UInt8) : Nat :=
  tail.foldl (fun n b => n * 64 + (b.toNat - 0x80)) bits

theorem payload_cons (bits : Nat) (b : UInt8) (tail : List UInt8) :
    payload bits (b :: tail) = payload (bits * 64 + (b.toNat - 0x80)) tail := by
  rw [payload, payload, List.foldl_cons]

/-- The sequences that are characters, with the numbers of these, by what first bytes promise. -/
inductive Spells : List UInt8 → Nat → Prop
  | ascii {b : UInt8} (hlead : lead b = .ascii) : Spells [b] b.toNat
  | long {b second lo hi : UInt8} {more bits : Nat} {tail : List UInt8}
      (hlead : lead b = .long more lo hi bits) (hlo : lo ≤ second) (hhi : second ≤ hi)
      (hlength : tail.length = more) (htail : ∀ c ∈ tail, isContinuation c = true) :
    Spells (b :: second :: tail) (payload bits (second :: tail))

/-- A sequence is told by the numbers of its bytes. -/
theorem spells_of_toNat {b second : UInt8} {tail : List UInt8} {n : Nat}
    (hlow : 0xC2 ≤ b.toNat) (hhigh : b.toNat ≤ 0xF4)
    (h : ∀ more lo hi bits, (Lead.long more lo hi bits).Fits b.toNat →
      lo.toNat ≤ second.toNat ∧ second.toNat ≤ hi.toNat ∧ tail.length = more ∧
        payload bits (second :: tail) = n)
    (htail : ∀ c ∈ tail, 0x80 ≤ c.toNat ∧ c.toNat ≤ 0xBF) : Spells (b :: second :: tail) n := by
  obtain ⟨more, lo, hi, bits, hlead⟩ := exists_lead_long hlow hhigh
  obtain ⟨hlo, hhi, hlength, rfl⟩ := h more lo hi bits (hlead ▸ fits_lead b)
  exact .long hlead (UInt8.le_iff_toNat_le.mpr hlo) (UInt8.le_iff_toNat_le.mpr hhi) hlength
    (fun c hc => isContinuation_iff.mpr (htail c hc))

/-- The bytes of a number that is a character are one of the sequences. -/
theorem spells_of_encoding {n : Nat} {bs : List UInt8} (h : Encoding n bs)
    (hvalid : n < 0xD800 ∨ 0xDFFF < n ∧ n < 0x110000) : Spells bs n := by
  -- By the number of bytes; in each case their payload is the number again.
  cases h with
  | one hhigh ha =>
    rw [← ha]
    exact .ascii (lead_eq_ascii (by omega))
  | two hlow hhigh ha hb =>
    refine spells_of_toNat (by omega) (by omega) (fun more lo hi bits hfits => ?_) (by simp)
    simp only [Lead.Fits] at hfits
    simp only [List.length_nil, payload, List.foldl]
    omega
  | three hlow hhigh ha hb hc =>
    refine spells_of_toNat (by omega) (by omega) (fun more lo hi bits hfits => ?_) ?_
    · simp only [Lead.Fits] at hfits
      simp only [List.length_singleton, payload, List.foldl]
      omega
    · simp only [List.mem_singleton, forall_eq]
      omega
  | four hlow ha hb hc hd =>
    refine spells_of_toNat (by omega) (by omega) (fun more lo hi bits hfits => ?_) ?_
    · simp only [Lead.Fits] at hfits
      simp only [List.length_cons, List.length_nil, payload, List.foldl]
      omega
    · simp only [List.mem_cons, List.not_mem_nil, or_false, forall_eq_or_imp, forall_eq]
      omega

/-- Each of the sequences is the bytes of a number that is a character. -/
theorem encoding_of_spells {n : Nat} {bs : List UInt8} (h : Spells bs n) :
    Encoding n bs ∧ (n < 0xD800 ∨ 0xDFFF < n ∧ n < 0x110000) := by
  cases h with
  | @ascii b hlead =>
    have hfits := fits_lead b
    rw [hlead] at hfits
    exact ⟨.one hfits rfl, .inl (by simp only [Lead.Fits] at hfits; omega)⟩
  | @long b second lo hi more bits tail hlead hlo hhi hlength htail =>
    have hfits := fits_lead b
    simp only [hlead, Lead.Fits] at hfits
    rw [UInt8.le_iff_toNat_le] at hlo hhi
    simp only [isContinuation_iff] at htail
    -- The first byte tells how many bytes follow: one, two or three.
    rcases hfits with ⟨rfl, hfits⟩ | ⟨rfl, hfits⟩ | ⟨rfl, hfits⟩
    · obtain rfl := List.length_eq_zero_iff.mp hlength
      simp only [payload, List.foldl]
      exact ⟨.two (by omega) (by omega) (by omega) (by omega), by omega⟩
    · obtain ⟨third, rfl⟩ := List.length_eq_one_iff.mp hlength
      simp only [List.mem_singleton, forall_eq] at htail
      simp only [payload, List.foldl]
      exact ⟨.three (by omega) (by omega) (by omega) (by omega) (by omega), by omega⟩
    · obtain ⟨third, fourth, rfl⟩ := List.length_eq_two.mp hlength
      simp only [List.mem_cons, List.not_mem_nil, or_false, forall_eq_or_imp, forall_eq] at htail
      simp only [payload, List.foldl]
      exact ⟨.four (by omega) (by omega) (by omega) (by omega) (by omega), by omega⟩

/-- The sequences are the bytes of characters. -/
theorem spells_iff {bs : List UInt8} {n : Nat} :
    Spells bs n ↔ ∃ c : Char, String.utf8EncodeChar c = bs ∧ c.toNat = n := by
  constructor
  · intro h
    obtain ⟨hencoding, hvalid⟩ := encoding_of_spells h
    have hsame := encoding_utf8EncodeChar (Char.ofNatAux n hvalid)
    exact ⟨Char.ofNatAux n hvalid, hsame.unique hencoding, rfl⟩
  · rintro ⟨c, rfl, rfl⟩
    exact spells_of_encoding (encoding_utf8EncodeChar c) c.valid

/-! ### One step -/

variable {bs rest : List UInt8}

/-- What holds of some bytes if it holds of those that the decoder leaves behind one character. -/
@[elab_as_elim]
theorem decode_induction {motive : List UInt8 → Prop} (nil : motive [])
    (cons : ∀ b bs, motive (next b bs).2 → motive (b :: bs)) (bs : List UInt8) : motive bs := by
  induction hn : bs.length using Nat.strongRecOn generalizing bs with
  | _ n ih =>
    cases bs with
    | nil => exact nil
    | cons b bs =>
      have hlt : (next b bs).2.length < n := by
        have := next_length_le b bs
        rw [← hn, List.length_cons]
        omega
      exact cons b bs (ih _ hlt _ rfl)

/-- The bytes that a sequence still needs are taken off the front. -/
theorem continuation_append (bits : Nat) {tail : List UInt8}
    (htail : ∀ b ∈ tail, isContinuation b = true) (rest : List UInt8) :
    continuation tail.length bits (tail ++ rest) = (Char.ofNat (payload bits tail), rest) := by
  induction tail generalizing bits with
  | nil => rfl
  | cons b tail ih =>
    rw [List.length_cons, List.cons_append, continuation, if_pos (htail b List.mem_cons_self),
      ih _ (fun c hc => htail c (List.mem_cons_of_mem b hc)), payload_cons]

/-- Too few of them are passed over. -/
theorem continuation_of_lt {more : Nat} (bits : Nat) {tail : List UInt8}
    (hlt : tail.length < more) (htail : ∀ b ∈ tail, isContinuation b = true)
    (hrest : ∀ b, rest.head? = some b → isContinuation b = false) :
    continuation more bits (tail ++ rest) = (replacement, rest) := by
  induction tail generalizing bits more with
  | nil =>
    obtain ⟨more, rfl⟩ := Nat.exists_eq_add_one.mpr hlt
    cases rest with
    | nil => rfl
    | cons b rest => rw [List.nil_append, continuation, if_neg (by simp [hrest b rfl])]
  | cons b tail ih =>
    obtain ⟨more, rfl⟩ := Nat.exists_eq_add_one.mpr (Nat.zero_lt_of_lt hlt)
    rw [List.cons_append, continuation, if_pos (htail b List.mem_cons_self)]
    exact ih _ (by simpa using hlt) (fun c hc => htail c (List.mem_cons_of_mem b hc))

/-- Either there are enough such bytes, or the first byte behind them is none. -/
theorem exists_tail (more : Nat) (bs : List UInt8) :
    ∃ tail rest, bs = tail ++ rest ∧ (∀ b ∈ tail, isContinuation b = true) ∧
      (tail.length = more ∨
        tail.length < more ∧ ∀ b, rest.head? = some b → isContinuation b = false) := by
  induction bs generalizing more with
  | nil => exact ⟨[], [], rfl, by simp, by simp; omega⟩
  | cons b bs ih =>
    cases more with
    | zero => exact ⟨[], b :: bs, rfl, by simp, .inl rfl⟩
    | succ more =>
      by_cases hb : isContinuation b = true
      · obtain ⟨tail, rest, rfl, htail, hlength⟩ := ih more
        refine ⟨b :: tail, rest, rfl, List.forall_mem_cons.mpr ⟨hb, htail⟩, ?_⟩
        rw [List.length_cons, Nat.add_right_cancel_iff, Nat.add_lt_add_iff_right]
        exact hlength
      · exact ⟨[], b :: bs, rfl, by simp, .inr ⟨Nat.succ_pos more, by simpa using hb⟩⟩

/-- A sequence is decoded as its character. -/
theorem next_of_spells {b : UInt8} {n : Nat} (h : Spells (b :: bs) n) (rest : List UInt8) :
    next b (bs ++ rest) = (Char.ofNat n, rest) := by
  cases h with
  | ascii hlead => simp only [next, hlead, List.nil_append]
  | long hlead hlo hhi hlength htail =>
    simp only [next, hlead, List.cons_append, decide_eq_true hlo, decide_eq_true hhi, Bool.and_self,
      if_true]
    rw [← hlength, continuation_append _ htail, payload_cons]

/-! ### Broken sequences -/

/-- `part` stands in front of `rest` and is broken: no character stands there, and `part` is the
    longest that begins one, or a single byte. -/
structure Broken (part rest : List UInt8) : Prop where
  ne_nil : part ≠ []
  no_character : ∀ c, ¬ String.utf8EncodeChar c <+: part ++ rest
  begins : (∃ c, part <+: String.utf8EncodeChar c) ∨ part.length = 1
  longest : ∀ c (longer : List UInt8), longer <+: String.utf8EncodeChar c →
    longer <+: part ++ rest → longer.length ≤ part.length

/-- What stands first in some bytes, and what is behind it. -/
inductive First : List UInt8 → Char → List UInt8 → Prop
  | character (c : Char) (rest : List UInt8) : First (String.utf8EncodeChar c ++ rest) c rest
  | broken {part rest : List UInt8} (h : Broken part rest) : First (part ++ rest) replacement rest

/-- What begins a character. -/
inductive Partial : List UInt8 → Prop
  | nil : Partial []
  | one {b : UInt8} (hlead : lead b ≠ .stray) : Partial [b]
  | more {b second lo hi : UInt8} {more bits : Nat} {tail : List UInt8}
      (hlead : lead b = .long more lo hi bits) (hlo : lo ≤ second) (hhi : second ≤ hi)
      (hlength : tail.length ≤ more) (htail : ∀ c ∈ tail, isContinuation c = true) :
    Partial (b :: second :: tail)

theorem partial_of_isPrefix {part : List UInt8} {c : Char} (h : part <+: String.utf8EncodeChar c) :
    Partial part := by
  obtain ⟨n, hspells⟩ : ∃ n, Spells (String.utf8EncodeChar c) n := ⟨_, spells_iff.mpr ⟨c, rfl, rfl⟩⟩
  generalize String.utf8EncodeChar c = seq at h hspells
  -- Nothing, one byte, or two bytes and perhaps more.
  rcases part with _ | ⟨b, _ | ⟨second, tail⟩⟩
  · exact .nil
  · cases hspells with
    | ascii hlead =>
      obtain ⟨rfl, -⟩ := List.cons_prefix_cons.mp h
      exact .one (by simp [hlead])
    | long hlead =>
      obtain ⟨rfl, -⟩ := List.cons_prefix_cons.mp h
      exact .one (by simp [hlead])
  · cases hspells with
    | ascii hlead => simp at h
    | long hlead hlo hhi hlength htail =>
      obtain ⟨rfl, hrest⟩ := List.cons_prefix_cons.mp h
      obtain ⟨rfl, hmore⟩ := List.cons_prefix_cons.mp hrest
      exact .more hlead hlo hhi (hlength ▸ hmore.length_le) (fun c hc => htail c (hmore.subset hc))

/-- What a first and a second byte begin can be made a character. -/
theorem exists_character_of_tail {b second lo hi : UInt8} {more bits : Nat} {tail : List UInt8}
    (hlead : lead b = .long more lo hi bits) (hlo : lo ≤ second) (hhi : second ≤ hi)
    (hlength : tail.length ≤ more) (htail : ∀ c ∈ tail, isContinuation c = true) :
    ∃ c, b :: second :: tail <+: String.utf8EncodeChar c := by
  have hfilled : (tail ++ List.replicate (more - tail.length) 0x80).length = more := by
    rw [List.length_append, List.length_replicate]
    omega
  have hspells := Spells.long hlead hlo hhi hfilled (fun c hc => by
    rcases List.mem_append.mp hc with hc | hc
    · exact htail c hc
    · rw [List.eq_of_mem_replicate hc]
      decide)
  obtain ⟨c, hc, -⟩ := spells_iff.mp hspells
  refine ⟨c, ?_⟩
  rw [hc]
  exact ⟨List.replicate (more - tail.length) 0x80, rfl⟩

/-- A broken sequence is shorter than what its first byte promises. -/
theorem broken_of_lead {b : UInt8} {part rest : List UInt8}
    (hlonger : ∀ longer, Partial longer → longer <+: b :: part ++ rest →
      longer.length ≤ (b :: part).length)
    (hshort : ∀ n seq, Spells (b :: seq) n → part.length < seq.length)
    (hbegins : (∃ c, b :: part <+: String.utf8EncodeChar c) ∨ part = []) :
    Broken (b :: part) rest where
  ne_nil := List.cons_ne_nil b part
  no_character c h := by
    have hlength := hlonger _ (partial_of_isPrefix (List.prefix_refl _)) h
    have hspells : Spells (String.utf8EncodeChar c) c.toNat := spells_iff.mpr ⟨c, rfl, rfl⟩
    generalize String.utf8EncodeChar c = seq at h hlength hspells
    cases seq with
    | nil => cases hspells
    | cons a seq =>
      obtain ⟨rfl, -⟩ := List.cons_prefix_cons.mp h
      have hlt := hshort _ _ hspells
      rw [List.length_cons, List.length_cons] at hlength
      omega
  begins := hbegins.imp_right (fun h => by rw [h, List.length_singleton])
  longest c longer hc h := hlonger longer (partial_of_isPrefix hc) h

/-- A byte that no sequence starts with is broken on its own. -/
theorem broken_of_stray {b : UInt8} (hlead : lead b = .stray) (rest : List UInt8) :
    Broken [b] rest := by
  refine broken_of_lead (fun longer hpartial h => ?_) (fun n seq h => ?_) (.inr rfl)
  · cases hpartial with
    | nil => exact Nat.zero_le _
    | one => exact Nat.le_refl _
    | more hmore =>
      obtain ⟨rfl, -⟩ := List.cons_prefix_cons.mp h
      rw [hlead] at hmore
      cases hmore
  · cases h with
    | ascii hascii => rw [hlead] at hascii; cases hascii
    | long hlong => rw [hlead] at hlong; cases hlong

/-- A first byte is broken on its own if the second byte is missing or does not fit. -/
theorem broken_of_second {b lo hi : UInt8} {more bits : Nat} {rest : List UInt8}
    (hlead : lead b = .long more lo hi bits)
    (hrest : ∀ second, rest.head? = some second → ¬ (lo ≤ second ∧ second ≤ hi)) :
    Broken [b] rest := by
  refine broken_of_lead (fun longer hpartial h => ?_) (fun n seq h => ?_) (.inr rfl)
  · cases hpartial with
    | nil => exact Nat.zero_le _
    | one => exact Nat.le_refl _
    | @more _ second _ _ _ _ _ hmore hlo hhi =>
      obtain ⟨rfl, hsecond⟩ := List.cons_prefix_cons.mp h
      rw [hlead] at hmore
      cases hmore
      obtain ⟨behind, rfl⟩ := hsecond
      exact absurd ⟨hlo, hhi⟩ (hrest second rfl)
  · cases h with
    | ascii hascii => rw [hlead] at hascii; cases hascii
    | long => exact Nat.succ_pos _

/-- What begins some bytes and is continued throughout ends where they are no longer continued. -/
theorem length_le_of_continued {tail tail' rest : List UInt8} (h : tail' <+: tail ++ rest)
    (htail' : ∀ c ∈ tail', isContinuation c = true)
    (hrest : ∀ c, rest.head? = some c → isContinuation c = false) :
    tail'.length ≤ tail.length := by
  induction tail generalizing tail' with
  | nil =>
    cases tail' with
    | nil => exact Nat.le_refl _
    | cons c tail' =>
      -- One byte more would be one that continues nothing.
      obtain ⟨behind, rfl⟩ := h
      have hc := htail' c List.mem_cons_self
      rw [hrest c rfl] at hc
      cases hc
  | cons b tail ih =>
    cases tail' with
    | nil => exact Nat.zero_le _
    | cons c tail' =>
      obtain ⟨-, hmore⟩ := List.cons_prefix_cons.mp h
      exact Nat.succ_le_succ (ih hmore (fun d hd => htail' d (List.mem_cons_of_mem c hd)))

/-- A sequence is broken where too few bytes continue it. -/
theorem broken_of_tail {b second lo hi : UInt8} {more bits : Nat} {tail rest : List UInt8}
    (hlead : lead b = .long more lo hi bits) (hlo : lo ≤ second) (hhi : second ≤ hi)
    (hlength : tail.length < more) (htail : ∀ c ∈ tail, isContinuation c = true)
    (hrest : ∀ c, rest.head? = some c → isContinuation c = false) :
    Broken (b :: second :: tail) rest := by
  refine broken_of_lead (fun longer hpartial h => ?_) (fun n seq h => ?_)
    (.inl (exists_character_of_tail hlead hlo hhi (Nat.le_of_lt hlength) htail))
  · -- A longer part would go on with a byte that continues nothing.
    cases hpartial with
    | nil => exact Nat.zero_le _
    | one => exact Nat.le_add_left _ _
    | more _ _ _ _ hcontinued =>
      obtain ⟨-, hsecond⟩ := List.cons_prefix_cons.mp h
      obtain ⟨-, hmore⟩ := List.cons_prefix_cons.mp hsecond
      exact Nat.succ_le_succ (Nat.succ_le_succ (length_le_of_continued hmore hcontinued hrest))
  · cases h with
    | ascii hascii => rw [hlead] at hascii; cases hascii
    | long hlong _ _ hfull =>
      rw [hlead] at hlong
      cases hlong
      rw [List.length_cons, List.length_cons, hfull]
      exact Nat.succ_lt_succ hlength

/-! ### Decoding -/

/-- What the decoder takes off the front stands there first. -/
theorem first_next (b : UInt8) (bs : List UInt8) : First (b :: bs) (next b bs).1 (next b bs).2 := by
  -- A sequence that is all there is a character.
  have hwhole : ∀ {tail rest : List UInt8} {n : Nat}, Spells (b :: tail) n → bs = tail ++ rest →
      First (b :: bs) (next b bs).1 (next b bs).2 := by
    rintro tail rest n hspells rfl
    obtain ⟨c, hc, rfl⟩ := spells_iff.mp hspells
    rw [next_of_spells hspells, Char.ofNat_toNat, ← List.cons_append, ← hc]
    exact .character c rest
  rcases hlead : lead b with _ | ⟨more, lo, hi, bits⟩ | _
  · exact @hwhole [] bs _ (.ascii hlead) rfl
  · by_cases hsecond : ∃ second, bs.head? = some second ∧ lo ≤ second ∧ second ≤ hi
    · obtain ⟨second, hhead, hlo, hhi⟩ := hsecond
      obtain ⟨behind, rfl⟩ := List.head?_eq_some_iff.mp hhead
      obtain ⟨tail, rest, rfl, htail, hfull | ⟨hlt, hrest⟩⟩ := exists_tail more behind
      · exact hwhole (.long hlead hlo hhi hfull htail) rfl
      · have hnext : next b (second :: (tail ++ rest)) = (replacement, rest) := by
          simp only [next, hlead, decide_eq_true hlo, decide_eq_true hhi, Bool.and_self, if_true]
          exact continuation_of_lt _ hlt htail hrest
        rw [hnext]
        exact .broken (broken_of_tail hlead hlo hhi hlt htail hrest)
    · have hnot : ∀ second, bs.head? = some second → ¬ (lo ≤ second ∧ second ≤ hi) :=
        fun second hhead hfits => hsecond ⟨second, hhead, hfits⟩
      have hnext : next b bs = (replacement, bs) := by
        cases bs with
        | nil => simp only [next, hlead]
        | cons second behind =>
          have hsecond : (decide (lo ≤ second) && decide (second ≤ hi)) = false := by
            rw [← Bool.decide_and, decide_eq_false_iff_not]
            exact hnot second rfl
          simp only [next, hlead, hsecond, Bool.false_eq_true, if_false]
      rw [hnext]
      exact .broken (broken_of_second hlead hnot)
  · have hnext : next b bs = (replacement, bs) := by simp only [next, hlead]
    rw [hnext]
    exact .broken (broken_of_stray hlead bs)

/-- Of two broken sequences that stand in one place, none is longer. -/
theorem Broken.length_le {part part' rest rest' : List UInt8} (h : Broken part rest)
    (h' : Broken part' rest') (hsame : part ++ rest = part' ++ rest') :
    part.length ≤ part'.length := by
  rcases h.begins with ⟨c, hc⟩ | hone
  · exact h'.longest c part hc (hsame ▸ List.prefix_append part rest)
  · rw [hone]
    exact List.length_pos_iff.mpr h'.ne_nil

/-- Only one thing stands first. -/
theorem First.unique {c c' : Char} {rest rest' : List UInt8} (h : First bs c rest)
    (h' : First bs c' rest') : c = c' ∧ rest = rest' := by
  -- Where a character stands first, it is what the decoder takes off.
  have hnext : ∀ (c : Char) (rest : List UInt8), ∃ b behind,
      String.utf8EncodeChar c ++ rest = b :: behind ∧ next b behind = (c, rest) := by
    intro c rest
    have hspells : Spells (String.utf8EncodeChar c) c.toNat := spells_iff.mpr ⟨c, rfl, rfl⟩
    generalize String.utf8EncodeChar c = seq at hspells
    cases seq with
    | nil => cases hspells
    | cons b seq =>
      exact ⟨b, seq ++ rest, rfl, by rw [next_of_spells hspells, Char.ofNat_toNat]⟩
  generalize hbs : bs = bs' at h'
  cases h with
  | character =>
    obtain ⟨b, behind, heq, hb⟩ := hnext c rest
    cases h' with
    | character =>
      obtain ⟨b', behind', heq', hb'⟩ := hnext c' rest'
      rw [heq, heq'] at hbs
      obtain ⟨rfl, rfl⟩ := List.cons.inj hbs
      exact Prod.mk.inj (hb.symm.trans hb')
    | broken hbroken => exact absurd (hbs ▸ List.prefix_append _ _) (hbroken.no_character c)
  | broken hbroken =>
    cases h' with
    | character => exact absurd (hbs ▸ List.prefix_append _ _) (hbroken.no_character c')
    | broken hbroken' =>
      have hlength := Nat.le_antisymm (hbroken.length_le hbroken' hbs)
        (hbroken'.length_le hbroken hbs.symm)
      exact ⟨rfl, (List.append_inj hbs hlength).2⟩

/-- What some bytes stand for: characters for their bytes, and one replacement for every sequence
    that is broken. -/
inductive Decodes : List UInt8 → List Char → Prop
  | nil : Decodes [] []
  | cons {bs rest : List UInt8} {c : Char} {cs : List Char} (hfirst : First bs c rest)
      (hrest : Decodes rest cs) : Decodes bs (c :: cs)

theorem First.ne_nil {c : Char} (h : First bs c rest) : bs ≠ [] := by
  cases h with
  | character => simp [String.utf8EncodeChar_ne_nil]
  | broken h => simp [h.ne_nil]

theorem decodes_decode (bs : List UInt8) : Decodes bs (decode bs) := by
  induction bs using decode_induction with
  | nil => simpa using Decodes.nil
  | cons b bs ih =>
    rw [decode_cons]
    exact .cons (first_next b bs) ih

/-- **Decoding** replaces every broken sequence, and nothing else. -/
theorem decodes_iff {cs : List Char} : Decodes bs cs ↔ decode bs = cs := by
  constructor
  · intro h
    induction h with
    | nil => exact decode_nil
    | @cons bs rest c cs hfirst _ ih =>
      obtain ⟨b, behind, rfl⟩ := List.exists_cons_of_ne_nil hfirst.ne_nil
      obtain ⟨hc, hrest⟩ := (first_next b behind).unique hfirst
      rw [decode_cons, hc, hrest, ih]
  · rintro rfl
    exact decodes_decode bs

/-! ### Characters of one byte -/

theorem continuation_append_ascii (more bits : Nat) (bs : List UInt8) {a : UInt8} (ha : a < 0x80)
    (rest : List UInt8) :
    continuation more bits (bs ++ a :: rest) =
      ((continuation more bits bs).1, (continuation more bits bs).2 ++ a :: rest) := by
  have hnot : isContinuation a = false := by
    rw [Bool.eq_false_iff, Ne, isContinuation_iff]
    rw [UInt8.lt_iff_toNat_lt] at ha
    exact fun h => absurd (Nat.lt_of_le_of_lt h.1 ha) (Nat.lt_irrefl _)
  fun_induction continuation more bits bs with
  | case1 bits bs => rfl
  | case2 bits more => rw [List.nil_append, continuation, if_neg (by simp [hnot])]
  | case3 bits more b bs hb ih => rw [List.cons_append, continuation, if_pos hb, ih]
  | case4 bits more b bs hb => rw [List.cons_append, continuation, if_neg hb]

/-- What is begun before a byte that is a character of its own does not reach behind it. -/
theorem next_append_ascii (b : UInt8) (bs : List UInt8) {a : UInt8} (ha : a < 0x80)
    (rest : List UInt8) :
    next b (bs ++ a :: rest) = ((next b bs).1, (next b bs).2 ++ a :: rest) := by
  unfold next
  rcases hlead : lead b with _ | ⟨more, lo, hi, bits⟩ | _
  · rfl
  · cases bs with
    | nil =>
      have hfits := fits_lead b
      simp only [hlead, Lead.Fits] at hfits
      -- A byte that is a character of its own is no second byte.
      have hlo : ¬ lo ≤ a := by
        rw [UInt8.le_iff_toNat_le]
        rw [UInt8.lt_iff_toNat_lt] at ha
        have h80 : (0x80 : UInt8).toNat = 0x80 := rfl
        omega
      simp [hlo]
    | cons c cs =>
      simp only [List.cons_append]
      split
      · exact continuation_append_ascii more _ cs ha rest
      · rfl
  · rfl

/-- **Characters of one byte.** A byte that is a character of its own is decoded as such wherever it
    stands, and what is before it and behind it as if it were all. -/
theorem decode_append_ascii (bs : List UInt8) {a : UInt8} (ha : a < 0x80) (rest : List UInt8) :
    decode (bs ++ a :: rest) = decode bs ++ Char.ofNat a.toNat :: decode rest := by
  induction bs using decode_induction with
  | nil =>
    have hnext : next a rest = (Char.ofNat a.toNat, rest) := by rw [next, lead, if_pos ha]
    rw [List.nil_append, decode_cons, hnext, decode_nil, List.nil_append]
  | cons b bs ih =>
    rw [List.cons_append, decode_cons, decode_cons, next_append_ascii b bs ha rest, ih,
      List.cons_append]

end PackageAtlas.Text.Utf8
