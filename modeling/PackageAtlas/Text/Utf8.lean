namespace PackageAtlas.Text.Utf8

/-!
# UTF-8 with replacement

Decoding of arbitrary bytes: a well-formed sequence becomes its character, and every maximal
prefix of a sequence that cannot be completed becomes one replacement character.

* `Lead`: what the first byte of a sequence promises;
* `next`: the first character of a byte list and what is left of it;
* `decode` / `decodeText`: the whole list, as characters and as a string;
* `encode`: the bytes of a text.
-/

/-- The character that stands for bytes that are no text. -/
def replacement : Char := Char.ofNat 0xFFFD

/-- What the first byte of a sequence says about the bytes that follow it. -/
inductive Lead where
  /-- A character of its own. -/
  | ascii
  /-- `more + 1` further bytes, the first of them between `lo` and `hi`; `bits` are its payload. -/
  | long (more : Nat) (lo hi : UInt8) (bits : Nat)
  /-- No sequence starts with this byte. -/
  | stray
deriving Repr, DecidableEq

/-- The class of a byte in first position; overlong forms and surrogates are cut off by `lo` and
    `hi`. -/
def lead (b : UInt8) : Lead :=
  if b < 0x80 then .ascii
  else if b < 0xC2 then .stray
  else if b < 0xE0 then .long 0 0x80 0xBF (b.toNat - 0xC0)
  else if b = 0xE0 then .long 1 0xA0 0xBF 0
  else if b = 0xED then .long 1 0x80 0x9F 0xD
  else if b < 0xF0 then .long 1 0x80 0xBF (b.toNat - 0xE0)
  else if b = 0xF0 then .long 2 0x90 0xBF 0
  else if b < 0xF4 then .long 2 0x80 0xBF (b.toNat - 0xF0)
  else if b = 0xF4 then .long 2 0x80 0x8F 4
  else .stray

/-- Bytes that may follow the second one of a sequence. -/
def isContinuation (b : UInt8) : Bool := 0x80 ≤ b && b ≤ 0xBF

/-- Takes `more` continuation bytes off the front; without them the sequence is broken off there. -/
def continuation : Nat → Nat → List UInt8 → Char × List UInt8
  | 0, bits, bs => (Char.ofNat bits, bs)
  | _ + 1, _, [] => (replacement, [])
  | more + 1, bits, b :: bs =>
    if isContinuation b then continuation more (bits * 64 + (b.toNat - 0x80)) bs
    else (replacement, b :: bs)

/-- The first character of `b :: bs` and the bytes after it. -/
def next (b : UInt8) (bs : List UInt8) : Char × List UInt8 :=
  match lead b with
  | .ascii => (Char.ofNat b.toNat, bs)
  | .stray => (replacement, bs)
  | .long more lo hi bits =>
    match bs with
    | [] => (replacement, [])
    | c :: cs =>
      if lo ≤ c && c ≤ hi then continuation more (bits * 64 + (c.toNat - 0x80)) cs
      else (replacement, c :: cs)

theorem continuation_length_le (more bits : Nat) (bs : List UInt8) :
    (continuation more bits bs).2.length ≤ bs.length := by
  induction more generalizing bits bs with
  | zero => simp [continuation]
  | succ n ih =>
    cases bs with
    | nil => simp [continuation]
    | cons b bs =>
      simp only [continuation]
      split
      · exact Nat.le_trans (ih _ bs) (Nat.le_succ _)
      · exact Nat.le_refl _

/-- One step of the decoder consumes at least the byte it looks at. -/
theorem next_length_le (b : UInt8) (bs : List UInt8) : (next b bs).2.length ≤ bs.length := by
  unfold next
  split
  · exact Nat.le_refl _
  · exact Nat.le_refl _
  · cases bs with
    | nil => simp
    | cons c cs =>
      simp only
      split
      · exact Nat.le_trans (continuation_length_le _ _ cs) (Nat.le_succ _)
      · exact Nat.le_refl _

/-- Decodes `bs` behind the characters of `done`, which are held in reverse. -/
def decodeAfter (done : List Char) : List UInt8 → List Char
  | [] => done.reverse
  | b :: bs =>
    have := next_length_le b bs
    decodeAfter ((next b bs).1 :: done) (next b bs).2
  termination_by bs => bs.length

/-- The characters of a byte list. -/
def decode (bs : List UInt8) : List Char := decodeAfter [] bs

/-- The text of a byte list. -/
def decodeText (bs : List UInt8) : String := String.ofList (decode bs)

/-- The text of a byte array. -/
def decodeBytes (bytes : ByteArray) : String := decodeText bytes.toList

/-- The text of a byte array whose bytes are all well-formed, and nothing otherwise. -/
def decodeBytes? (bytes : ByteArray) : Option String := String.fromUTF8? bytes

/-- The bytes of a text. -/
def encode (text : String) : ByteArray := text.toUTF8

theorem decodeAfter_nil (done : List Char) : decodeAfter done [] = done.reverse := by
  simp [decodeAfter]

theorem decodeAfter_cons (done : List Char) (b : UInt8) (bs : List UInt8) :
    decodeAfter done (b :: bs) = decodeAfter ((next b bs).1 :: done) (next b bs).2 := by
  rw [decodeAfter]

/-- What is decoded already only stands in front. -/
theorem decodeAfter_eq (done : List Char) (bs : List UInt8) :
    decodeAfter done bs = done.reverse ++ decode bs := by
  unfold decode
  generalize hn : bs.length = n
  induction n using Nat.strongRecOn generalizing done bs with
  | _ n ih =>
    cases bs with
    | nil => simp [decodeAfter_nil]
    | cons b bs =>
      have hlt : (next b bs).2.length < n := by
        have := next_length_le b bs
        simp at hn
        omega
      rw [decodeAfter_cons, decodeAfter_cons, ih _ hlt _ _ rfl, ih _ hlt [(next b bs).1] _ rfl]
      simp

@[simp] theorem decode_nil : decode [] = [] := by simp [decode, decodeAfter_nil]

/-- Decoding goes one character at a time. -/
theorem decode_cons (b : UInt8) (bs : List UInt8) :
    decode (b :: bs) = (next b bs).1 :: decode (next b bs).2 := by
  rw [decode, decodeAfter_cons, decodeAfter_eq]
  simp

/-- Bytes that are characters of their own are decoded one by one. -/
theorem decode_of_ascii {bs : List UInt8} (h : ∀ b ∈ bs, b < 0x80) :
    decode bs = bs.map (fun b => Char.ofNat b.toNat) := by
  induction bs with
  | nil => simp
  | cons b bs ih =>
    have hnext : next b bs = (Char.ofNat b.toNat, bs) := by
      simp [next, lead, h b (by simp)]
    rw [decode_cons, hnext, ih (fun c hc => h c (List.mem_cons_of_mem b hc)), List.map_cons]

end PackageAtlas.Text.Utf8
