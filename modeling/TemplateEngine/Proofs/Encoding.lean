import Mathlib.Tactic.SplitIfs
import Mathlib.Data.String.Basic
import TemplateEngine.Text.Utf8
/-!
The scan of UTF-8 against the encoder of the library: it gives back the text that the bytes encode,
and it finds a flaw exactly when there is no such text, at the place where the longest text ends.
-/
namespace TemplateEngine.Text.Utf8
open String (utf8EncodeChar)

section Characters

/-- A byte that goes on with a character. -/
def GoesOn (b : UInt8) : Prop := 0x80 ≤ b.toNat ∧ b.toNat ≤ 0xbf

/-- The bytes that spell a character, and its code. No code has a longer spelling, and none is a
surrogate. -/
inductive Spells : List UInt8 → Nat → Prop
  | one {a : UInt8} (lead : a.toNat < 0x80) : Spells [a] a.toNat
  | two {a b : UInt8} {n : Nat} (lead : 0xc2 ≤ a.toNat ∧ a.toNat < 0xe0) (second : GoesOn b)
      (code : n = a.toNat % 32 * 64 + (b.toNat - 0x80)) : Spells [a, b] n
  | three {a b c : UInt8} {n : Nat} (lead : 0xe0 ≤ a.toNat ∧ a.toNat < 0xf0) (second : GoesOn b)
      (third : GoesOn c) (long : a.toNat = 0xe0 → 0xa0 ≤ b.toNat)
      (noSurrogate : a.toNat = 0xed → b.toNat ≤ 0x9f)
      (code : n = (a.toNat % 16 * 64 + (b.toNat - 0x80)) * 64 + (c.toNat - 0x80)) :
      Spells [a, b, c] n
  | four {a b c d : UInt8} {n : Nat} (lead : 0xf0 ≤ a.toNat ∧ a.toNat ≤ 0xf4) (second : GoesOn b)
      (third : GoesOn c) (fourth : GoesOn d) (long : a.toNat = 0xf0 → 0x90 ≤ b.toNat)
      (inRange : a.toNat = 0xf4 → b.toNat ≤ 0x8f)
      (code : n = ((a.toNat % 8 * 64 + (b.toNat - 0x80)) * 64 + (c.toNat - 0x80)) * 64 +
        (d.toNat - 0x80)) :
      Spells [a, b, c, d] n

theorem toNat_ofNat {n : Nat} (valid : n.isValidChar) : (Char.ofNat n).val.toNat = n := by
  rw [Char.ofNat, dif_pos valid]
  rfl

theorem ofNat_eq {n : Nat} {b : UInt8} (same : n = b.toNat) : UInt8.ofNat n = b := by
  rw [same, UInt8.ofNat_toNat]

theorem toNat_byte {n : Nat} (small : n < 256) : (UInt8.ofNat n).toNat = n := by
  rw [UInt8.toNat_ofNat']
  omega

theorem Spells.isValidChar {bytes : List UInt8} {n : Nat} (h : Spells bytes n) :
    n.isValidChar := by
  unfold Nat.isValidChar
  cases h <;> grind [GoesOn]

/-- The encoder writes a character with the bytes that spell its code. -/
theorem Spells.encode {bytes : List UInt8} {n : Nat} (h : Spells bytes n) :
    utf8EncodeChar (Char.ofNat n) = bytes := by
  simp only [utf8EncodeChar, toNat_ofNat h.isValidChar]
  cases h with
  | one lead => rw [if_pos (by omega), ofNat_eq rfl]
  | @two a b _ lead second code =>
    unfold GoesOn at second
    rw [if_neg (by omega), if_pos (by omega), ofNat_eq (b := a) (by omega),
      ofNat_eq (b := b) (by omega)]
  | @three a b c _ lead second third long noSurrogate code =>
    unfold GoesOn at second third
    rw [if_neg (by omega), if_neg (by omega), if_pos (by omega), ofNat_eq (b := a) (by omega),
      ofNat_eq (b := b) (by omega), ofNat_eq (b := c) (by omega)]
  | @four a b c d _ lead second third fourth long inRange code =>
    unfold GoesOn at second third fourth
    rw [if_neg (by omega), if_neg (by omega), if_neg (by omega), ofNat_eq (b := a) (by omega),
      ofNat_eq (b := b) (by omega), ofNat_eq (b := c) (by omega), ofNat_eq (b := d) (by omega)]

theorem spells_encode (c : Char) : Spells (utf8EncodeChar c) c.val.toNat := by
  have valid : c.val.toNat.isValidChar := c.valid
  unfold Nat.isValidChar at valid
  generalize code : c.val.toNat = v at valid
  simp only [utf8EncodeChar, code]
  split_ifs with one two three
  · have same : v = (UInt8.ofNat v).toNat := (toNat_byte (by omega)).symm
    rw [same, UInt8.ofNat_toNat]
    exact .one (by omega)
  · apply Spells.two <;> simp (disch := omega) only [GoesOn, toNat_byte] <;> omega
  · apply Spells.three <;> simp (disch := omega) only [GoesOn, toNat_byte] <;> omega
  · apply Spells.four <;> simp (disch := omega) only [GoesOn, toNat_byte] <;> omega

end Characters

section Front

variable {b low high : UInt8} {rest : List UInt8} {count n : Nat} {c : Char}

theorem lead?_table (b : UInt8) : lead? b =
    if b.toNat < 0x80 then some (0, 0x80, 0xbf)
    else if b.toNat < 0xc2 then none
    else if b.toNat < 0xe0 then some (1, 0x80, 0xbf)
    else if b.toNat < 0xf0 then some (2, (if b.toNat = 0xe0 then 0xa0 else 0x80),
      if b.toNat = 0xed then 0x9f else 0xbf)
    else if b.toNat ≤ 0xf4 then some (3, (if b.toNat = 0xf0 then 0x90 else 0x80),
      if b.toNat = 0xf4 then 0x8f else 0xbf)
    else none := by
  simp only [lead?, UInt8.lt_iff_toNat_lt, ← UInt8.toNat_inj, UInt8.reduceToNat]
  split_ifs <;> first | rfl | omega

theorem lead?_eq_some : lead? b = some (count, low, high) ↔
    (count = 0 ∧ b.toNat < 0x80 ∧ low = 0x80 ∧ high = 0xbf) ∨
    (count = 1 ∧ (0xc2 ≤ b.toNat ∧ b.toNat < 0xe0) ∧ low = 0x80 ∧ high = 0xbf) ∨
    (count = 2 ∧ (0xe0 ≤ b.toNat ∧ b.toNat < 0xf0) ∧
      low = (if b.toNat = 0xe0 then 0xa0 else 0x80) ∧
      high = if b.toNat = 0xed then 0x9f else 0xbf) ∨
    (count = 3 ∧ (0xf0 ≤ b.toNat ∧ b.toNat ≤ 0xf4) ∧
      low = (if b.toNat = 0xf0 then 0x90 else 0x80) ∧
      high = if b.toNat = 0xf4 then 0x8f else 0xbf) := by
  rw [lead?_table]
  -- The bounds play no part in telling the four lengths apart.
  generalize (if b.toNat = 0xe0 then (0xa0 : UInt8) else 0x80) = low₃
  generalize (if b.toNat = 0xed then (0x9f : UInt8) else 0xbf) = high₃
  generalize (if b.toNat = 0xf0 then (0x90 : UInt8) else 0x80) = low₄
  generalize (if b.toNat = 0xf4 then (0x8f : UInt8) else 0xbf) = high₄
  constructor
  · intro h
    split_ifs at h <;> cases h
    · exact .inl ⟨rfl, by omega, rfl, rfl⟩
    · exact .inr (.inl ⟨rfl, by omega, rfl, rfl⟩)
    · exact .inr (.inr (.inl ⟨rfl, by omega, rfl, rfl⟩))
    · exact .inr (.inr (.inr ⟨rfl, by omega, rfl, rfl⟩))
  · rintro (⟨rfl, _, rfl, rfl⟩ | ⟨rfl, _, rfl, rfl⟩ | ⟨rfl, _, rfl, rfl⟩ | ⟨rfl, _, rfl, rfl⟩)
    · rw [if_pos (by omega)]
    · rw [if_neg (by omega), if_neg (by omega), if_pos (by omega)]
    · rw [if_neg (by omega), if_neg (by omega), if_neg (by omega), if_pos (by omega)]
    · rw [if_neg (by omega), if_neg (by omega), if_neg (by omega), if_neg (by omega),
        if_pos (by omega)]

theorem continue?_zero {code read : Nat} :
    continue? code read 0 low high rest = .char c n ↔ Char.ofNat code = c ∧ read = n := by
  simp [continue?]

theorem continue?_succ {code read : Nat} {s : List UInt8} :
    continue? code read (count + 1) low high s = .char c n ↔
      ∃ b rest, s = b :: rest ∧ (low ≤ b ∧ b ≤ high) ∧
        continue? (code * 64 + (b.toNat - 0x80)) (read + 1) count 0x80 0xbf rest = .char c n := by
  cases s with
  | nil => simp [continue?]
  | cons b rest =>
    by_cases inside : low ≤ b ∧ b ≤ high
    · simp [continue?, inside]
    · simp [continue?, inside]

theorem goesOn_iff : (0x80 : UInt8) ≤ b ∧ b ≤ 0xbf ↔ GoesOn b := by
  simp only [UInt8.le_iff_toNat_le]
  rfl

theorem second_of_three {a b : UInt8} :
    (if a.toNat = 0xe0 then (0xa0 : UInt8) else 0x80) ≤ b ∧
      b ≤ (if a.toNat = 0xed then 0x9f else 0xbf) ↔
    GoesOn b ∧ (a.toNat = 0xe0 → 0xa0 ≤ b.toNat) ∧ (a.toNat = 0xed → b.toNat ≤ 0x9f) := by
  simp only [UInt8.le_iff_toNat_le, GoesOn]
  split_ifs <;> simp <;> omega

theorem second_of_four {a b : UInt8} :
    (if a.toNat = 0xf0 then (0x90 : UInt8) else 0x80) ≤ b ∧
      b ≤ (if a.toNat = 0xf4 then 0x8f else 0xbf) ↔
    GoesOn b ∧ (a.toNat = 0xf0 → 0x90 ≤ b.toNat) ∧ (a.toNat = 0xf4 → b.toNat ≤ 0x8f) := by
  simp only [UInt8.le_iff_toNat_le, GoesOn]
  split_ifs <;> simp <;> omega

theorem front_of_lead (h : lead? b = some (count + 1, low, high)) : front b rest =
    continue? (b.toNat % (if count = 0 then 32 else if count = 1 then 16 else 8)) 1 (count + 1)
      low high rest := by
  simp only [front, h]

/-- A character that is read at the front of bytes is spelled there. -/
theorem spells_of_front (read : front b rest = .char c n) : ∃ bytes after code,
    b :: rest = bytes ++ after ∧ Spells bytes code ∧ Char.ofNat code = c ∧ bytes.length = n := by
  cases led : lead? b with
  | none => simp [front, led] at read
  | some bounds =>
    obtain ⟨count, low, high⟩ := bounds
    obtain ⟨rfl, lead, -⟩ | ⟨rfl, lead, rfl, rfl⟩ | ⟨rfl, lead, rfl, rfl⟩ | ⟨rfl, lead, rfl, rfl⟩ :=
      lead?_eq_some.mp led
    · simp only [front, led] at read
      cases read
      exact ⟨[b], rest, _, rfl, .one lead, rfl, rfl⟩
    · rw [front_of_lead led] at read
      obtain ⟨b₁, after, rfl, in₁, read⟩ := continue?_succ.mp read
      obtain ⟨rfl, rfl⟩ := continue?_zero.mp read
      exact ⟨[b, b₁], after, _, rfl, .two lead (goesOn_iff.mp in₁) rfl, rfl, rfl⟩
    · rw [front_of_lead led] at read
      obtain ⟨b₁, _, rfl, in₁, read⟩ := continue?_succ.mp read
      obtain ⟨b₂, after, rfl, in₂, read⟩ := continue?_succ.mp read
      obtain ⟨rfl, rfl⟩ := continue?_zero.mp read
      obtain ⟨second, long, noSurrogate⟩ := second_of_three.mp in₁
      exact ⟨[b, b₁, b₂], after, _, rfl,
        .three lead second (goesOn_iff.mp in₂) long noSurrogate rfl, rfl, rfl⟩
    · rw [front_of_lead led] at read
      obtain ⟨b₁, _, rfl, in₁, read⟩ := continue?_succ.mp read
      obtain ⟨b₂, _, rfl, in₂, read⟩ := continue?_succ.mp read
      obtain ⟨b₃, after, rfl, in₃, read⟩ := continue?_succ.mp read
      obtain ⟨rfl, rfl⟩ := continue?_zero.mp read
      obtain ⟨second, long, inRange⟩ := second_of_four.mp in₁
      exact ⟨[b, b₁, b₂, b₃], after, _, rfl,
        .four lead second (goesOn_iff.mp in₂) (goesOn_iff.mp in₃) long inRange rfl, rfl, rfl⟩

/-- Bytes that spell a character are read as that character. -/
theorem front_of_spells {bytes after : List UInt8} {code : Nat} (spelled : Spells bytes code)
    (split : b :: rest = bytes ++ after) :
    front b rest = .char (Char.ofNat code) bytes.length := by
  cases spelled with
  | one lead =>
    obtain ⟨rfl, rfl⟩ := List.cons.inj split
    have led := lead?_eq_some.mpr (.inl ⟨rfl, lead, rfl, rfl⟩)
    simp only [front, led]
    rfl
  | two lead second code =>
    obtain ⟨rfl, rfl⟩ := List.cons.inj split
    rw [front_of_lead (lead?_eq_some.mpr (.inr (.inl ⟨rfl, lead, rfl, rfl⟩))), continue?_succ]
    exact ⟨_, _, rfl, goesOn_iff.mpr second, continue?_zero.mpr ⟨congrArg _ code.symm, rfl⟩⟩
  | three lead second third long noSurrogate code =>
    obtain ⟨rfl, rfl⟩ := List.cons.inj split
    rw [front_of_lead (lead?_eq_some.mpr (.inr (.inr (.inl ⟨rfl, lead, rfl, rfl⟩)))),
      continue?_succ]
    refine ⟨_, _, rfl, second_of_three.mpr ⟨second, long, noSurrogate⟩, continue?_succ.mpr ?_⟩
    exact ⟨_, _, rfl, goesOn_iff.mpr third, continue?_zero.mpr ⟨congrArg _ code.symm, rfl⟩⟩
  | four lead second third fourth long inRange code =>
    obtain ⟨rfl, rfl⟩ := List.cons.inj split
    rw [front_of_lead (lead?_eq_some.mpr (.inr (.inr (.inr ⟨rfl, lead, rfl, rfl⟩)))),
      continue?_succ]
    refine ⟨_, _, rfl, second_of_four.mpr ⟨second, long, inRange⟩, continue?_succ.mpr ?_⟩
    refine ⟨_, _, rfl, goesOn_iff.mpr third, continue?_succ.mpr ?_⟩
    exact ⟨_, _, rfl, goesOn_iff.mpr fourth, continue?_zero.mpr ⟨congrArg _ code.symm, rfl⟩⟩

theorem front_eq_char : front b rest = .char c n ↔
    (∃ after, b :: rest = utf8EncodeChar c ++ after) ∧ (utf8EncodeChar c).length = n := by
  constructor
  · intro read
    obtain ⟨bytes, after, code, split, spelled, rfl, rfl⟩ := spells_of_front read
    rw [spelled.encode]
    exact ⟨⟨after, split⟩, rfl⟩
  · rintro ⟨⟨after, split⟩, rfl⟩
    have read := front_of_spells (spells_encode c) split
    rwa [show Char.ofNat c.val.toNat = c from Char.ofNat_toNat c] at read

end Front

section Scan

variable {bytes : List UInt8}

/-- The bytes of a text. -/
def encode (text : List Char) : List UInt8 := text.flatMap utf8EncodeChar

theorem encode_cons (c : Char) (text : List Char) :
    encode (c :: text) = utf8EncodeChar c ++ encode text := by
  simp [encode]

theorem toUTF8_eq_encode (text : String) : text.toUTF8 = (encode text.toList).toByteArray :=
  String.utf8Encode_toList.symm

/-- A flawed part that begins with `b` and goes on with `rest`. -/
def IsFlawed (b : UInt8) (rest : List UInt8) : Prop := ∃ why n, front b rest = .flawed why n

theorem decodeFrom_skip (skip : Nat) (bytes : List UInt8) :
    decodeFrom skip bytes = decodeFrom 0 (bytes.drop skip) := by
  induction skip generalizing bytes with
  | zero => rfl
  | succ skip ih =>
    cases bytes with
    | nil => rfl
    | cons b rest => exact ih rest

theorem firstFlaw?_skip (skip pos : Nat) {bytes : List UInt8} (fits : skip ≤ bytes.length) :
    firstFlaw? skip pos bytes = firstFlaw? 0 (pos + skip) (bytes.drop skip) := by
  induction skip generalizing pos bytes with
  | zero => rfl
  | succ skip ih =>
    cases bytes with
    | nil => simp at fits
    | cons b rest =>
      rw [firstFlaw?, ih (pos + 1) (by simpa using fits)]
      simp [Nat.add_assoc, Nat.add_comm 1]

/-- What one character at the front makes of both scans. -/
theorem scan_char (c : Char) (rest : List UInt8) (pos : Nat) :
    decodeFrom 0 (utf8EncodeChar c ++ rest) = c :: decodeFrom 0 rest ∧
    firstFlaw? 0 pos (utf8EncodeChar c ++ rest) =
      firstFlaw? 0 (pos + (utf8EncodeChar c).length) rest := by
  obtain ⟨b, tail, spelled⟩ := List.exists_cons_of_ne_nil (String.utf8EncodeChar_ne_nil (c := c))
  have read : front b (tail ++ rest) = .char c (tail.length + 1) :=
    front_eq_char.mpr ⟨⟨rest, by rw [spelled]; rfl⟩, by rw [spelled]; rfl⟩
  rw [spelled]
  constructor
  · rw [List.cons_append, decodeFrom, read]
    simp [decodeFrom_skip]
  · rw [List.cons_append, firstFlaw?, read]
    simp only [Nat.add_sub_cancel]
    rw [firstFlaw?_skip _ _ (by simp)]
    simp [Nat.add_assoc, Nat.add_comm 1]

theorem scan_encode (text : List Char) (rest : List UInt8) (pos : Nat) :
    decodeFrom 0 (encode text ++ rest) = text ++ decodeFrom 0 rest ∧
    firstFlaw? 0 pos (encode text ++ rest) = firstFlaw? 0 (pos + (encode text).length) rest := by
  induction text generalizing pos with
  | nil => exact ⟨rfl, rfl⟩
  | cons c text ih =>
    rw [encode_cons, List.append_assoc]
    obtain ⟨decoded, scanned⟩ := scan_char c (encode text ++ rest) pos
    rw [decoded, scanned, (ih 0).1, (ih _).2]
    simp [Nat.add_assoc]

/-- Bytes are the bytes of a text, up to a flawed part if there is one. -/
theorem exists_encode (bytes : List UInt8) : ∃ text rest, bytes = encode text ++ rest ∧
    ∀ b tail, rest = b :: tail → IsFlawed b tail := by
  induction size : bytes.length using Nat.strong_induction_on generalizing bytes with
  | _ m ih =>
    cases bytes with
    | nil => exact ⟨[], [], rfl, by simp⟩
    | cons b tail =>
      cases read : front b tail with
      | flawed why n =>
        refine ⟨[], b :: tail, rfl, ?_⟩
        rintro _ _ ⟨⟩
        exact ⟨why, n, read⟩
      | char c n =>
        obtain ⟨⟨after, split⟩, -⟩ := front_eq_char.mp read
        have shorter : after.length < m := by
          have spelled := List.length_pos_of_ne_nil (String.utf8EncodeChar_ne_nil (c := c))
          have lengths := congrArg List.length split
          rw [List.length_append] at lengths
          omega
        obtain ⟨text, rest, rfl, flawed⟩ := ih after.length shorter after rfl
        exact ⟨c :: text, rest, by rw [split, encode_cons, List.append_assoc], flawed⟩

theorem decode_encode (text : List Char) : decode (encode text) = .ok (String.ofList text) := by
  have scan := scan_encode text [] 0
  rw [List.append_nil] at scan
  rw [decode, decodeReplacing, scan.1, scan.2]
  simp [firstFlaw?, decodeFrom]

theorem decode_flawed {text : List Char} {b : UInt8} {rest : List UInt8} {why : Flaw} {n : Nat}
    (flawed : front b rest = .flawed why n) :
    decode (encode text ++ b :: rest) = .error ⟨b, (encode text).length, n, why⟩ := by
  rw [decode, (scan_encode text _ 0).2, firstFlaw?, flawed, Nat.zero_add]

theorem le_start_of_firstFlaw? {place : Illformed} {skip pos : Nat} {bytes : List UInt8}
    (found : firstFlaw? skip pos bytes = some place) : pos ≤ place.start := by
  induction bytes generalizing skip pos with
  | nil => simp [firstFlaw?] at found
  | cons b rest ih =>
    cases skip with
    | succ skip =>
      rw [firstFlaw?] at found
      exact Nat.le_of_succ_le (ih found)
    | zero =>
      rw [firstFlaw?] at found
      split at found
      · exact Nat.le_of_succ_le (ih found)
      · cases found
        exact Nat.le_refl pos

end Scan

section Decoding

variable {bytes : List UInt8}

theorem isValid_encode (text : List Char) : (encode text).toByteArray.IsValidUTF8 :=
  ⟨text, rfl⟩

theorem toByteArray_inj {a b : List UInt8} : a.toByteArray = b.toByteArray ↔ a = b := by
  constructor
  · intro same
    simpa using congrArg (fun array : ByteArray => array.data.toList) same
  · rintro rfl
    rfl

theorem isValid_iff : bytes.toByteArray.IsValidUTF8 ↔ ∃ text, encode text = bytes := by
  constructor
  · rintro ⟨text, same⟩
    exact ⟨text, toByteArray_inj.mp same.symm⟩
  · rintro ⟨text, rfl⟩
    exact isValid_encode text

/-- What decoding gives is the text that the bytes encode. -/
theorem decode_eq_ok {text : String} : decode bytes = .ok text ↔ bytes.toByteArray = text.toUTF8 := by
  rw [toUTF8_eq_encode, toByteArray_inj]
  constructor
  · intro decoded
    obtain ⟨read, rest, rfl, flawed⟩ := exists_encode bytes
    cases rest with
    | nil =>
      rw [List.append_nil, decode_encode] at decoded
      cases decoded
      simp
    | cons b rest =>
      obtain ⟨why, n, front⟩ := flawed b rest rfl
      rw [decode_flawed front] at decoded
      cases decoded
  · rintro rfl
    rw [decode_encode, String.ofList_toList]

/-- The longest text that the bytes begin with takes up so many of them. -/
structure LongestText (bytes : List UInt8) (n : Nat) : Prop where
  isText : (bytes.take n).toByteArray.IsValidUTF8
  longest : ∀ k ≤ bytes.length, (bytes.take k).toByteArray.IsValidUTF8 → k ≤ n

/-- Decoding fails at the byte after the longest text that the bytes begin with. -/
theorem decode_eq_error {place : Illformed} (failed : decode bytes = .error place) :
    bytes[place.start]? = some place.byte ∧ LongestText bytes place.start := by
  have found : firstFlaw? 0 0 bytes = some place := by
    rw [decode] at failed
    split at failed <;> simp_all
  obtain ⟨text, rest, rfl, flawed⟩ := exists_encode bytes
  cases rest with
  | nil =>
    rw [List.append_nil, decode_encode] at failed
    cases failed
  | cons b rest =>
    obtain ⟨why, n, front⟩ := flawed b rest rfl
    rw [decode_flawed front] at failed
    cases failed
    refine ⟨by simp, by simpa using isValid_encode text, ?_⟩
    intro k inside valid
    obtain ⟨longer, same⟩ := isValid_iff.mp valid
    rw [← List.take_append_drop k (encode text ++ b :: rest), ← same,
      (scan_encode longer _ 0).2] at found
    have size : (encode longer).length = k := by rw [same, List.length_take_of_le inside]
    have later := le_start_of_firstFlaw? found
    omega

/-- Decoding fails exactly on bytes that no text is encoded by. -/
theorem decode_fails_iff :
    (∃ place, decode bytes = .error place) ↔ ¬ bytes.toByteArray.IsValidUTF8 := by
  constructor
  · rintro ⟨place, failed⟩ valid
    obtain ⟨text, rfl⟩ := isValid_iff.mp valid
    rw [decode_encode] at failed
    cases failed
  · intro invalid
    cases decoded : decode bytes with
    | error place => exact ⟨place, rfl⟩
    | ok text =>
      rw [decode_eq_ok.mp decoded] at invalid
      exact absurd text.isValidUTF8 invalid

end Decoding
end TemplateEngine.Text.Utf8
