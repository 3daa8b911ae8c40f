import PagedKernel.Proofs.Loading.Header

/-!
Contract: the header codec on all arrays of the length of a header.

Owns:
- the first word of a list of bytes, told by the bytes themselves;
- the magic word in one of its two byte orders (`Header.StartsWithMagic`);
- what `Header.parse` answers on every array of forty bytes;
- `Header.parse` and `Header.encode` as inverse to each other.

Does not own: headers in a file that is read in part (`Loading.Header`).
-/

namespace PagedKernel

namespace Word

theorem bytes_reverse (word : UInt32) : bytes (reverse word) = (bytes word).reverse := by
  rw [reverse, byte_ofBytes]
  rfl

/-- A list of bytes starts with a word exactly if it starts with the bytes of the word. -/
theorem wordAt_zero_eq_iff {raw : List UInt8} (enough : size ≤ raw.length) {word : UInt32} :
    wordAt raw 0 = word ↔ raw.take size = bytes word := by
  rcases raw with _ | ⟨lowest, _ | ⟨low, _ | ⟨high, _ | ⟨highest, rest⟩⟩⟩⟩
  case cons.cons.cons.cons =>
    have first : wordAt (lowest :: low :: high :: highest :: rest) 0 =
        ofBytes lowest low high highest := rfl
    have taken : (lowest :: low :: high :: highest :: rest).take size =
        [lowest, low, high, highest] := rfl
    rw [first, taken]
    constructor
    · rintro rfl
      exact (byte_ofBytes lowest low high highest).symm
    · intro listed
      simp only [bytes, List.cons.injEq, and_true] at listed
      obtain ⟨rfl, rfl, rfl, rfl⟩ := listed
      exact ofBytes_byte word
  all_goals
    simp only [List.length_cons, List.length_nil, size] at enough
    omega

end Word

namespace Header

variable {raw : List UInt8}

/-- The first four bytes are those of the magic word, in one of the two byte orders. -/
def StartsWithMagic (raw : List UInt8) : Prop :=
  raw.take Word.size = Word.bytes imageMagic ∨
    raw.take Word.size = (Word.bytes imageMagic).reverse

instance (raw : List UInt8) : Decidable (StartsWithMagic raw) :=
  inferInstanceAs (Decidable (_ ∨ _))

theorem ofMagic?_isSome_iff (enough : Word.size ≤ raw.length) :
    (ByteOrder.ofMagic? (Word.wordAt raw 0)).isSome ↔ StartsWithMagic raw := by
  rw [StartsWithMagic, ← Word.bytes_reverse, ← Word.wordAt_zero_eq_iff enough,
    ← Word.wordAt_zero_eq_iff enough]
  constructor
  · intro recognised
    obtain ⟨order, found⟩ := Option.isSome_iff_exists.mp recognised
    have converted := ByteOrder.convert_of_ofMagic? found
    cases order with
    | native => exact Or.inl converted
    | swapped =>
        have stored := congrArg Word.reverse converted
        rw [ByteOrder.convert, Word.reverse_reverse] at stored
        exact Or.inr stored
  · rintro (stored | stored)
    · rw [stored]
      rfl
    · rw [stored]
      show (ByteOrder.ofMagic? (ByteOrder.swapped.convert imageMagic)).isSome
      rw [ByteOrder.ofMagic?_convert]
      rfl

/-- On forty bytes the first word decides: it gives the byte order, or else it is the error. -/
theorem parse_of_length (length : raw.length = headerSize) :
    parse raw =
      match ByteOrder.ofMagic? (Word.wordAt raw 0) with
      | none => .error (.badMagic (Word.wordAt raw 0))
      | some order => .ok (File.header { contents := raw } order, order) := by
  have whole : headerSize ≤ File.reach { contents := raw } := Nat.le_of_eq length.symm
  have start : File.readAt { contents := raw } headerSize 0 = raw :=
    List.take_of_length_le (Nat.le_of_eq length)
  have read := read_of_reach whole
  rw [Header.read, start] at read
  exact read

theorem exists_parse_iff (length : raw.length = headerSize) :
    (∃ header order, parse raw = .ok (header, order)) ↔ StartsWithMagic raw := by
  have enough : Word.size ≤ raw.length := Nat.le_of_lt (by rw [length]; decide)
  rw [parse_of_length length, ← ofMagic?_isSome_iff enough]
  cases ByteOrder.ofMagic? (Word.wordAt raw 0) <;> simp

theorem parse_eq_error_iff (length : raw.length = headerSize) {error : ImageError} :
    parse raw = .error error ↔
      ¬ StartsWithMagic raw ∧ error = .badMagic (Word.wordAt raw 0) := by
  have enough : Word.size ≤ raw.length := Nat.le_of_lt (by rw [length]; decide)
  rw [parse_of_length length, ← ofMagic?_isSome_iff enough]
  cases ByteOrder.ofMagic? (Word.wordAt raw 0) <;> simp [eq_comm]

/-- Forty bytes are the encoding of a header under the magic word, in a byte order, or they do not
start with that word. Parsing tells which, and finds the one header and order. -/
theorem parse_bijective :
    (∀ raw : List UInt8, raw.length = headerSize →
      ((∃ header order, parse raw = .ok (header, order)) ↔ StartsWithMagic raw) ∧
      (∀ error, parse raw = .error error ↔
        ¬ StartsWithMagic raw ∧ error = .badMagic (Word.wordAt raw 0)) ∧
      ∀ header order, parse raw = .ok (header, order) →
        header.magic = imageMagic ∧ header.encode order = raw) ∧
    ∀ header order, header.magic = imageMagic →
      (header.encode order).length = headerSize ∧
        parse (header.encode order) = .ok (header, order) := by
  constructor
  · intro raw length
    refine ⟨exists_parse_iff length, fun error => parse_eq_error_iff length, ?_⟩
    intro header order parsed
    obtain ⟨encoded, magic⟩ := parse_eq_ok_iff.mp parsed
    exact ⟨magic, encoded.symm⟩
  · intro header order magic
    exact ⟨length_encode header order, parse_eq_ok_iff.mpr ⟨rfl, magic⟩⟩

/-- A header with a word of its own in each of its ten places. -/
def spreadHeader : Header :=
  ⟨imageMagic, ⟨0x80, 0, 0x28⟩, ⟨0x10, 0x80, 0xa8⟩, ⟨0x40, 0x90, 0x01020304⟩⟩

/-- The bytes of the header, under a word that differs from the magic word in its lowest byte. -/
def foreignHeader : List UInt8 := (spreadHeader.encode .native).set 0 0x7f

theorem parse_bijective_spreadHeader :
    spreadHeader.magic = imageMagic ∧
      parse (spreadHeader.encode .swapped) = .ok (spreadHeader, .swapped) ∧
      foreignHeader.length = headerSize ∧
      parse foreignHeader = .error (.badMagic 0x00badf7f) := by
  have magic : spreadHeader.magic = imageMagic := rfl
  have length : foreignHeader.length = headerSize := by decide +kernel
  have foreign : ¬ StartsWithMagic foreignHeader ∧
      ImageError.badMagic 0x00badf7f = .badMagic (Word.wordAt foreignHeader 0) := by
    decide +kernel
  exact ⟨magic, (parse_bijective.2 spreadHeader .swapped magic).2, length,
    ((parse_bijective.1 foreignHeader length).2.1 _).mpr foreign⟩

end Header

end PagedKernel
