import PagedKernel.Size

/-!
Contract: 32-bit words as four bytes.

Owns:
- the little-endian bytes of a word and the word of four bytes;
- reversal of a word's bytes;
- lists of words as lists of bytes, where decoding accepts exactly what
  encoding produces (`decodeAll_eq_some_iff`).

Does not own: where in memory or in a file a word stands.
-/

namespace PagedKernel.Word

/-- Bytes in a word. -/
def size : Nat := 4

/-- The word whose bytes are given, lowest first. -/
def ofBytes (lowest low high highest : UInt8) : UInt32 :=
  UInt32.ofNat
    (lowest.toNat + 256 * (low.toNat + 256 * (high.toNat + 256 * highest.toNat)))

/-- The byte of a word that counts multiples of a power of 256. -/
def byte (word : UInt32) (position : Nat) : UInt8 :=
  UInt8.ofNat (word.toNat / Nat.pow 256 position)

/-- The bytes of a word, lowest first. -/
def bytes (word : UInt32) : List UInt8 :=
  [byte word 0, byte word 1, byte word 2, byte word 3]

/-- The word with its four bytes in the opposite order. -/
def reverse (word : UInt32) : UInt32 :=
  ofBytes (byte word 3) (byte word 2) (byte word 1) (byte word 0)

/-- The bytes of the words, one word after the other. -/
def encodeAll (words : List UInt32) : List UInt8 :=
  words.flatMap bytes

/-- The words of a list of bytes that holds a whole number of words. -/
def decodeAll : List UInt8 → Option (List UInt32)
  | [] => some []
  | lowest :: low :: high :: highest :: rest =>
      (decodeAll rest).map (ofBytes lowest low high highest :: ·)
  | _ => none

/-! ### Laws -/

theorem toNat_ofBytes (lowest low high highest : UInt8) :
    (ofBytes lowest low high highest).toNat =
      lowest.toNat + 256 * (low.toNat + 256 * (high.toNat + 256 * highest.toNat)) := by
  have first := lowest.toNat_lt
  have second := low.toNat_lt
  have third := high.toNat_lt
  have fourth := highest.toNat_lt
  simp only [ofBytes, UInt32.toNat_ofNat']
  omega

theorem toNat_byte (word : UInt32) (position : Nat) :
    (byte word position).toNat = word.toNat / Nat.pow 256 position % 256 := by
  simp [byte]

@[simp] theorem length_bytes (word : UInt32) : (bytes word).length = size := rfl

theorem ofBytes_byte (word : UInt32) :
    ofBytes (byte word 0) (byte word 1) (byte word 2) (byte word 3) = word := by
  apply UInt32.toNat_inj.mp
  have bounded := word.toNat_lt
  simp only [toNat_ofBytes, toNat_byte, Nat.pow_eq]
  omega

theorem byte_ofBytes (lowest low high highest : UInt8) :
    bytes (ofBytes lowest low high highest) = [lowest, low, high, highest] := by
  have first := lowest.toNat_lt
  have second := low.toNat_lt
  have third := high.toNat_lt
  have fourth := highest.toNat_lt
  simp only [bytes, List.cons.injEq, and_true, ← UInt8.toNat_inj, toNat_byte, toNat_ofBytes,
    Nat.pow_eq]
  omega

@[simp] theorem reverse_reverse (word : UInt32) : reverse (reverse word) = word := by
  have listed := byte_ofBytes (byte word 3) (byte word 2) (byte word 1) (byte word 0)
  simp only [bytes, List.cons.injEq, and_true] at listed
  obtain ⟨first, second, third, fourth⟩ := listed
  unfold reverse
  rw [first, second, third, fourth, ofBytes_byte]

@[simp] theorem decodeAll_encodeAll (words : List UInt32) :
    decodeAll (encodeAll words) = some words := by
  induction words with
  | nil => rfl
  | cons word rest inductionHypothesis =>
      unfold encodeAll at inductionHypothesis
      simp [encodeAll, bytes, decodeAll, inductionHypothesis, ofBytes_byte]

theorem encodeAll_of_decodeAll {raw : List UInt8} {words : List UInt32}
    (decoded : decodeAll raw = some words) : encodeAll words = raw := by
  fun_induction decodeAll raw generalizing words with
  | case1 => simp_all [encodeAll]
  | case2 lowest low high highest rest inductionHypothesis =>
      obtain ⟨tail, found, rfl⟩ := Option.map_eq_some_iff.mp decoded
      have remaining := inductionHypothesis found
      unfold encodeAll at remaining
      simp [encodeAll, byte_ofBytes, remaining]
  | case3 => simp at decoded

/-- Decoding accepts exactly what encoding produces. -/
theorem decodeAll_eq_some_iff {raw : List UInt8} {words : List UInt32} :
    decodeAll raw = some words ↔ raw = encodeAll words :=
  ⟨fun decoded => (encodeAll_of_decodeAll decoded).symm,
    fun encoded => encoded ▸ decodeAll_encodeAll words⟩

end PagedKernel.Word
