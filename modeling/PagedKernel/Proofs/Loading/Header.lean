import PagedKernel.Image.Header

/-!
Contract: headers as words of a file.

Owns:
- the words at the start of a file, and the header that they hold in a byte
  order;
- the byte orders under which a word is the magic word, of which there is at
  most one;
- what `Header.read` answers, said on the words and the length of the file.
-/

namespace PagedKernel

/-! ### Words of a list of bytes -/

namespace Word

/-- The word at a position, counted in words, where missing bytes count as zero. -/
def wordAt (bytes : List UInt8) (index : Nat) : UInt32 :=
  ofBytes (bytes.getD (4 * index) 0) (bytes.getD (4 * index + 1) 0)
    (bytes.getD (4 * index + 2) 0) (bytes.getD (4 * index + 3) 0)

theorem decodeAll_take {bytes : List UInt8} {count : Nat} (enough : 4 * count ≤ bytes.length) :
    decodeAll (bytes.take (4 * count)) = some ((List.range count).map (wordAt bytes)) := by
  induction count generalizing bytes with
  | zero => simp [decodeAll]
  | succ count inductionHypothesis =>
      rcases bytes with _ | ⟨lowest, _ | ⟨low, _ | ⟨high, _ | ⟨highest, rest⟩⟩⟩⟩
      case cons.cons.cons.cons =>
        have remaining : 4 * count ≤ rest.length := by
          simp only [List.length_cons] at enough
          omega
        have shifted : wordAt (lowest :: low :: high :: highest :: rest) ∘ Nat.succ =
            wordAt rest := by
          funext index
          rfl
        rw [List.range_succ_eq_map, List.map_cons, List.map_map, shifted, Nat.mul_succ]
        simp only [List.take_succ_cons, decodeAll, inductionHypothesis remaining, Option.map_some]
        rfl
      all_goals
        simp only [List.length_cons, List.length_nil] at enough
        omega

theorem length_encodeAll (words : List UInt32) : (encodeAll words).length = 4 * words.length := by
  induction words with
  | nil => rfl
  | cons word rest inductionHypothesis =>
      have step : (encodeAll (word :: rest)).length = 4 + (encodeAll rest).length := by
        simp only [encodeAll, List.flatMap_cons, List.length_append, length_bytes, size]
      rw [step, inductionHypothesis, List.length_cons]
      omega

end Word

/-! ### Words of a file -/

namespace File

/-- The most bytes that a read at the start of the file can return. -/
def reach (file : File) : Nat := file.readLimit file.length

def word (file : File) (index : Nat) : UInt32 := Word.wordAt file.contents index

/-- The words at the start of the file as those of a header. -/
def storedHeader (file : File) : Header :=
  ⟨file.word 0, ⟨file.word 1, file.word 2, file.word 3⟩,
    ⟨file.word 4, file.word 5, file.word 6⟩, ⟨file.word 7, file.word 8, file.word 9⟩⟩

/-- The header of a file written in a byte order. -/
def header (file : File) (order : ByteOrder) : Header := file.storedHeader.map order.convert

theorem length_read_start (file : File) (count : Nat) :
    (file.readAt count 0).length = min count file.reach := by
  rw [length_readAt]
  unfold reach readLimit
  split <;> omega

theorem ofWords?_start (file : File) :
    Header.ofWords? ((List.range 10).map file.word) = some file.storedHeader := rfl

end File

/-! ### Byte orders and magic words -/

/-- The magic word is not its own reversal, so no word has two byte orders. -/
theorem ByteOrder.ofMagic?_eq_some_iff {word : UInt32} {order : ByteOrder} :
    ofMagic? word = some order ↔ order.convert word = imageMagic := by
  constructor
  · exact convert_of_ofMagic?
  · intro recognised
    have stored : word = order.convert imageMagic := by
      rw [← recognised, convert_convert]
    rw [stored, ofMagic?_convert]

theorem ByteOrder.eq_of_convert {word : UInt32} {first second : ByteOrder}
    (ofFirst : first.convert word = imageMagic) (ofSecond : second.convert word = imageMagic) :
    first = second := by
  have found := ofMagic?_eq_some_iff.mpr ofFirst
  rw [ofMagic?_eq_some_iff.mpr ofSecond] at found
  exact (Option.some.inj found).symm

namespace Header

variable {file : File} {order : ByteOrder}

theorem parse_of_short {raw : List UInt8} (short : raw.length < headerSize) :
    parse raw = .error (.truncatedHeader raw.length) := by
  have undecoded : (Word.decodeAll raw).bind ofWords? = none := by
    rw [Option.bind_eq_none_iff]
    intro words decoded
    have length := Word.length_encodeAll words
    rw [Word.encodeAll_of_decodeAll decoded] at length
    cases collected : ofWords? words with
    | none => rfl
    | some header =>
        rw [← words_of_ofWords? collected] at length
        simp only [Header.words, List.length_cons, List.length_nil, headerSize] at length short
        omega
  simp only [parse, undecoded]

/-- Reading a whole header looks at the words of the file alone. -/
theorem read_of_reach (whole : headerSize ≤ file.reach) :
    read file =
      match ByteOrder.ofMagic? (file.word 0) with
      | none => .error (.badMagic (file.word 0))
      | some order => .ok (file.header order, order) := by
  have contents : file.readAt headerSize 0 = file.contents.take (4 * 10) := by
    have uncapped : file.readLimit headerSize = headerSize := by
      unfold File.reach File.readLimit at whole
      unfold File.readLimit
      cases capped : file.maxRead with
      | none => rfl
      | some most =>
          simp only [capped] at whole ⊢
          omega
    rw [File.readAt, uncapped, List.drop_zero]
    rfl
  have enough : 4 * 10 ≤ file.contents.length := by
    have length := file.length_read_start headerSize
    rw [Nat.min_eq_left whole, contents] at length
    simp only [List.length_take, headerSize] at length
    omega
  have stored : (Word.decodeAll (file.readAt headerSize 0)).bind ofWords? =
      some file.storedHeader := by
    rw [contents, Word.decodeAll_take enough]
    exact file.ofWords?_start
  simp only [read, parse, stored]
  rfl

theorem read_of_short (short : file.reach < headerSize) :
    read file = .error (.truncatedHeader file.reach) := by
  have length := file.length_read_start headerSize
  rw [Nat.min_eq_right (Nat.le_of_lt short)] at length
  rw [read, parse_of_short (by omega), length]

/-- A header is read from the files that hold one whole, under the magic word. -/
theorem read_eq_ok_iff {header : Header} :
    read file = .ok (header, order) ↔
      headerSize ≤ file.reach ∧ order.convert (file.word 0) = imageMagic ∧
        header = file.header order := by
  by_cases whole : headerSize ≤ file.reach
  · rw [read_of_reach whole, ← ByteOrder.ofMagic?_eq_some_iff]
    cases recognised : ByteOrder.ofMagic? (file.word 0) with
    | none => simp
    | some found =>
        simp only [Except.ok.injEq, Prod.mk.injEq, Option.some.injEq]
        constructor
        · rintro ⟨rfl, rfl⟩
          exact ⟨whole, rfl, rfl⟩
        · rintro ⟨-, rfl, rfl⟩
          exact ⟨rfl, rfl⟩
  · rw [read_of_short (Nat.lt_of_not_le whole)]
    simp [whole]

end Header

end PagedKernel
