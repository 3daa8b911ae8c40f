import PagedKernel.Memory

/-!
Contract: the bytes of memory after writes, copies and clears.

Owns:
- the content of each byte after `store`, inside and outside the written run;
- `move` and `clear` byte by byte;
- words of two memories that agree on a run of bytes;
- words read after one word was written.
-/

namespace PagedKernel.Memory

variable {size other : Nat}

theorem getElem?_store_outside (memory : Memory size) {position index : Nat} {values : List UInt8}
    (outside : index < position ∨ position + values.length ≤ index) :
    (store memory position values)[index]? = memory[index]? := by
  rw [getElem?_store, if_neg (by omega)]

theorem getElem?_store_inside (memory : Memory size) (position : Nat) {offset : Nat}
    {values : List UInt8} (written : offset < values.length) (inside : position + offset < size) :
    (store memory position values)[position + offset]? = values[offset]? := by
  rw [getElem?_store, if_pos (by omega), Nat.add_sub_cancel_left]

/-- The bytes of a range are zero after it was cleared. -/
theorem getElem?_clear_inside (memory : Memory size) {range : ByteRange} {index : Nat}
    (first : range.first ≤ index) (past : index < range.past) (inside : range.past ≤ size) :
    (clear memory range)[index]? = some 0 := by
  have written : index - range.first < (List.replicate range.length (0 : UInt8)).length := by
    simp only [List.length_replicate, ByteRange.length]
    omega
  have shifted : range.first + (index - range.first) = index := by omega
  have stored := getElem?_store_inside memory range.first written (by omega)
  rw [shifted] at stored
  rw [clear, stored, List.getElem?_eq_getElem written, List.getElem_replicate]

theorem getElem?_clear_outside (memory : Memory size) {range : ByteRange} {index : Nat}
    (ordered : range.first ≤ range.past)
    (outside : index < range.first ∨ range.past ≤ index) :
    (clear memory range)[index]? = memory[index]? := by
  apply getElem?_store_outside
  simp only [List.length_replicate, ByteRange.length]
  omega

/-- The target of a copy holds what the source held before it. -/
theorem getElem?_move_inside (memory : Memory size) {source : ByteRange} {target offset : Nat}
    (copied : offset < source.length) (readable : source.first + source.length ≤ size)
    (writable : target + source.length ≤ size) :
    (move memory source target)[target + offset]? = memory[source.first + offset]? := by
  have length := length_slice memory source.first source.length readable
  rw [move, getElem?_store_inside memory target (by omega) (by omega), getElem?_slice,
    if_pos copied]

theorem getElem?_move_outside (memory : Memory size) {source : ByteRange} {target index : Nat}
    (readable : source.first + source.length ≤ size)
    (outside : index < target ∨ target + source.length ≤ index) :
    (move memory source target)[index]? = memory[index]? := by
  apply getElem?_store_outside
  rw [length_slice memory source.first source.length readable]
  exact outside

/-! ### Words -/

theorem slice_congr {left : Memory size} {right : Memory other} {first second count : Nat}
    (agree : ∀ index < count, left[first + index]? = right[second + index]?) :
    left.slice first count = right.slice second count := by
  apply List.ext_getElem?
  intro index
  rw [getElem?_slice, getElem?_slice]
  by_cases inside : index < count
  · rw [if_pos inside, if_pos inside, agree index inside]
  · rw [if_neg inside, if_neg inside]

theorem word?_congr {left : Memory size} {right : Memory other} {first second : Nat}
    (agree : ∀ index < Word.size, left[first + index]? = right[second + index]?) :
    left.word? first = right.word? second := by
  unfold word?
  rw [slice_congr agree]

/-- A word can be read where memory holds all of its bytes, and nowhere else. -/
theorem word?_isSome_iff (memory : Memory size) (position : Nat) :
    (memory.word? position).isSome ↔ position + Word.size ≤ size := by
  unfold word?
  constructor
  · intro readable
    split at readable
    · rename_i sliced
      have length := congrArg List.length sliced
      simp [slice] at length
      simp only [Word.size] at *
      omega
    · simp at readable
  · intro inside
    have length := length_slice memory position Word.size inside
    rcases sliced : memory.slice position Word.size with
      _ | ⟨lowest, _ | ⟨low, _ | ⟨high, _ | ⟨highest, _ | ⟨extra, rest⟩⟩⟩⟩⟩
    all_goals
      rw [sliced] at length
      simp [Word.size] at length ⊢

theorem getElem?_storeWord_outside (memory : Memory size) {position index : Nat} {value : UInt32}
    (outside : index < position ∨ position + Word.size ≤ index) :
    (memory.storeWord position value)[index]? = memory[index]? :=
  getElem?_store_outside memory (by rw [Word.length_bytes]; exact outside)

/-- The bytes of a word stand where it was written. -/
theorem slice_storeWord (memory : Memory size) {position : Nat} (value : UInt32)
    (inside : position + Word.size ≤ size) :
    (memory.storeWord position value).slice position Word.size = Word.bytes value := by
  apply List.ext_getElem?
  intro index
  rw [getElem?_slice]
  by_cases written : index < Word.size
  · rw [if_pos written]
    exact getElem?_store_inside memory position written (by omega)
  · rw [if_neg written, List.getElem?_eq_none]
    rw [Word.length_bytes]
    omega

theorem word?_storeWord_self (memory : Memory size) {position : Nat} (value : UInt32)
    (inside : position + Word.size ≤ size) :
    (memory.storeWord position value).word? position = some value := by
  rw [word?, slice_storeWord memory value inside]
  exact congrArg some (Word.ofBytes_byte value)

theorem word?_storeWord_apart (memory : Memory size) {position other : Nat} (value : UInt32)
    (apart : other + Word.size ≤ position ∨ position + Word.size ≤ other) :
    (memory.storeWord position value).word? other = memory.word? other := by
  apply word?_congr
  intro index inside
  apply getElem?_storeWord_outside
  omega

/-- Memories that agree on a byte of two runs still do after one word of each run is written. -/
theorem getElem?_storeWord_shifted {left : Memory size} {right : Memory other}
    {first second address length offset : Nat} {value : UInt32}
    (agree : left[first + offset]? = right[second + offset]?) (held : offset < length)
    (leftHeld : first + length ≤ size) (rightHeld : second + length ≤ other) :
    (left.storeWord (first + address) value)[first + offset]? =
      (right.storeWord (second + address) value)[second + offset]? := by
  unfold storeWord
  rw [getElem?_store, getElem?_store, agree]
  by_cases written : address ≤ offset ∧ offset < address + (Word.bytes value).length
  · rw [if_pos (by omega), if_pos (by omega)]
    congr 1
    omega
  · rw [if_neg (by omega), if_neg (by omega)]

/-- Memories that agree on a run still do after one word of it is written in both. -/
theorem getElem?_storeWord_congr {left : Memory size} {right : Memory other}
    {first address length offset : Nat} {value : UInt32}
    (agree : left[first + offset]? = right[offset]?) (held : offset < length)
    (leftHeld : first + length ≤ size) (rightHeld : length ≤ other) :
    (left.storeWord (first + address) value)[first + offset]? =
      (right.storeWord address value)[offset]? := by
  have fromStart : left[first + offset]? = right[0 + offset]? := by rw [Nat.zero_add, agree]
  have written : (left.storeWord (first + address) value)[first + offset]? =
      (right.storeWord (0 + address) value)[0 + offset]? :=
    getElem?_storeWord_shifted fromStart held leftHeld (by omega)
  simpa only [Nat.zero_add] using written

end PagedKernel.Memory
