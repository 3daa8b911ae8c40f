import PagedKernel.Word

/-!
Contract: physical memory as a row of bytes.

Owns:
- ranges of bytes;
- reading and overwriting a run of bytes, and words in memory;
- the content of each byte after a write (`getElem?_store`).

Writes are total: a byte that would fall outside the memory is dropped. The
callers check the range first, since only they know what an escape means.

Does not own: which process owns a byte.
-/

namespace PagedKernel

/-- The bytes from `first` up to, but not including, `past`. -/
structure ByteRange where
  first : Nat
  past : Nat
deriving DecidableEq, Repr

def ByteRange.length (range : ByteRange) : Nat := range.past - range.first

/-- A row of `size` bytes. -/
abbrev Memory (size : Nat) : Type := Vector UInt8 size

namespace Memory

variable {size : Nat}

def zeroed (size : Nat) : Memory size := Vector.replicate size 0

/-- Overwrites the bytes from `position` on. -/
def store (memory : Memory size) (position : Nat) : List UInt8 → Memory size
  | [] => memory
  | value :: rest => store (memory.setIfInBounds position value) (position + 1) rest

/-- The `count` bytes from `position` on, or fewer at the end of memory. -/
def slice (memory : Memory size) (position count : Nat) : List UInt8 :=
  (memory.extract position (position + count)).toList

/-- Copies one range to the bytes from `target` on, as if the source were read first. -/
def move (memory : Memory size) (source : ByteRange) (target : Nat) : Memory size :=
  memory.store target (memory.slice source.first source.length)

def clear (memory : Memory size) (range : ByteRange) : Memory size :=
  memory.store range.first (List.replicate range.length 0)

/-- The word whose lowest byte is at `position`, if memory holds all of it. -/
def word? (memory : Memory size) (position : Nat) : Option UInt32 :=
  match memory.slice position Word.size with
  | [lowest, low, high, highest] => some (Word.ofBytes lowest low high highest)
  | _ => none

def storeWord (memory : Memory size) (position : Nat) (value : UInt32) : Memory size :=
  memory.store position (Word.bytes value)

/-! ### Laws -/

theorem getElem?_store (memory : Memory size) (position index : Nat) (values : List UInt8) :
    (store memory position values)[index]? =
      if position ≤ index ∧ index < position + values.length ∧ index < size then
        values[index - position]?
      else memory[index]? := by
  induction values generalizing memory position with
  | nil => simp [store]; omega
  | cons value rest inductionHypothesis =>
      rw [store, inductionHypothesis, Vector.getElem?_setIfInBounds]
      by_cases here : position = index
      · subst here
        rw [if_neg (by omega)]
        by_cases inside : position < size <;> simp [inside]
      · by_cases later : position + 1 ≤ index
        · have offset : index - position = (index - (position + 1)) + 1 := by omega
          simp only [List.length_cons, here, if_false]
          by_cases inside : index < position + 1 + rest.length ∧ index < size
          · rw [if_pos ⟨later, inside⟩, if_pos (by omega), offset, List.getElem?_cons_succ]
          · rw [if_neg (by omega), if_neg (by omega)]
        · rw [if_neg (by omega), if_neg here, if_neg (by omega)]

theorem getElem?_slice (memory : Memory size) (position count index : Nat) :
    (slice memory position count)[index]? =
      if index < count then memory[position + index]? else none := by
  simp only [slice, Vector.getElem?_toList, Vector.getElem?_extract]
  by_cases inside : index < count
  · by_cases bounded : position + index < size
    · rw [if_pos (by omega), if_pos inside]
    · rw [if_neg (by omega), if_pos inside, Vector.getElem?_eq_none (by omega)]
  · rw [if_neg (by omega), if_neg inside]

theorem length_slice (memory : Memory size) (position count : Nat)
    (inside : position + count ≤ size) : (slice memory position count).length = count := by
  simp [slice]
  omega

end Memory

end PagedKernel
