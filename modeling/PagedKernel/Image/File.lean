/-!
Contract: files that can be read at any position.

Owns: a file's bytes, a cap on what one read returns, and reads that come
short at the end of the file.
-/

namespace PagedKernel

structure File where
  contents : List UInt8
  /-- No read returns more bytes than this. -/
  maxRead : Option Nat := none
deriving DecidableEq, Repr

namespace File

def length (file : File) : Nat := file.contents.length

/-- The most bytes that a read of `count` bytes can return. -/
def readLimit (file : File) (count : Nat) : Nat :=
  match file.maxRead with
  | none => count
  | some most => min most count

/-- The bytes that a read of `count` bytes at `position` returns. -/
def readAt (file : File) (count position : Nat) : List UInt8 :=
  (file.contents.drop position).take (file.readLimit count)

theorem length_readAt (file : File) (count position : Nat) :
    (file.readAt count position).length =
      min (file.readLimit count) (file.length - position) := by
  simp [readAt, length]

theorem readLimit_le (file : File) (count : Nat) : file.readLimit count ≤ count := by
  unfold readLimit
  split
  · exact Nat.le_refl count
  · exact Nat.min_le_right _ _

theorem length_readAt_le (file : File) (count position : Nat) :
    (file.readAt count position).length ≤ count := by
  rw [length_readAt]
  exact Nat.le_trans (Nat.min_le_left _ _) (file.readLimit_le count)

end File

end PagedKernel
