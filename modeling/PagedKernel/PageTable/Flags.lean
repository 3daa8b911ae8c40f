/-!
Contract: the four state bits of a page-table entry.

Owns: the set operations on flags, their numbering as bits 1, 2, 4 and 8, and
their names.

Does not own: what a set bit means for the addresses of the page.
-/

namespace PagedKernel

/-- State of a mapping; `{}` has every flag clear. -/
structure Flags where
  /-- The mapping may be used. -/
  valid : Bool := false
  /-- The page was referenced. -/
  used : Bool := false
  /-- The page was written. -/
  dirty : Bool := false
  /-- The page must not be written. -/
  readOnly : Bool := false
deriving DecidableEq, Repr

namespace Flags

def empty : Flags := {}

def all : Flags := ⟨true, true, true, true⟩

/-- Combines two sets of flags, flag by flag. -/
def combine (operation : Bool → Bool → Bool) (left right : Flags) : Flags where
  valid := operation left.valid right.valid
  used := operation left.used right.used
  dirty := operation left.dirty right.dirty
  readOnly := operation left.readOnly right.readOnly

def union : Flags → Flags → Flags := combine or

def inter : Flags → Flags → Flags := combine and

/-- The flags of the first set that the second lacks. -/
def diff : Flags → Flags → Flags := combine fun left right => left && !right

/-- The flags of exactly one of two sets. -/
def symmDiff : Flags → Flags → Flags := combine xor

def complement (flags : Flags) : Flags := all.diff flags

def contains (flags other : Flags) : Bool := flags.inter other == other

def intersects (flags other : Flags) : Bool := flags.inter other != empty

/-- The flags whose bits are set in a number; other bits are ignored. -/
def ofBits (bits : Nat) : Flags where
  valid := bits.testBit 0
  used := bits.testBit 1
  dirty := bits.testBit 2
  readOnly := bits.testBit 3

def bits (flags : Flags) : Nat :=
  flags.valid.toNat + 2 * flags.used.toNat + 4 * flags.dirty.toNat + 8 * flags.readOnly.toNat

/-- The flags that a number stands for, if it has no bits of its own. -/
def ofBits? (bits : Nat) : Option Flags :=
  if (ofBits bits).bits = bits then some (ofBits bits) else none

/-- Names of the set flags, lowest bit first. -/
def names (flags : Flags) : List String :=
  [(flags.valid, "VALID"), (flags.used, "USE"), (flags.dirty, "DIRTY"),
    (flags.readOnly, "READ_ONLY")].filterMap fun entry => if entry.1 then some entry.2 else none

@[simp] theorem ofBits_bits (flags : Flags) : ofBits flags.bits = flags := by
  rcases flags with ⟨valid, used, dirty, readOnly⟩
  cases valid <;> cases used <;> cases dirty <;> cases readOnly <;> rfl

end Flags

end PagedKernel
