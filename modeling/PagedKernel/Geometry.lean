import PagedKernel.Word

/-!
Contract: the shape of a simulated machine.

Owns:
- page size, number of physical frames and stack reservation, with their
  standard values;
- which geometries a machine accepts, and why it refuses the others;
- bytes of physical memory and pages for a number of bytes.

Does not own: the memory itself, or which frames are taken.
-/

namespace PagedKernel

/-- Bytes per page, physical frames, and bytes kept for the user stack. -/
structure Geometry where
  pageSize : Nat := 128
  frames : Nat := 32
  stackSize : Nat := 1024
deriving DecidableEq, Repr

/-- Why a machine refuses a geometry. -/
inductive GeometryError where
  | zeroPageSize
  /-- A page must hold a whole number of words. -/
  | unalignedPageSize (size : Nat)
deriving DecidableEq, Repr

def GeometryError.message : GeometryError → String
  | .zeroPageSize => "page size is zero"
  | .unalignedPageSize size => s!"page size {size} is not a multiple of 4"

namespace Geometry

/-- 32 frames of 128 bytes, and 1 KiB of stack. -/
def standard : Geometry := {}

/-- Bytes of physical memory. -/
def bytes (geometry : Geometry) : Nat :=
  geometry.pageSize * geometry.frames

/-- Bytes of physical memory as a machine size. -/
def memorySize (geometry : Geometry) : Checked Nat :=
  Size.mul geometry.pageSize geometry.frames

/-- Pages that hold `count` bytes. -/
def pagesFor (geometry : Geometry) (count : Nat) : Checked Nat :=
  Size.ceilDiv count geometry.pageSize

/-- Pages hold words, and there is no page of no bytes. -/
def Valid (geometry : Geometry) : Prop :=
  geometry.pageSize ≠ 0 ∧ geometry.pageSize % Word.size = 0

instance (geometry : Geometry) : Decidable geometry.Valid :=
  inferInstanceAs (Decidable (_ ∧ _))

def validate (geometry : Geometry) : Except GeometryError Unit :=
  if geometry.pageSize = 0 then .error .zeroPageSize
  else if geometry.pageSize % Word.size = 0 then .ok ()
  else .error (.unalignedPageSize geometry.pageSize)

theorem validate_eq_ok_iff {geometry : Geometry} :
    geometry.validate = .ok () ↔ geometry.Valid := by
  unfold validate Valid
  split
  · simp_all
  · split <;> simp_all

/-- Memories hold at most this many bytes, so that offsets fit a signed word. -/
def memoryLimit : Nat := UInt64.size / 2

/-- A geometry that a machine can be built with. -/
structure Usable (geometry : Geometry) : Prop where
  valid : geometry.Valid
  bounded : geometry.bytes < memoryLimit

end Geometry

end PagedKernel
