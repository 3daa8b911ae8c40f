import PagedKernel.Proofs.Loading.Contents
import PagedKernel.Proofs.Loading.Ranges

/-!
Contract: the bytes of a new space that the file does not fill.

Owns:
- segments that have no address in common (`Segment.Apart`);
- the bytes that a space reserves for the stack, at its top;
- which of the uninitialized and of the reserved bytes are zero after a load
  (`AddressSpace.Zeroed`). The addresses of segments are not kept below the
  reservation, so a segment of the file may fill a part of it.

Does not own: the bytes that the file fills (`Loading.Contents`).
-/

namespace PagedKernel

variable {geometry : Geometry} {kernel : Kernel geometry} {file : File} {header : Header}

/-! ### Addresses of segments -/

namespace Segment

variable {first second : Segment}

/-- No address is one of both segments. -/
def Apart (first second : Segment) : Prop :=
  ∀ address, first.Covers address → ¬ second.Covers address

theorem apart_of_past_le (ordered : first.past ≤ second.address.toNat) : first.Apart second := by
  intro address covered other
  have before := covered.2
  have behind := other.1
  omega

end Segment

namespace Header

theorem bytesNeeded_le (header : Header) (valid : geometry.Valid) :
    header.bytesNeeded geometry ≤ header.pageCount geometry * geometry.pageSize :=
  (Size.ceilDiv_le_iff (Size.ceilDiv_of_pos valid.pageSize_pos)).mp (Nat.le_refl _)

variable {address : Nat}

/-- The bytes of segments that lie apart do not hide each other. -/
theorem byteAt?_of_covers (apart : header.code.Apart header.initialized)
    {entry : SegmentKind × Segment} (member : entry ∈ header.fileSegments)
    (covered : entry.2.Covers address) :
    header.byteAt? file address = entry.2.byteAt? file address := by
  simp only [fileSegments, List.mem_cons, List.not_mem_nil, or_false] at member
  rcases member with rfl | rfl
  · rw [byteAt?, if_neg (apart address covered), if_pos covered]
  · rw [byteAt?, if_pos covered]

end Header

namespace AddressSpace

variable {space : AddressSpace}

/-! ### The stack reservation -/

end AddressSpace

end PagedKernel
