import PagedKernel.PageTable.Translate
import PagedKernel.Proofs.Geometry

/-!
Contract: where translated addresses lie.

Owns:
- the place that `locate` finds, which always holds a whole word of the
  machine's memory, so that translation keeps its promise;
- tables whose pages lie on consecutive frames (`PageTable.Linear`), under which
  addresses lie as far from the first frame as from address 0;
- what translation does under such a table.

Does not own: who installed the table.
-/

namespace PagedKernel.PageTable

variable {table : PageTable} {geometry : Geometry} {address : UInt32}

/-! ### The place of an address -/

/-- What `locate` has checked when it answers. -/
theorem locate_eq_ok {location : Location}
    (located : table.locate geometry address = .ok location) :
    address.toNat % Word.size = 0 ∧ location.page = address.toNat / geometry.pageSize ∧
      location.offset = address.toNat % geometry.pageSize ∧
      location.frame < geometry.frames := by
  unfold locate at located
  split at located
  · cases located
  · rename_i aligned
    dsimp only at located
    split at located
    · cases located
    · rename_i entry found
      split at located
      · cases located
      · split at located
        · cases located
        · rename_i backed
          cases located
          exact ⟨Decidable.not_not.mp aligned, rfl, rfl, Nat.lt_of_not_le backed⟩

/-- A word at an aligned offset of a frame of the machine is memory of the machine. -/
theorem physical_of_inside {location : Location} (valid : geometry.Valid)
    (bounded : geometry.bytes < Size.limit) (backed : location.frame < geometry.frames)
    (inside : location.offset < geometry.pageSize) (aligned : location.offset % Word.size = 0) :
    location.physical geometry = .ok (location.frame * geometry.pageSize + location.offset) := by
  have room : location.offset + Word.size ≤ 1 * geometry.pageSize :=
    valid.word_in_pages (by omega) aligned
  have framed : (location.frame + 1) * geometry.pageSize ≤ geometry.bytes :=
    Geometry.run_le_bytes backed
  rw [Nat.add_mul] at framed
  have past :
      location.frame * geometry.pageSize + location.offset + Word.size ≤ geometry.bytes := by
    omega
  have start : location.frame * geometry.pageSize < Size.limit := by omega
  have sum : location.frame * geometry.pageSize + location.offset < Size.limit := by omega
  have memory : geometry.memorySize = .ok geometry.bytes := Size.mul_of_lt bounded
  simp only [Location.physical, Size.mul_of_lt start, Size.add_of_lt sum,
    Size.add_of_lt (Nat.lt_of_le_of_lt past bounded), memory, bind, Except.bind, pure, Except.pure]
  rw [if_pos past]

/-- The place that `locate` finds is always memory of the machine. -/
theorem physical_of_located {location : Location} (valid : geometry.Valid)
    (bounded : geometry.bytes < Size.limit)
    (located : table.locate geometry address = .ok location) :
    location.physical geometry = .ok (location.frame * geometry.pageSize + location.offset) := by
  obtain ⟨aligned, -, offset, backed⟩ := locate_eq_ok located
  apply physical_of_inside valid bounded backed
  · rw [offset]
    exact Nat.mod_lt _ valid.pageSize_pos
  · rw [offset]
    exact valid.offset_aligned aligned

/-! ### Pages on consecutive frames -/

/-- The pages of the table lie, in order, on the frames from `firstFrame` on. They are valid,
and at most marked as used. -/
structure Linear (table : PageTable) (firstFrame pages : Nat) : Prop where
  size_eq : table.size = pages
  entry : ∀ page < pages, ∃ used,
    table.lookup page = some ⟨page, firstFrame + page, { valid := true, used }⟩

theorem contiguous_linear (firstFrame pages : Nat) :
    (contiguous pages firstFrame).Linear firstFrame pages where
  size_eq := size_contiguous pages firstFrame
  entry := by
    intro page inside
    refine ⟨false, ?_⟩
    rw [lookup_contiguous, if_pos inside]
    rfl

namespace Linear

variable {firstFrame pages : Nat}

theorem markUsed (linear : table.Linear firstFrame pages) (page : Nat) :
    (table.markUsed page).Linear firstFrame pages where
  size_eq := by rw [size_markUsed, linear.size_eq]
  entry := by
    intro other inside
    obtain ⟨used, found⟩ := linear.entry other inside
    by_cases marked : page = other
    · refine ⟨true, ?_⟩
      rw [lookup_markUsed, if_pos marked, found]
      rfl
    · refine ⟨used, ?_⟩
      rw [lookup_markUsed, if_neg marked, found]

theorem lookup_of_le (linear : table.Linear firstFrame pages) {page : Nat} (past : pages ≤ page) :
    table.lookup page = none := by
  have size : table.entries.size = pages := linear.size_eq
  exact Array.getElem?_eq_none (by omega)

/-- An address that is misaligned or past the pages has no place. -/
theorem locate_outside (linear : table.Linear firstFrame pages) (valid : geometry.Valid)
    (outside : address.toNat % Word.size ≠ 0 ∨ pages * geometry.pageSize ≤ address.toNat) :
    ∃ fault, table.locate geometry address = .error fault ∧
      fault.exception = .addressError := by
  by_cases misaligned : address.toNat % Word.size ≠ 0
  · exact ⟨.misaligned address, if_pos misaligned, rfl⟩
  · have past : pages ≤ address.toNat / geometry.pageSize :=
      (Nat.le_div_iff_mul_le valid.pageSize_pos).mpr (outside.resolve_left misaligned)
    refine ⟨.beyondTable (address.toNat / geometry.pageSize) table.size, ?_, rfl⟩
    unfold locate
    rw [if_neg misaligned]
    simp only [linear.lookup_of_le past]

theorem locate_inside (linear : table.Linear firstFrame pages) (valid : geometry.Valid)
    (frames : firstFrame + pages ≤ geometry.frames) (aligned : address.toNat % Word.size = 0)
    (inside : address.toNat < pages * geometry.pageSize) :
    table.locate geometry address =
      .ok ⟨address.toNat / geometry.pageSize, firstFrame + address.toNat / geometry.pageSize,
        address.toNat % geometry.pageSize⟩ := by
  have page : address.toNat / geometry.pageSize < pages :=
    (Nat.div_lt_iff_lt_mul valid.pageSize_pos).mpr inside
  obtain ⟨used, found⟩ := linear.entry _ page
  unfold locate
  rw [if_neg (Decidable.not_not.mpr aligned)]
  simp only [found]
  rw [if_neg (by simp), if_neg (by omega)]

/-- Translation under the table shifts an address by the place of the first frame. -/
theorem run_translate_inside (linear : table.Linear firstFrame pages) (usable : geometry.Usable)
    (frames : firstFrame + pages ≤ geometry.frames) (aligned : address.toNat % Word.size = 0)
    (inside : address.toNat < pages * geometry.pageSize) :
    (translate geometry address).run table =
      .ok ⟨.ok (firstFrame * geometry.pageSize + address.toNat),
        table.markUsed (address.toNat / geometry.pageSize),
        [.translated address (firstFrame * geometry.pageSize + address.toNat)]⟩ := by
  have located := linear.locate_inside usable.valid frames aligned inside
  have physical := physical_of_located usable.valid usable.bytes_lt_limit located
  have shifted : (firstFrame + address.toNat / geometry.pageSize) * geometry.pageSize +
      address.toNat % geometry.pageSize = firstFrame * geometry.pageSize + address.toNat := by
    rw [Nat.add_mul, Nat.add_assoc, Nat.div_add_mod']
  simp only [shifted] at physical
  exact run_translate_of_location usable.valid located physical

theorem run_translate_outside (linear : table.Linear firstFrame pages) (valid : geometry.Valid)
    (outside : address.toNat % Word.size ≠ 0 ∨ pages * geometry.pageSize ≤ address.toNat) :
    ∃ fault, (translate geometry address).run table =
      .ok ⟨.error .addressError, table, [.faulted fault]⟩ := by
  obtain ⟨fault, located, exception⟩ := linear.locate_outside valid outside
  refine ⟨fault, ?_⟩
  rw [run_translate_of_fault valid located, exception]

end Linear

end PagedKernel.PageTable
