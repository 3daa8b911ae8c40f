import PagedKernel.Geometry

/-!
Contract: arithmetic of the geometries that a machine accepts.

Owns: the place of an aligned address inside its page, the bounds under which
sizes on a machine are exact, and the bytes of a run of frames.
-/

namespace PagedKernel.Geometry

variable {geometry : Geometry}

namespace Valid

theorem pageSize_pos (valid : geometry.Valid) : 0 < geometry.pageSize :=
  Nat.pos_of_ne_zero valid.1

theorem word_dvd_pageSize (valid : geometry.Valid) : Word.size ∣ geometry.pageSize :=
  Nat.dvd_of_mod_eq_zero valid.2

/-- Alignment is kept by the reduction to an offset, since a page holds whole words. -/
theorem offset_aligned (valid : geometry.Valid) {address : Nat}
    (aligned : address % Word.size = 0) : address % geometry.pageSize % Word.size = 0 := by
  rw [Nat.mod_mod_of_dvd address valid.word_dvd_pageSize]
  exact aligned

/-- An aligned offset in a run of pages leaves room for the whole word. -/
theorem word_in_pages (valid : geometry.Valid) {address pages : Nat}
    (inside : address < pages * geometry.pageSize) (aligned : address % Word.size = 0) :
    address + Word.size ≤ pages * geometry.pageSize := by
  have whole : pages * geometry.pageSize % Word.size = 0 :=
    Nat.mod_eq_zero_of_dvd (Nat.dvd_mul_left_of_dvd valid.word_dvd_pageSize pages)
  simp only [Word.size] at *
  omega

theorem frames_le_bytes (valid : geometry.Valid) : geometry.frames ≤ geometry.bytes :=
  Nat.le_mul_of_pos_left geometry.frames valid.pageSize_pos

end Valid

/-- The frames below `past` are bytes of the machine. -/
theorem run_le_bytes {past : Nat} (inside : past ≤ geometry.frames) :
    past * geometry.pageSize ≤ geometry.bytes := by
  rw [bytes, Nat.mul_comm geometry.pageSize]
  exact Nat.mul_le_mul_right geometry.pageSize inside

/-- The frames of a run end inside the machine, counted from its first byte. -/
theorem run_add_le_bytes {firstFrame pages : Nat} (inside : firstFrame + pages ≤ geometry.frames) :
    firstFrame * geometry.pageSize + pages * geometry.pageSize ≤ geometry.bytes := by
  rw [← Nat.add_mul]
  exact run_le_bytes inside

namespace Usable

theorem bytes_lt_limit (usable : geometry.Usable) : geometry.bytes < Size.limit :=
  Nat.lt_trans usable.bounded (by decide)

theorem frames_lt_limit (usable : geometry.Usable) : geometry.frames < Size.limit :=
  Nat.lt_of_le_of_lt usable.valid.frames_le_bytes usable.bytes_lt_limit

theorem run_lt_limit (usable : geometry.Usable) {past : Nat} (inside : past ≤ geometry.frames) :
    past * geometry.pageSize < Size.limit :=
  Nat.lt_of_le_of_lt (run_le_bytes inside) usable.bytes_lt_limit

end Usable

end PagedKernel.Geometry
