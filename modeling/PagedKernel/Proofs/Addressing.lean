import PagedKernel.Proofs.Resolution

/-!
Contract: translation under any table, wherever memory has a machine size.

Owns:
- what a table has for an address (`PageTable.Finding`), which decides how a
  translation ends;
- the frame that holds all four bytes of a word that was found;
- the answers and faults of a translation, each with the condition under which
  it is given, and the one mark that it leaves (`PageTable.Translates`);
- the addresses of contiguous tables.

The memory may be larger than any that a machine can be built with, and entries
may name frames that do not exist, up to the largest machine size and beyond.

Does not own: which table a machine translates through (`Resolution`).
-/

namespace PagedKernel.PageTable

open PagedKernel.Action

variable {table : PageTable} {geometry : Geometry} {address : UInt32}

/-! ### What a table has for an address -/

/-- What a table has for an address: nothing, for one of four reasons, or the frame of its page. -/
inductive Finding (table : PageTable) (geometry : Geometry) (address : UInt32) :
    Except Exception Nat → Prop where
  | misaligned (misaligned : address.toNat % Word.size ≠ 0) :
      Finding table geometry address (.error .addressError)
  | beyond (aligned : address.toNat % Word.size = 0)
      (missing : table.lookup (address.toNat / geometry.pageSize) = none) :
      Finding table geometry address (.error .addressError)
  | notValid {entry : Entry} (aligned : address.toNat % Word.size = 0)
      (found : table.lookup (address.toNat / geometry.pageSize) = some entry)
      (notValid : entry.flags.valid = false) :
      Finding table geometry address (.error .pageFault)
  | noSuchFrame {entry : Entry} (aligned : address.toNat % Word.size = 0)
      (found : table.lookup (address.toNat / geometry.pageSize) = some entry)
      (valid : entry.flags.valid = true) (missing : geometry.frames ≤ entry.frame) :
      Finding table geometry address (.error .busError)
  | backed {entry : Entry} (aligned : address.toNat % Word.size = 0)
      (found : table.lookup (address.toNat / geometry.pageSize) = some entry)
      (valid : entry.flags.valid = true) (backed : entry.frame < geometry.frames) :
      Finding table geometry address
        (.ok (entry.frame * geometry.pageSize + address.toNat % geometry.pageSize))

theorem finding_resolve (table : PageTable) (geometry : Geometry) (address : UInt32) :
    Finding table geometry address (table.resolve geometry address) := by
  unfold resolve locate
  by_cases aligned : address.toNat % Word.size = 0
  · rw [if_neg (not_not_intro aligned)]
    cases found : table.lookup (address.toNat / geometry.pageSize) with
    | none =>
        simp only [found]
        exact .beyond aligned found
    | some entry =>
        cases valid : entry.flags.valid with
        | false =>
            simp only [found, if_pos valid]
            exact .notValid aligned found valid
        | true =>
            by_cases backed : entry.frame < geometry.frames
            · simp only [found, valid, Bool.true_eq_false, if_false,
                if_neg (Nat.not_le.mpr backed)]
              exact .backed aligned found valid backed
            · have missing := Nat.le_of_not_lt backed
              simp only [found, valid, Bool.true_eq_false, if_false, if_pos missing]
              exact .noSuchFrame aligned found valid missing
  · rw [if_pos aligned]
    exact .misaligned aligned

theorem lookup_eq_none_iff {page : Nat} : table.lookup page = none ↔ table.size ≤ page :=
  Array.getElem?_eq_none_iff

/-- A translation that answers marks the page of its address, and another one leaves the table. -/
theorem referenced_of_resolve {physical : Nat}
    (resolved : table.resolve geometry address = .ok physical) :
    table.referenced geometry address = table.markUsed (address.toNat / geometry.pageSize) := by
  unfold resolve at resolved
  unfold referenced
  cases located : table.locate geometry address with
  | error fault => simp [located] at resolved
  | ok location =>
      obtain ⟨-, page, -⟩ := locate_eq_ok located
      simp only [page]

/-- The word at an aligned offset of a frame ends in the frame. -/
theorem word_in_frame (valid : geometry.Valid) {frame offset : Nat}
    (inside : offset < geometry.pageSize) (aligned : offset % Word.size = 0) :
    frame * geometry.pageSize + offset + Word.size ≤ (frame + 1) * geometry.pageSize := by
  have room : offset + Word.size ≤ 1 * geometry.pageSize :=
    valid.word_in_pages (by omega) aligned
  rw [Nat.add_mul]
  omega

/-! ### What a translation answers and leaves -/

/-- A translation of the address gave the result and left the table `after`.

It answers exactly if the address is aligned and its page has a valid entry with a frame of the
machine. The answer lies in that frame as far from its start as the address from that of its page,
and so does the whole word. What is left is the mark of the page. A failure leaves the table as it
was, and is the first of the three in the order of the fields. -/
structure Translates (table : PageTable) (geometry : Geometry) (address : UInt32)
    (result : Except Exception Nat) (after : PageTable) : Prop where
  answered : ∀ physical, result = .ok physical ↔ address.toNat % Word.size = 0 ∧
    ∃ entry, table.lookup (address.toNat / geometry.pageSize) = some entry ∧
      entry.flags.valid = true ∧ entry.frame < geometry.frames ∧
      physical = entry.frame * geometry.pageSize + address.toNat % geometry.pageSize
  inside : ∀ physical, result = .ok physical → physical % Word.size = 0 ∧
    physical + Word.size ≤ geometry.bytes ∧ ∃ frame < geometry.frames,
      frame * geometry.pageSize ≤ physical ∧
        physical + Word.size ≤ (frame + 1) * geometry.pageSize
  marked : ∀ physical, result = .ok physical → after.size = table.size ∧
    ∀ page, after.lookup page =
      if page = address.toNat / geometry.pageSize then (table.lookup page).map Entry.markUsed
      else table.lookup page
  addressError : result = .error .addressError ↔
    address.toNat % Word.size ≠ 0 ∨ table.size ≤ address.toNat / geometry.pageSize
  pageFault : result = .error .pageFault ↔ address.toNat % Word.size = 0 ∧
    ∃ entry, table.lookup (address.toNat / geometry.pageSize) = some entry ∧
      entry.flags.valid = false
  busError : result = .error .busError ↔ address.toNat % Word.size = 0 ∧
    ∃ entry, table.lookup (address.toNat / geometry.pageSize) = some entry ∧
      entry.flags.valid = true ∧ geometry.frames ≤ entry.frame
  kept : ∀ exception, result = .error exception → after = table

theorem translates_resolve (valid : geometry.Valid) (table : PageTable) (address : UInt32) :
    Translates table geometry address (table.resolve geometry address)
      (table.referenced geometry address) := by
  have finding := finding_resolve table geometry address
  constructor
  case answered =>
    intro physical
    generalize table.resolve geometry address = result at finding
    cases finding with
    | misaligned | beyond | notValid | noSuchFrame => grind
    | @backed entry aligned found valid backed =>
        constructor
        · intro answer
          cases answer
          exact ⟨aligned, entry, found, valid, backed, rfl⟩
        · rintro ⟨-, other, again, -, -, rfl⟩
          cases found.symm.trans again
          rfl
  case inside =>
    intro physical resolved
    obtain ⟨whole, held⟩ := word_of_resolve valid resolved
    rw [resolved] at finding
    refine ⟨whole, held, ?_⟩
    cases finding with
    | @backed entry aligned _ _ backed =>
        exact ⟨entry.frame, backed, Nat.le_add_right _ _,
          word_in_frame valid (Nat.mod_lt _ valid.pageSize_pos) (valid.offset_aligned aligned)⟩
  case marked =>
    intro physical resolved
    rw [referenced_of_resolve resolved]
    refine ⟨size_markUsed _ _, fun page => ?_⟩
    rw [lookup_markUsed]
    simp only [eq_comm]
  case addressError =>
    rw [← lookup_eq_none_iff]
    generalize table.resolve geometry address = result at finding
    cases finding <;> simp_all
  case pageFault =>
    generalize table.resolve geometry address = result at finding
    cases finding <;> simp_all
  case busError =>
    generalize table.resolve geometry address = result at finding
    cases finding <;> simp_all
  case kept => exact fun exception faulted => referenced_of_fault faulted

/-! ### Pages on consecutive frames -/

/-- Under a table with consecutive frames an address lies as far from the first of them as from
address 0, if it is aligned and one of the pages. -/
theorem Linear.resolve_eq {firstFrame pages : Nat} (linear : table.Linear firstFrame pages)
    (valid : geometry.Valid) (frames : firstFrame + pages ≤ geometry.frames) (address : UInt32) :
    table.resolve geometry address =
      if address.toNat % Word.size = 0 ∧ address.toNat < pages * geometry.pageSize then
        .ok (firstFrame * geometry.pageSize + address.toNat)
      else .error .addressError := by
  by_cases inside : address.toNat % Word.size = 0 ∧ address.toNat < pages * geometry.pageSize
  · rw [if_pos inside, resolve, linear.locate_inside valid frames inside.1 inside.2]
    simp only
    rw [Nat.add_mul, Nat.add_assoc, Nat.div_add_mod']
  · have outside : address.toNat % Word.size ≠ 0 ∨ pages * geometry.pageSize ≤ address.toNat := by
      omega
    obtain ⟨fault, located, exception⟩ := linear.locate_outside valid outside
    rw [if_neg inside, resolve, located]
    simp only [exception]

/-- A translation comes to its end under every table and every geometry that validates and whose
memory has a machine size. Under the table of a run of frames it shifts the addresses of the run,
and refuses all others. -/
theorem translate_total (valid : geometry.Valid) (bounded : geometry.bytes < Size.limit) :
    (∀ table address, ∃ report, (translate geometry address).run table = .ok report ∧
      Translates table geometry address report.result report.state) ∧
    ∀ pages firstFrame, firstFrame + pages ≤ geometry.frames → ∀ address, ∃ report,
      (translate geometry address).run (contiguous pages firstFrame) = .ok report ∧
        report.result =
          if address.toNat % Word.size = 0 ∧ address.toNat < pages * geometry.pageSize then
            .ok (firstFrame * geometry.pageSize + address.toNat)
          else .error .addressError := by
  constructor
  · intro table address
    obtain ⟨events, ran⟩ := run_translate_of_valid valid bounded table address
    exact ⟨_, ran, translates_resolve valid table address⟩
  · intro pages firstFrame frames address
    obtain ⟨events, ran⟩ :=
      run_translate_of_valid valid bounded (contiguous pages firstFrame) address
    exact ⟨_, ran, (contiguous_linear firstFrame pages).resolve_eq valid frames address⟩

/-- A machine with more bytes than offsets can count, in pages of three words. -/
def vastGeometry : Geometry := { pageSize := 12, frames := Size.limit / 16, stackSize := 0 }

/-- A table whose pages lie on the last frame, on no frame, and on one that does not exist. -/
def tornTable : PageTable :=
  ⟨#[⟨0, vastGeometry.frames - 1, { valid := true, dirty := true }⟩, ⟨1, 0, {}⟩,
    ⟨2, Size.limit - 1, { valid := true }⟩]⟩

/-- The last word of memory is found, and its page marked. The others fault, each in its way. -/
theorem translate_total_torn :
    (∃ report, (translate vastGeometry 8).run tornTable = .ok report ∧
      report.result = .ok (vastGeometry.bytes - 4) ∧
      report.state.lookup 0 =
        some ⟨0, vastGeometry.frames - 1, { valid := true, used := true, dirty := true }⟩) ∧
    ∀ entry ∈ [((6 : UInt32), Exception.addressError), (16, .pageFault), (28, .busError),
      (36, .addressError)], ∃ report,
        (translate vastGeometry entry.1).run tornTable = .ok report ∧
          report.result = .error entry.2 ∧ report.state = tornTable := by
  have valid : vastGeometry.Valid := by decide
  have bounded : vastGeometry.bytes < Size.limit := by decide
  obtain ⟨total, -⟩ := translate_total valid bounded
  constructor
  · obtain ⟨report, ran, translates⟩ := total tornTable 8
    have answered : report.result = .ok (vastGeometry.bytes - 4) :=
      (translates.answered _).mpr
        ⟨by decide, ⟨0, vastGeometry.frames - 1, { valid := true, dirty := true }⟩, by decide⟩
    refine ⟨report, ran, answered, ?_⟩
    rw [(translates.marked _ answered).2 0]
    decide
  · intro entry member
    simp only [List.mem_cons, List.not_mem_nil, or_false] at member
    obtain ⟨report, ran, translates⟩ := total tornTable entry.1
    have refused : report.result = .error entry.2 := by
      rcases member with rfl | rfl | rfl | rfl
      · exact translates.addressError.mpr (by decide)
      · exact translates.pageFault.mpr ⟨by decide, ⟨1, 0, {}⟩, by decide⟩
      · exact translates.busError.mpr
          ⟨by decide, ⟨2, Size.limit - 1, { valid := true }⟩, by decide⟩
      · exact translates.addressError.mpr (by decide)
    exact ⟨report, ran, refused, translates.kept _ refused⟩

end PagedKernel.PageTable
