import PagedKernel.Proofs.Loading.Acceptance
import PagedKernel.Proofs.Ownership

/-!
Contract: what a successful load leaves behind.

Owns:
- `Header.byteAt?`, the byte of the file with which a program starts at an
  address, and `Header.StartsIn`, the pages that a load marks as used;
- the bytes and the table after segments that were copied whole;
- what a successful load leaves in the new space and leaves alone elsewhere.

Does not own: which loads succeed (`Loading.Acceptance`).
-/

namespace PagedKernel

variable {geometry : Geometry} {kernel : Kernel geometry} {file : File} {header : Header}
  {firstFrame pages : Nat}

/-! ### Programs as the file describes them -/

namespace Segment

/-- The address is one of the segment. -/
def Covers (segment : Segment) (address : Nat) : Prop :=
  segment.address.toNat ≤ address ∧ address < segment.past

instance (segment : Segment) (address : Nat) : Decidable (segment.Covers address) :=
  inferInstanceAs (Decidable (_ ∧ _))

/-- The byte of the file that belongs at an address of the segment. -/
def byteAt? (segment : Segment) (file : File) (address : Nat) : Option UInt8 :=
  file.contents[segment.offset.toNat + (address - segment.address.toNat)]?

/-- The segment has bytes, and the first of them is in the page. -/
def StartsIn (segment : Segment) (pageSize page : Nat) : Prop :=
  segment.size ≠ 0 ∧ segment.address.toNat / pageSize = page

instance (segment : Segment) (pageSize page : Nat) : Decidable (segment.StartsIn pageSize page) :=
  inferInstanceAs (Decidable (_ ∧ _))

end Segment

namespace Header

/-- The byte with which the program starts at an address: one of the initialized bytes where
there is one, otherwise one of the code, and zero elsewhere. -/
def byteAt? (header : Header) (file : File) (address : Nat) : Option UInt8 :=
  if header.initialized.Covers address then header.initialized.byteAt? file address
  else if header.code.Covers address then header.code.byteAt? file address
  else some 0

/-- The page holds the start of a segment that is copied from the file. -/
def StartsIn (header : Header) (pageSize page : Nat) : Prop :=
  header.code.StartsIn pageSize page ∨ header.initialized.StartsIn pageSize page

instance (header : Header) (pageSize page : Nat) : Decidable (header.StartsIn pageSize page) :=
  inferInstanceAs (Decidable (_ ∨ _))

end Header

/-! ### Segments copied whole -/

namespace Segment

variable {segment : Segment} {kind : SegmentKind} {target : Target geometry.bytes}

/-- A segment without a refusal is empty, or starts and can be read whole. -/
theorem starts_of_refusal_none {spaceBytes : Nat}
    (whole : segment.refusal? kind file spaceBytes = none) (nonempty : segment.size ≠ 0) :
    segment.Starts spaceBytes ∧ (segment.content file).length = segment.size.toNat := by
  unfold refusal? at whole
  rw [if_neg nonempty] at whole
  by_cases inside : spaceBytes < segment.past
  · simp [inside] at whole
  by_cases aligned : segment.address.toNat % Word.size = 0
  · by_cases read : (segment.content file).length = segment.size.toNat
    · exact ⟨⟨nonempty, Nat.le_of_not_lt inside, aligned⟩, read⟩
    · simp [inside, aligned, read] at whole
  · simp [inside, aligned] at whole

theorem not_covers_of_empty (empty : segment.size = 0) (address : Nat) :
    ¬ segment.Covers address := by
  rintro ⟨first, past⟩
  simp only [Segment.past, empty, UInt32.toNat_zero] at past
  omega

/-- After a whole copy the addresses of the segment hold its bytes, and the others what they
held before. -/
theorem copied_memory (frames : firstFrame + pages ≤ geometry.frames)
    (whole : segment.refusal? kind file (pages * geometry.pageSize) = none) {offset : Nat}
    (inside : offset < pages * geometry.pageSize) :
    (segment.copied file geometry firstFrame pages target).memory[
        firstFrame * geometry.pageSize + offset]? =
      if segment.Covers offset then segment.byteAt? file offset
      else target.memory[firstFrame * geometry.pageSize + offset]? := by
  have framed := Geometry.run_add_le_bytes frames
  by_cases empty : segment.size = 0
  · rw [copied_of_not_starts (fun starts => starts.1 empty), if_neg (not_covers_of_empty empty _)]
  obtain ⟨starts, length⟩ := starts_of_refusal_none whole empty
  rw [copied_of_starts starts]
  by_cases covered : segment.Covers offset
  · have shifted : firstFrame * geometry.pageSize + offset =
        firstFrame * geometry.pageSize + segment.address.toNat +
          (offset - segment.address.toNat) := by
      have first := covered.1
      omega
    have written : offset - segment.address.toNat < (segment.content file).length := by
      have past := covered.2
      simp only [Segment.past] at past
      omega
    rw [if_pos covered, shifted, Memory.getElem?_store_inside target.memory _ written (by omega),
      getElem?_content written]
    rfl
  · rw [if_neg covered]
    apply Memory.getElem?_store_outside
    simp only [Covers, Segment.past] at covered
    omega

/-- After a whole copy the page with the start of the segment is marked. -/
theorem copied_lookup (whole : segment.refusal? kind file (pages * geometry.pageSize) = none)
    {page frame : Nat} {used : Bool}
    (found : target.table.lookup page = some ⟨page, frame, { valid := true, used }⟩) :
    (segment.copied file geometry firstFrame pages target).table.lookup page =
      some ⟨page, frame,
        { valid := true, used := decide (segment.StartsIn geometry.pageSize page) || used }⟩ := by
  by_cases empty : segment.size = 0
  · rw [copied_of_not_starts (fun starts => starts.1 empty), found]
    simp [StartsIn, empty]
  obtain ⟨starts, -⟩ := starts_of_refusal_none whole empty
  rw [copied_of_starts starts, PageTable.lookup_markUsed]
  by_cases marked : segment.address.toNat / geometry.pageSize = page
  · rw [if_pos marked, found]
    simp [StartsIn, empty, marked, Entry.markUsed]
  · rw [if_neg marked, found]
    simp [StartsIn, marked]

end Segment

namespace AddressSpace

/-! ### The target of a load -/

/-- Without a refusal both segments of the file are copied, the initialized bytes last. -/
theorem loadedTarget_of_whole (kernel : Kernel geometry)
    (whole : segmentRefusal? file header geometry = none) :
    header.code.refusal? .code file (header.pageCount geometry * geometry.pageSize) = none ∧
      header.initialized.refusal? .initialized file
        (header.pageCount geometry * geometry.pageSize) = none ∧
      loadedTarget kernel file header =
        header.initialized.copied file geometry kernel.frames.committed (header.pageCount geometry)
          (header.code.copied file geometry kernel.frames.committed (header.pageCount geometry)
            ⟨PageTable.contiguous (header.pageCount geometry) kernel.frames.committed,
              (claimedKernel kernel (header.pageCount geometry)).machine.memory⟩) := by
  simp only [segmentRefusal?, Segment.refusalAmong?, Header.fileSegments, List.findSome?_cons,
    List.findSome?_nil] at whole
  cases code : header.code.refusal? .code file
      (header.pageCount geometry * geometry.pageSize) with
  | some error => simp [code] at whole
  | none =>
      cases initialized : header.initialized.refusal? .initialized file
          (header.pageCount geometry * geometry.pageSize) with
      | some error => simp [code, initialized] at whole
      | none =>
          refine ⟨rfl, rfl, ?_⟩
          simp only [loadedTarget, Header.fileSegments, Segment.copiedAll, code, initialized]

theorem loadedTarget_linear :
    (loadedTarget kernel file header).table.Linear kernel.frames.committed
      (header.pageCount geometry) :=
  Segment.copiedAll_linear (PageTable.contiguous_linear _ _)

/-- A byte outside the frames of the new space is the same after any load. -/
theorem loadedTarget_outside {position : Nat}
    (outside : position < kernel.frames.committed * geometry.pageSize ∨
      (kernel.frames.committed + header.pageCount geometry) * geometry.pageSize ≤ position) :
    (loadedTarget kernel file header).memory[position]? = kernel.machine.memory[position]? := by
  have ordered : kernel.frames.committed * geometry.pageSize ≤
      (kernel.frames.committed + header.pageCount geometry) * geometry.pageSize :=
    Nat.mul_le_mul_right _ (Nat.le_add_right _ _)
  rw [loadedTarget, Segment.copiedAll_outside outside]
  exact Memory.getElem?_clear_outside kernel.machine.memory ordered outside

theorem loadedTarget_memory
    (frames : kernel.frames.committed + header.pageCount geometry ≤ geometry.frames)
    (whole : segmentRefusal? file header geometry = none) {offset : Nat}
    (inside : offset < header.pageCount geometry * geometry.pageSize) :
    (loadedTarget kernel file header).memory[
        kernel.frames.committed * geometry.pageSize + offset]? = header.byteAt? file offset := by
  obtain ⟨code, initialized, target⟩ := loadedTarget_of_whole kernel whole
  have cleared : (claimedKernel kernel (header.pageCount geometry)).machine.memory[
      kernel.frames.committed * geometry.pageSize + offset]? = some 0 := by
    apply Memory.getElem?_clear_inside
    · simp only
      omega
    · simp only [Nat.add_mul]
      omega
    · exact Geometry.run_le_bytes frames
  -- The last copy decides, then the first one, then the clear before both.
  rw [target, Segment.copied_memory frames initialized inside,
    Segment.copied_memory frames code inside, cleared]
  rfl

theorem loadedTarget_lookup (whole : segmentRefusal? file header geometry = none) {page : Nat}
    (inside : page < header.pageCount geometry) :
    (loadedTarget kernel file header).table.lookup page =
      some ⟨page, kernel.frames.committed + page,
        { valid := true, used := decide (header.StartsIn geometry.pageSize page) }⟩ := by
  obtain ⟨code, initialized, target⟩ := loadedTarget_of_whole kernel whole
  have mapped : (PageTable.contiguous (header.pageCount geometry)
      kernel.frames.committed).lookup page =
        some ⟨page, kernel.frames.committed + page, { valid := true, used := false }⟩ := by
    rw [PageTable.lookup_contiguous, if_pos inside]
    rfl
  rw [target, Segment.copied_lookup initialized (Segment.copied_lookup code mapped)]
  have marked : (decide (header.initialized.StartsIn geometry.pageSize page) ||
      (decide (header.code.StartsIn geometry.pageSize page) || false)) =
        decide (header.StartsIn geometry.pageSize page) := by
    rw [Bool.eq_iff_iff, decide_eq_true_iff, Header.StartsIn]
    simp [or_comm]
  rw [marked]

/-! ### Successful loads -/

/-- The kernel `after` a load holds the program of the file in `space`, which has just been built,
and nothing else has changed since `before`. -/
structure Holds (before after : Kernel geometry) (file : File) (header : Header)
    (space : AddressSpace) : Prop extends Built before after space where
  pages : space.pages = header.pageCount geometry
  entry : ∀ page < space.pages, (after.tables.table space.table).lookup page =
    some ⟨page, space.firstFrame + page,
      { valid := true, used := decide (header.StartsIn geometry.pageSize page) }⟩
  contents : ∀ offset < space.pages * geometry.pageSize,
    space.byteAt? after offset = header.byteAt? file offset

/-- A load whose segments are not refused grows the kernel by the space of its program. -/
theorem holds_loaded (whole : segmentRefusal? file header geometry = none)
    (frames : kernel.frames.committed + header.pageCount geometry ≤ geometry.frames) :
    Holds kernel
      { loadedKernel kernel file header with
        tables := kernel.tables.add (loadedTarget kernel file header).table }
      file header ⟨kernel.tables.nextId, header.pageCount geometry, kernel.frames.committed⟩ := by
  have added : (kernel.tables.add (loadedTarget kernel file header).table).table
      kernel.tables.nextId = (loadedTarget kernel file header).table := by
    rw [TableStore.table_add, if_pos rfl]
  constructor
  case toBuilt =>
    apply built_of_added loadedTarget_linear frames
    intro position outside
    exact loadedTarget_outside outside
  case pages => rfl
  case entry =>
    intro page inside
    rw [added, loadedTarget_lookup whole inside]
  case contents => exact fun offset inside => loadedTarget_memory frames whole inside

/-- A load with frames that is refused a segment keeps the frames, and changes no others. -/
theorem extends_loaded (kernel : Kernel geometry) (file : File) (header : Header) :
    kernel.Extends (loadedKernel kernel file header) := by
  constructor
  case committed => exact Nat.le_add_right _ _
  case issued => exact fun id issued => issued
  case byte => exact fun position outside => loadedTarget_outside outside
  all_goals intros; rfl

/-- A load that returns either fails, with the error of its header if that is unreadable, and
keeps at most the frames it took, or leaves the program of its file in a new space. -/
theorem load_effect {report : Report (Kernel geometry) BuildError AddressSpace}
    (ran : (load file).run kernel = .ok report) :
    (∃ error, report.result = .error error ∧ kernel.Extends report.state ∧
        ∀ unreadable, Header.read file = .error unreadable → error = .image unreadable) ∨
      ∃ header order space, Header.read file = .ok (header, order) ∧
        report.result = .ok space ∧ Holds kernel report.state file header space := by
  cases loading_of_run ran with
  | unreadable read =>
      refine Or.inl ⟨_, rfl, .refl kernel, ?_⟩
      intro unreadable unread
      cases read.symm.trans unread
      rfl
  | tooLarge read | shortage read =>
      exact Or.inl ⟨_, rfl, .refl kernel, fun _ unread => nomatch read.symm.trans unread⟩
  | refused read =>
      exact Or.inl
        ⟨_, rfl, extends_loaded kernel file _, fun _ unread => nomatch read.symm.trans unread⟩
  | loaded read free whole =>
      exact Or.inr ⟨_, _, _, read, rfl, holds_loaded whole (inside_of_free free)⟩

/-- A load that succeeds leaves the program of its file in the frames that follow the taken ones,
and nothing else is changed. -/
theorem load_contents {after : Kernel geometry} {space : AddressSpace} {events : List Event}
    (loaded : (load file).run kernel = .ok ⟨.ok space, after, events⟩) :
    ∃ header order, Header.read file = .ok (header, order) ∧
      Holds kernel after file header space := by
  rcases load_effect loaded with ⟨error, failed, -⟩ | ⟨header, order, made, read, built, holds⟩
  · cases failed
  · cases built
    exact ⟨header, order, read, holds⟩

/-- A program of one instruction word and one word of initialized bytes, which do not overlap. -/
def twoWordImage : File where
  contents := Header.encode
    { magic := imageMagic, code := ⟨4, 0, 40⟩, initialized := ⟨4, 4, 44⟩ } .swapped ++
      [1, 2, 3, 4, 5, 6, 7, 8]

theorem load_contents_twoWordImage :
    ∃ space after events,
      (load twoWordImage).run smallKernel = .ok ⟨.ok space, after, events⟩ ∧
        ∃ header order, Header.read twoWordImage = .ok (header, order) ∧
          Holds smallKernel after twoWordImage header space := by
  have summable : Summable twoWordImage { pageSize := 4, frames := 6, stackSize := 4 } := by
    intro whole order magic
    cases order <;> decide +kernel
  have accepted : Condition.firstFailing (loadConditions twoWordImage
      { pageSize := 4, frames := 6, stackSize := 4 } smallKernel.frames) = none := by
    decide +kernel
  obtain ⟨⟨result, after, events⟩, ran, ended⟩ :=
    run_load_of_summable smallKernel twoWordImage summable
  rw [accepted] at ended
  obtain ⟨space, rfl⟩ := ended
  exact ⟨space, after, events, ran, load_contents ran⟩

end AddressSpace

end PagedKernel
