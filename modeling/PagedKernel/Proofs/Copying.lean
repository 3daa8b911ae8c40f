import PagedKernel.Proofs.Loading.Cases
import PagedKernel.Proofs.Memory
import PagedKernel.Proofs.Ownership
import PagedKernel.Space.Duplicate

/-!
Contract: the course of a copy of frames, and what it leaves behind.

Owns:
- the report of `duplicate` for too many pages, a parent that is not all frames
  of the machine, too few free frames, and for a copy that got its frames;
- every report that a copy can give (`AddressSpace.Duplication`);
- the bytes of a copy, which are those of the parent before it;
- the copy of a space that still has its frames.

Does not own: who asks for a copy (`Scheduling.Runs`).
-/

namespace PagedKernel.AddressSpace

open PagedKernel.Action

variable {geometry : Geometry} {kernel : Kernel geometry} {pages parentFrame : Nat}

/-! ### Copies that are refused -/

theorem run_duplicate_of_tooLarge (large : geometry.frames < pages) :
    (duplicate pages parentFrame).run kernel =
      .ok ⟨.error (.programTooLarge pages geometry.frames), kernel,
        [.buildRefused (.programTooLarge pages geometry.frames)]⟩ := by
  simp [duplicate, fatal, emitOnError, run_bind, run_ensure, Nat.not_le.mpr large, Except.map]

theorem run_duplicate_of_overflow (small : pages ≤ geometry.frames)
    (large : Size.limit ≤ parentFrame + pages) :
    (duplicate pages parentFrame).run kernel = .error .overflow := by
  have past : Size.add parentFrame pages = .error .overflow := Size.below_of_le large
  simp [duplicate, fatal, emitOnError, run_bind, run_ensure, small, past, Except.map]

theorem run_duplicate_of_badParent (small : pages ≤ geometry.frames)
    (bounded : parentFrame + pages < Size.limit) (outside : geometry.frames < parentFrame + pages) :
    (duplicate pages parentFrame).run kernel =
      .ok ⟨.error (.badParent parentFrame pages), kernel,
        [.buildRefused (.badParent parentFrame pages)]⟩ := by
  simp [duplicate, fatal, emitOnError, run_bind, run_ensure, small, Size.add_of_lt bounded,
    Nat.not_le.mpr outside, Except.map, Report.after]

theorem run_duplicate_of_shortage (small : pages ≤ geometry.frames)
    (bounded : parentFrame + pages < Size.limit) (parent : parentFrame + pages ≤ geometry.frames)
    (short : kernel.frames.bound geometry.frames < kernel.frames.committed + pages) :
    let shortage := kernel.frames.shortage pages geometry.frames
    (duplicate pages parentFrame).run kernel =
      .ok ⟨.error (.frames shortage), kernel,
        [.framesRefused shortage, .buildRefused (.frames shortage)]⟩ := by
  simp [duplicate, fatal, emitOnError, run_bind, run_ensure, small, Size.add_of_lt bounded,
    parent, run_claimFrames_of_lt short, Except.map, Report.after]

/-! ### Copies that get their frames -/

/-- The kernel after the frames of a parent were copied to the next free ones. -/
def copiedKernel (kernel : Kernel geometry) (pages parentFrame : Nat) : Kernel geometry :=
  let parent : ByteRange := ⟨parentFrame * geometry.pageSize,
    (parentFrame + pages) * geometry.pageSize⟩
  { machine := {
      kernel.machine with
      memory := kernel.machine.memory.move parent (kernel.frames.committed * geometry.pageSize)
    }
    frames := kernel.frames.take pages
    tables := kernel.tables.add (PageTable.contiguous pages kernel.frames.committed) }

/-- The events of a copy that has its frames. -/
def copyEvents (kernel : Kernel geometry) (pages parentFrame : Nat) : List Event :=
  [.framesReserved kernel.frames.committed (kernel.frames.committed + pages),
    .parentCopied ⟨parentFrame * geometry.pageSize, (parentFrame + pages) * geometry.pageSize⟩
      ⟨kernel.frames.committed * geometry.pageSize,
        (kernel.frames.committed + pages) * geometry.pageSize⟩]

theorem run_duplicate_of_free (usable : geometry.Usable)
    (parent : parentFrame + pages ≤ geometry.frames)
    (free : kernel.frames.committed + pages ≤ kernel.frames.bound geometry.frames) :
    (duplicate pages parentFrame).run kernel =
      .ok ⟨.ok ⟨kernel.tables.nextId, pages, kernel.frames.committed⟩,
        copiedKernel kernel pages parentFrame, copyEvents kernel pages parentFrame⟩ := by
  have small : pages ≤ geometry.frames := Nat.le_trans (Nat.le_add_left _ _) parent
  have bounded := Nat.lt_of_le_of_lt parent usable.frames_lt_limit
  have child := inside_of_free free
  have childBounded := Nat.lt_of_le_of_lt child usable.frames_lt_limit
  have table := PageTable.contiguousChecked_of_le (Nat.le_of_lt childBounded)
  have source := frameBytes_of_lt bounded (usable.run_lt_limit parent)
  have target := frameBytes_of_lt childBounded (usable.run_lt_limit child)
  have inside := And.intro (Geometry.run_le_bytes parent) (Geometry.run_le_bytes child)
  simp [duplicate, copyFrames, fatal, emitOnError, run_bind, run_map, run_ensure, small,
    Size.add_of_lt bounded, parent, run_claimFrames_of_le free, table, source, target,
    require_of inside, Kernel.updateMachine, Kernel.addTable, copiedKernel, copyEvents, Except.map,
    Report.after]

/-- The reports that a copy can give. It fails and leaves everything alone, or it has the frames
it asked for. -/
inductive Duplication (kernel : Kernel geometry) (pages parentFrame : Nat) :
    Report (Kernel geometry) BuildError AddressSpace → Prop where
  | tooLarge (large : geometry.frames < pages) :
      Duplication kernel pages parentFrame
        ⟨.error (.programTooLarge pages geometry.frames), kernel,
          [.buildRefused (.programTooLarge pages geometry.frames)]⟩
  | badParent (bounded : parentFrame + pages < Size.limit)
      (outside : geometry.frames < parentFrame + pages) :
      Duplication kernel pages parentFrame
        ⟨.error (.badParent parentFrame pages), kernel,
          [.buildRefused (.badParent parentFrame pages)]⟩
  | shortage (short : kernel.frames.bound geometry.frames < kernel.frames.committed + pages) :
      Duplication kernel pages parentFrame
        ⟨.error (.frames (kernel.frames.shortage pages geometry.frames)), kernel,
          [.framesRefused (kernel.frames.shortage pages geometry.frames),
            .buildRefused (.frames (kernel.frames.shortage pages geometry.frames))]⟩
  | copied (parent : parentFrame + pages ≤ geometry.frames)
      (free : kernel.frames.committed + pages ≤ kernel.frames.bound geometry.frames) :
      Duplication kernel pages parentFrame
        ⟨.ok ⟨kernel.tables.nextId, pages, kernel.frames.committed⟩,
          copiedKernel kernel pages parentFrame, copyEvents kernel pages parentFrame⟩

theorem duplication_of_run {report : Report (Kernel geometry) BuildError AddressSpace}
    (ran : (duplicate pages parentFrame).run kernel = .ok report) :
    Duplication kernel pages parentFrame report := by
  by_cases small : pages ≤ geometry.frames
  · by_cases bounded : parentFrame + pages < Size.limit
    · by_cases parent : parentFrame + pages ≤ geometry.frames
      · by_cases free : kernel.frames.committed + pages ≤ kernel.frames.bound geometry.frames
        · rw [run_duplicate_of_free kernel.machine.usable parent free] at ran
          cases ran
          exact .copied parent free
        · have short := Nat.lt_of_not_le free
          rw [run_duplicate_of_shortage small bounded parent short] at ran
          cases ran
          exact .shortage short
      · have outside := Nat.lt_of_not_le parent
        rw [run_duplicate_of_badParent small bounded outside] at ran
        cases ran
        exact .badParent bounded outside
    · rw [run_duplicate_of_overflow small (Nat.le_of_not_lt bounded)] at ran
      cases ran
  · have large := Nat.lt_of_not_le small
    rw [run_duplicate_of_tooLarge large] at ran
    cases ran
    exact .tooLarge large

/-! ### The bytes of a copy -/

/-- The length of the bytes of a run of frames. -/
theorem length_frames (firstFrame pages pageSize : Nat) :
    (⟨firstFrame * pageSize, (firstFrame + pages) * pageSize⟩ : ByteRange).length =
      pages * pageSize := by
  rw [ByteRange.length, Nat.add_mul, Nat.add_sub_cancel_left]

section Bytes

variable (parent : parentFrame + pages ≤ geometry.frames)
include parent

/-- Every byte of the copy is the one that the parent had before, also where the two overlap. -/
theorem copiedKernel_inside (child : kernel.frames.committed + pages ≤ geometry.frames)
    {offset : Nat} (inside : offset < pages * geometry.pageSize) :
    (copiedKernel kernel pages parentFrame).machine.memory[
        kernel.frames.committed * geometry.pageSize + offset]? =
      kernel.machine.memory[parentFrame * geometry.pageSize + offset]? := by
  have length := length_frames parentFrame pages geometry.pageSize
  -- The source is read whole before the target is written, so they may overlap.
  apply Memory.getElem?_move_inside
  · rw [length]
    exact inside
  · rw [length]
    exact Geometry.run_add_le_bytes parent
  · rw [length]
    exact Geometry.run_add_le_bytes child

theorem copiedKernel_outside {position : Nat}
    (outside : position < kernel.frames.committed * geometry.pageSize ∨
      (kernel.frames.committed + pages) * geometry.pageSize ≤ position) :
    (copiedKernel kernel pages parentFrame).machine.memory[position]? =
      kernel.machine.memory[position]? := by
  have length := length_frames parentFrame pages geometry.pageSize
  rw [Nat.add_mul] at outside
  apply Memory.getElem?_move_outside
  · rw [length]
    exact Geometry.run_add_le_bytes parent
  · rw [length]
    exact outside

theorem built_copied (child : kernel.frames.committed + pages ≤ geometry.frames) :
    Built kernel (copiedKernel kernel pages parentFrame)
      ⟨kernel.tables.nextId, pages, kernel.frames.committed⟩ :=
  built_of_added (PageTable.contiguous_linear _ _) child
    (fun _ outside => copiedKernel_outside parent outside)

end Bytes

/-- The table of a copy is a fresh one, whatever the table of the parent holds. -/
theorem table_of_duplicate {space : AddressSpace} {after : Kernel geometry} {events : List Event}
    (ran : (duplicate pages parentFrame).run kernel = .ok ⟨.ok space, after, events⟩) :
    after.tables.table space.table = .contiguous space.pages space.firstFrame := by
  cases duplication_of_run ran with
  | copied => exact (TableStore.table_add _ _ _).trans (if_pos rfl)

/-- A copy of a space that returns either fails and changes nothing, or grows the kernel by a
space of the same bytes. -/
theorem fork_effect {space : AddressSpace}
    {report : Report (Kernel geometry) BuildError AddressSpace}
    (ran : space.fork.run kernel = .ok report) :
    (∃ error, report.result = .error error ∧ report.state = kernel) ∨
      ∃ copy, report.result = .ok copy ∧ Built kernel report.state copy ∧
        copy.pages = space.pages ∧
        ∀ offset < copy.pages * geometry.pageSize,
          copy.byteAt? report.state offset = space.byteAt? kernel offset := by
  cases duplication_of_run ran with
  | tooLarge | badParent | shortage => exact Or.inl ⟨_, rfl, rfl⟩
  | copied parent free =>
      have child := inside_of_free free
      refine Or.inr ⟨_, rfl, built_copied parent child, rfl, ?_⟩
      intro offset inside
      exact copiedKernel_inside parent child inside

end PagedKernel.AddressSpace
