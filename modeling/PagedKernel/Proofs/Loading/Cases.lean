import PagedKernel.Proofs.Placement
import PagedKernel.Space.Load

/-!
Contract: the course of a load, case by case.

Owns:
- the bytes and pages that a header asks for;
- what each stage of a load does to the kernel, and that one which fails records
  its error;
- the report of `load` for an unreadable header, a size that is no machine
  size, a program too large for the machine, too few free frames, and for a
  load that got its frames;
- every report that a load can give (`AddressSpace.Loading`).

Does not own: which files fall under which case (`Loading.Acceptance`).
-/

namespace PagedKernel

open PagedKernel.Action

variable {geometry : Geometry} {kernel : Kernel geometry} {file : File} {header : Header}
  {order : ByteOrder}

/-! ### Sizes -/

namespace Header

/-- Bytes that the segments and the stack take together. -/
def bytesNeeded (header : Header) (geometry : Geometry) : Nat :=
  header.code.size.toNat + header.initialized.size.toNat + header.uninitialized.size.toNat +
    geometry.stackSize

/-- The least number of pages that hold the bytes needed. -/
def pageCount (header : Header) (geometry : Geometry) : Nat :=
  (header.bytesNeeded geometry + (geometry.pageSize - 1)) / geometry.pageSize

theorem pagesNeeded_of_lt (valid : geometry.Valid)
    (bounded : header.bytesNeeded geometry < Size.limit) :
    header.pagesNeeded geometry = .ok (header.pageCount geometry) := by
  have sum : header.imageSize geometry = .ok (header.bytesNeeded geometry) :=
    Size.add_of_lt bounded
  simp only [pagesNeeded, sum, Geometry.pagesFor, bind, Except.bind]
  exact Size.ceilDiv_of_pos valid.pageSize_pos

theorem pagesNeeded_of_le (large : Size.limit ≤ header.bytesNeeded geometry) :
    header.pagesNeeded geometry = .error .overflow := by
  have sum : header.imageSize geometry = .error .overflow := Size.below_of_le large
  simp only [pagesNeeded, sum, bind, Except.bind]

end Header

namespace AddressSpace

/-! ### Stages -/

section Fatal

variable {σ α : Type} {action : Action σ BuildError α} {state reached : σ} {events : List Event}

theorem run_fatal_of_ok {value : α} (ran : action.run state = .ok ⟨.ok value, reached, events⟩) :
    (fatal action).run state = .ok ⟨.ok value, reached, events⟩ := by
  simp only [fatal, emitOnError, ran, Except.map]

theorem run_fatal_of_failure {error : BuildError}
    (ran : action.run state = .ok ⟨.error error, reached, events⟩) :
    (fatal action).run state = .ok ⟨.error error, reached, events ++ [.buildRefused error]⟩ := by
  simp only [fatal, emitOnError, ran, Except.map]

end Fatal

theorem run_claimFrames_of_le {pages : Nat}
    (free : kernel.frames.committed + pages ≤ kernel.frames.bound geometry.frames) :
    (claimFrames pages).run kernel =
      .ok ⟨.ok kernel.frames.committed, { kernel with frames := kernel.frames.take pages },
        [.framesReserved kernel.frames.committed (kernel.frames.committed + pages)]⟩ := by
  have sized : kernel.frames.bound geometry.frames < Size.limit :=
    Nat.lt_of_le_of_lt (Nat.min_le_right _ _) kernel.machine.usable.frames_lt_limit
  apply run_fatal_of_ok
  simp only [Kernel.onFrames, run_within, run_mapError,
    FramePool.run_reserveWithin_of_le sized free, Except.map, mapError_ok]

theorem run_claimFrames_of_lt {pages : Nat}
    (short : kernel.frames.bound geometry.frames < kernel.frames.committed + pages) :
    let shortage := kernel.frames.shortage pages geometry.frames
    (claimFrames pages).run kernel =
      .ok ⟨.error (.frames shortage), kernel,
        [.framesRefused shortage, .buildRefused (.frames shortage)]⟩ := by
  intro shortage
  have refused : (Kernel.onFrames ((FramePool.reserveWithin pages geometry.frames).mapError
      BuildError.frames)).run kernel =
        .ok ⟨.error (.frames shortage), kernel, [.framesRefused shortage]⟩ := by
    simp only [Kernel.onFrames, run_within, run_mapError, FramePool.run_reserveWithin_of_lt short,
      Except.map, mapError_error]
    rfl
  exact run_fatal_of_failure refused

theorem run_readImage_of_le (valid : geometry.Valid)
    (read : Header.read file = .ok (header, order))
    (bounded : header.bytesNeeded geometry < Size.limit)
    (small : header.pageCount geometry ≤ geometry.frames) :
    (readImage file).run kernel =
      .ok ⟨.ok (header, header.pageCount geometry), kernel, [.headerRead header order]⟩ := by
  simp [readImage, fatal, emitOnError, read, Header.pagesNeeded_of_lt valid bounded, small,
    run_ensure, run_bind, run_map, Except.map, Report.after]

theorem run_readImage_of_lt (valid : geometry.Valid)
    (read : Header.read file = .ok (header, order))
    (bounded : header.bytesNeeded geometry < Size.limit)
    (large : geometry.frames < header.pageCount geometry) :
    let error : BuildError := .programTooLarge (header.pageCount geometry) geometry.frames
    (readImage file).run kernel =
      .ok ⟨.error error, kernel, [.headerRead header order, .buildRefused error]⟩ := by
  simp [readImage, fatal, emitOnError, read, Header.pagesNeeded_of_lt valid bounded,
    Nat.not_le.mpr large, run_ensure, run_bind, run_map, Except.map, Report.after]

/-- The report of copies that a refusal, if there is one, stops. -/
def placement (target : Target geometry.bytes) (events : List Event) :
    Option ImageError → Report (Target geometry.bytes) BuildError Unit
  | none => ⟨.ok (), target, events⟩
  | some error => ⟨.error (.image error), target, events ++ [.buildRefused (.image error)]⟩

theorem placement_after (target : Target geometry.bytes) (events later : List Event)
    (refusal : Option ImageError) :
    (placement target later refusal).after events = placement target (events ++ later) refusal := by
  cases refusal <;> simp [placement, Report.after]

/-- Copying several segments ends with the first refusal among them, which is recorded last. -/
theorem run_placeAll (file : File) (segments : List (SegmentKind × Segment))
    (target : Target geometry.bytes) {firstFrame pages : Nat} (usable : geometry.Usable)
    (linear : target.table.Linear firstFrame pages)
    (frames : firstFrame + pages ≤ geometry.frames) :
    ∃ events, (∀ event ∈ events, event.Placing) ∧
      (placeAll file segments).run target =
        .ok (placement (Segment.copiedAll file geometry firstFrame pages segments target) events
          (Segment.refusalAmong? file (pages * geometry.pageSize) segments)) := by
  induction segments generalizing target with
  | nil => exact ⟨[], by simp, rfl⟩
  | cons entry rest inductionHypothesis =>
      obtain ⟨kind, segment⟩ := entry
      obtain ⟨events, placing, placed⟩ := segment.run_place kind file usable linear frames
      obtain ⟨later, placingLater, continued⟩ :=
        inductionHypothesis (segment.copied file geometry firstFrame pages target)
          (Segment.copied_linear segment file linear)
      have converted := run_mapError BuildError.image (segment.place kind file geometry) target
      rw [placed] at converted
      unfold placeAll Segment.copiedAll Segment.refusalAmong?
      rw [List.findSome?_cons]
      cases refused : segment.refusal? kind file (pages * geometry.pageSize) with
      | some error =>
          rw [refused] at converted
          exact ⟨events, placing, run_bind_of_failure (run_fatal_of_failure converted)⟩
      | none =>
          rw [refused] at converted
          refine ⟨events ++ later, List.forall_mem_append.mpr ⟨placing, placingLater⟩, ?_⟩
          rw [run_bind_of_ok (run_fatal_of_ok converted), continued, ← placement_after]
          rfl

/-- The segments are copied into the memory of the kernel through a table of its own. -/
theorem run_placeSegments (kernel : Kernel geometry) (file : File) (header : Header)
    {table : PageTable} {firstFrame pages : Nat} (usable : geometry.Usable)
    (linear : table.Linear firstFrame pages) (frames : firstFrame + pages ≤ geometry.frames) :
    let target := Segment.copiedAll file geometry firstFrame pages header.fileSegments
      ⟨table, kernel.machine.memory⟩
    let after := { kernel with machine := { kernel.machine with memory := target.memory } }
    ∃ events, (∀ event ∈ events, event.Placing) ∧
      (placeSegments file header table).run kernel =
        .ok (match Segment.refusalAmong? file (pages * geometry.pageSize) header.fileSegments with
          | none => ⟨.ok target.table, after, events⟩
          | some error => ⟨.error (.image error), after,
              events ++ [.buildRefused (.image error)]⟩) := by
  obtain ⟨events, placing, ran⟩ := run_placeAll file header.fileSegments
    ⟨table, kernel.machine.memory⟩ usable linear frames
  refine ⟨events, placing, ?_⟩
  cases refused : Segment.refusalAmong? file (pages * geometry.pageSize) header.fileSegments <;>
    simp [placeSegments, run_within, run_bind, ran, refused, placement, Except.map, Report.after]

/-! ### Loads without frames -/

theorem run_load_of_unreadable {error : ImageError} (unreadable : Header.read file = .error error) :
    (load file).run kernel =
      .ok ⟨.error (.image error), kernel, [.buildRefused (.image error)]⟩ := by
  simp [load, readImage, fatal, emitOnError, unreadable, run_bind, Except.map]

/-- The sum of the sizes is the one computation of a load that can stop the kernel. -/
theorem run_load_of_overflow (read : Header.read file = .ok (header, order))
    (large : Size.limit ≤ header.bytesNeeded geometry) :
    (load file).run kernel = .error .overflow := by
  simp [load, readImage, fatal, emitOnError, read, Header.pagesNeeded_of_le large, run_bind,
    Except.map]

theorem run_load_of_tooLarge (valid : geometry.Valid)
    (read : Header.read file = .ok (header, order))
    (bounded : header.bytesNeeded geometry < Size.limit)
    (large : geometry.frames < header.pageCount geometry) :
    (load file).run kernel =
      .ok ⟨.error (.programTooLarge (header.pageCount geometry) geometry.frames), kernel,
        [.headerRead header order,
          .buildRefused (.programTooLarge (header.pageCount geometry) geometry.frames)]⟩ :=
  run_bind_of_failure (run_readImage_of_lt valid read bounded large)

theorem run_load_of_shortage (valid : geometry.Valid)
    (read : Header.read file = .ok (header, order))
    (bounded : header.bytesNeeded geometry < Size.limit)
    (small : header.pageCount geometry ≤ geometry.frames)
    (short : kernel.frames.bound geometry.frames <
      kernel.frames.committed + header.pageCount geometry) :
    let shortage := kernel.frames.shortage (header.pageCount geometry) geometry.frames
    (load file).run kernel =
      .ok ⟨.error (.frames shortage), kernel,
        [.headerRead header order, .framesRefused shortage, .buildRefused (.frames shortage)]⟩ := by
  simp [load, run_bind, run_readImage_of_le valid read bounded small,
    run_claimFrames_of_lt short, Except.map, Report.after]

/-! ### Loads with frames -/

/-- The kernel once the frames of a new space are taken and cleared. -/
def claimedKernel (kernel : Kernel geometry) (pages : Nat) : Kernel geometry :=
  let range : ByteRange := ⟨kernel.frames.committed * geometry.pageSize,
    (kernel.frames.committed + pages) * geometry.pageSize⟩
  { kernel with
    machine := { kernel.machine with memory := kernel.machine.memory.clear range }
    frames := kernel.frames.take pages }

/-- Clearing the frames just taken stays inside the machine. -/
theorem run_clearFrames {pages : Nat} (usable : geometry.Usable)
    (frames : kernel.frames.committed + pages ≤ geometry.frames) :
    (clearFrames kernel.frames.committed pages).run
        { kernel with frames := kernel.frames.take pages } =
      .ok ⟨.ok (), claimedKernel kernel pages, []⟩ := by
  have range := frameBytes_of_lt (Nat.lt_of_le_of_lt frames usable.frames_lt_limit)
    (usable.run_lt_limit frames)
  simp [clearFrames, range, require_of (Geometry.run_le_bytes frames), Kernel.updateMachine,
    claimedKernel, run_bind, Except.map, Report.after]

/-- What a load with frames for its pages leaves in its table and in memory. -/
def loadedTarget (kernel : Kernel geometry) (file : File) (header : Header) :
    Target geometry.bytes :=
  Segment.copiedAll file geometry kernel.frames.committed (header.pageCount geometry)
    header.fileSegments
    ⟨PageTable.contiguous (header.pageCount geometry) kernel.frames.committed,
      (claimedKernel kernel (header.pageCount geometry)).machine.memory⟩

/-- The kernel after a load with frames, up to the table of the new space. -/
def loadedKernel (kernel : Kernel geometry) (file : File) (header : Header) : Kernel geometry :=
  { kernel with
    machine := { kernel.machine with memory := (loadedTarget kernel file header).memory }
    frames := kernel.frames.take (header.pageCount geometry) }

/-- The first refusal of a segment of the file, in the space that the header asks for. -/
def segmentRefusal? (file : File) (header : Header) (geometry : Geometry) : Option ImageError :=
  Segment.refusalAmong? file (header.pageCount geometry * geometry.pageSize) header.fileSegments

/-- The frames of a successful request are frames of the machine. -/
theorem inside_of_free {pages : Nat}
    (free : kernel.frames.committed + pages ≤ kernel.frames.bound geometry.frames) :
    kernel.frames.committed + pages ≤ geometry.frames :=
  Nat.le_trans free (Nat.min_le_right _ _)

/-- The events of a load up to the copy of its segments. -/
def claimEvents (kernel : Kernel geometry) (header : Header) (order : ByteOrder) : List Event :=
  [.headerRead header order,
    .framesReserved kernel.frames.committed
      (kernel.frames.committed + header.pageCount geometry),
    .spaceLaidOut (header.pageCount geometry) (header.pageCount geometry * geometry.pageSize)
      kernel.frames.committed]

theorem run_load_of_free (usable : geometry.Usable)
    (read : Header.read file = .ok (header, order))
    (bounded : header.bytesNeeded geometry < Size.limit)
    (small : header.pageCount geometry ≤ geometry.frames)
    (free : kernel.frames.committed + header.pageCount geometry ≤
      kernel.frames.bound geometry.frames) :
    ∃ events, (∀ event ∈ events, event.Placing) ∧
      (load file).run kernel =
        .ok (match segmentRefusal? file header geometry with
          | none => ⟨.ok ⟨kernel.tables.nextId, header.pageCount geometry,
                kernel.frames.committed⟩,
              { loadedKernel kernel file header with
                tables := kernel.tables.add (loadedTarget kernel file header).table },
              claimEvents kernel header order ++ events⟩
          | some error => ⟨.error (.image error), loadedKernel kernel file header,
              claimEvents kernel header order ++ events ++ [.buildRefused (.image error)]⟩) := by
  have frames := inside_of_free free
  have table := PageTable.contiguousChecked_of_le
    (Nat.le_trans frames (Nat.le_of_lt usable.frames_lt_limit))
  obtain ⟨events, placing, placed⟩ := run_placeSegments
    (claimedKernel kernel (header.pageCount geometry)) file header usable
    (PageTable.contiguous_linear _ _) frames
  refine ⟨events, placing, ?_⟩
  cases refused : segmentRefusal? file header geometry <;>
    simp only [segmentRefusal?] at refused <;>
    simp [load, run_bind, run_map, run_readImage_of_le usable.valid read bounded small,
      run_claimFrames_of_le free, table, run_clearFrames usable frames, placed, refused,
      claimEvents, Kernel.addTable, Except.map, Report.after]
  · exact ⟨rfl, rfl, rfl, rfl⟩
  · rfl

/-! ### Every load that returns -/

/-- The reports that a load can give. It fails before it has frames and leaves everything alone,
or it has the frames its header asks for and then ends with the first refusal of a segment, or
with a space if there is none. -/
inductive Loading (kernel : Kernel geometry) (file : File) :
    Report (Kernel geometry) BuildError AddressSpace → Prop where
  | unreadable {error : ImageError} (read : Header.read file = .error error) :
      Loading kernel file ⟨.error (.image error), kernel, [.buildRefused (.image error)]⟩
  | tooLarge {header : Header} {order : ByteOrder} (read : Header.read file = .ok (header, order))
      (large : geometry.frames < header.pageCount geometry) :
      Loading kernel file
        ⟨.error (.programTooLarge (header.pageCount geometry) geometry.frames), kernel,
          [.headerRead header order,
            .buildRefused (.programTooLarge (header.pageCount geometry) geometry.frames)]⟩
  | shortage {header : Header} {order : ByteOrder} (read : Header.read file = .ok (header, order))
      (short : kernel.frames.bound geometry.frames <
        kernel.frames.committed + header.pageCount geometry) :
      Loading kernel file
        ⟨.error (.frames (kernel.frames.shortage (header.pageCount geometry) geometry.frames)),
          kernel, [.headerRead header order,
            .framesRefused (kernel.frames.shortage (header.pageCount geometry) geometry.frames),
            .buildRefused
              (.frames (kernel.frames.shortage (header.pageCount geometry) geometry.frames))]⟩
  | refused {header : Header} {order : ByteOrder} {error : ImageError} {events : List Event}
      (read : Header.read file = .ok (header, order))
      (free : kernel.frames.committed + header.pageCount geometry ≤
        kernel.frames.bound geometry.frames)
      (refusal : segmentRefusal? file header geometry = some error)
      (placing : ∀ event ∈ events, event.Placing) :
      Loading kernel file
        ⟨.error (.image error), loadedKernel kernel file header,
          claimEvents kernel header order ++ events ++ [.buildRefused (.image error)]⟩
  | loaded {header : Header} {order : ByteOrder} {events : List Event}
      (read : Header.read file = .ok (header, order))
      (free : kernel.frames.committed + header.pageCount geometry ≤
        kernel.frames.bound geometry.frames)
      (whole : segmentRefusal? file header geometry = none)
      (placing : ∀ event ∈ events, event.Placing) :
      Loading kernel file
        ⟨.ok ⟨kernel.tables.nextId, header.pageCount geometry, kernel.frames.committed⟩,
          { loadedKernel kernel file header with
            tables := kernel.tables.add (loadedTarget kernel file header).table },
          claimEvents kernel header order ++ events⟩

theorem loading_of_run {report : Report (Kernel geometry) BuildError AddressSpace}
    (ran : (load file).run kernel = .ok report) : Loading kernel file report := by
  have usable := kernel.machine.usable
  cases read : Header.read file with
  | error error =>
      rw [run_load_of_unreadable read] at ran
      cases ran
      exact .unreadable read
  | ok found =>
      obtain ⟨header, order⟩ := found
      by_cases bounded : header.bytesNeeded geometry < Size.limit
      · by_cases small : header.pageCount geometry ≤ geometry.frames
        · by_cases free : kernel.frames.committed + header.pageCount geometry ≤
              kernel.frames.bound geometry.frames
          · obtain ⟨events, placing, course⟩ := run_load_of_free usable read bounded small free
            rw [course] at ran
            cases refusal : segmentRefusal? file header geometry with
            | none =>
                rw [refusal] at ran
                cases ran
                exact .loaded read free refusal placing
            | some error =>
                rw [refusal] at ran
                cases ran
                exact .refused read free refusal placing
          · have short := Nat.lt_of_not_le free
            rw [run_load_of_shortage usable.valid read bounded small short] at ran
            cases ran
            exact .shortage read short
        · have large := Nat.lt_of_not_le small
          rw [run_load_of_tooLarge usable.valid read bounded large] at ran
          cases ran
          exact .tooLarge read large
      · rw [run_load_of_overflow read (Nat.le_of_not_lt bounded)] at ran
        cases ran

end AddressSpace

end PagedKernel
