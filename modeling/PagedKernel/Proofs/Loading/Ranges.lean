import PagedKernel.Proofs.Loading.Acceptance

/-!
Contract: which segments a load keeps inside the new space.

Owns:
- the order in which constructions come upon their errors (`BuildError.stage`),
  and the fact that the conditions of a load are listed in it;
- files that differ in the place of the uninitialized bytes alone
  (`File.SamePlan`);
- the refusal of a file segment that leaves the space, and the result of a
  load as it depends on the uninitialized segment, of which only the size is
  looked at.

Does not own: the bytes of the segments (`Loading.Contents`).
-/

namespace PagedKernel

variable {geometry : Geometry} {kernel : Kernel geometry} {file other : File}

/-! ### Errors in their order -/

/-- The first stage at which a segment can be refused. -/
def SegmentKind.stage : SegmentKind → Nat
  | .code => 5
  | .initialized => 8
  | .uninitialized => 11

/-- Where on its way a construction comes upon the error. -/
def BuildError.stage : BuildError → Nat
  | .image (.truncatedHeader _) => 0
  | .image (.badMagic _) => 1
  | .programTooLarge _ _ => 2
  | .badParent _ _ => 3
  | .frames _ => 4
  | .image (.segmentOutOfRange kind) => kind.stage
  | .image (.segmentFault kind _) => kind.stage + 1
  | .image (.truncatedSegment kind _ _) => kind.stage + 2

/-- The conditions are listed by the stages of their errors. -/
abbrev Condition.Staged (conditions : List Condition) : Prop :=
  conditions.Pairwise fun first second => first.error.stage < second.error.stage

/-- Where a condition fails, a load is refused no later than there. -/
theorem Condition.firstFailing_of_mem {conditions : List Condition} {condition : Condition}
    (staged : Staged conditions) (member : condition ∈ conditions)
    (fails : condition.holds = false) :
    ∃ error, firstFailing conditions = some error ∧ error.stage ≤ condition.error.stage := by
  induction conditions with
  | nil => cases member
  | cons first rest inductionHypothesis =>
      obtain ⟨later, staged⟩ := List.pairwise_cons.mp staged
      by_cases holds : first.holds
      · have elsewhere : condition ∈ rest := by
          rcases List.mem_cons.mp member with rfl | elsewhere
          · rw [fails] at holds
            cases holds
          · exact elsewhere
        obtain ⟨error, failing, early⟩ := inductionHypothesis staged elsewhere
        refine ⟨error, ?_, early⟩
        simpa [firstFailing, holds] using failing
      · refine ⟨first.error, by simp [firstFailing, holds], ?_⟩
        rcases List.mem_cons.mp member with rfl | elsewhere
        · exact Nat.le_refl _
        · exact Nat.le_of_lt (later condition elsewhere)

theorem Segment.stage_of_mem_conditions {segment : Segment} {kind : SegmentKind}
    {spaceBytes : Nat} {condition : Condition}
    (member : condition ∈ segment.conditions kind file spaceBytes) :
    kind.stage ≤ condition.error.stage ∧ condition.error.stage ≤ kind.stage + 2 := by
  unfold conditions at member
  split at member
  · cases member
  · simp only [List.mem_cons, List.not_mem_nil, or_false] at member
    rcases member with rfl | rfl | rfl <;> simp [BuildError.stage]

theorem Segment.conditions_staged (segment : Segment) (kind : SegmentKind) (file : File)
    (spaceBytes : Nat) : Condition.Staged (segment.conditions kind file spaceBytes) := by
  unfold conditions
  split
  · exact .nil
  · simp [BuildError.stage]

theorem Header.conditions_staged (header : Header) (file : File) (geometry : Geometry)
    (frames : FramePool) :
    Condition.Staged (header.conditions file geometry frames) ∧
      ∀ condition ∈ header.conditions file geometry frames, 2 ≤ condition.error.stage := by
  let spaceBytes := header.pageCount geometry * geometry.pageSize
  -- The conditions on the two segments take separate runs of stages, after all others.
  have code : ∀ condition ∈ header.code.conditions .code file spaceBytes,
      5 ≤ condition.error.stage ∧ condition.error.stage ≤ 7 :=
    fun _ => Segment.stage_of_mem_conditions
  have initialized : ∀ condition ∈ header.initialized.conditions .initialized file spaceBytes,
      8 ≤ condition.error.stage :=
    fun _ member => (Segment.stage_of_mem_conditions member).1
  have early : ∀ condition ∈
      ([⟨header.pageCount geometry ≤ geometry.frames,
          .programTooLarge (header.pageCount geometry) geometry.frames⟩,
        ⟨frames.committed + header.pageCount geometry ≤ min frames.total geometry.frames,
          .frames ⟨header.pageCount geometry, frames.committed,
            min frames.total geometry.frames⟩⟩] : List Condition),
      2 ≤ condition.error.stage ∧ condition.error.stage ≤ 4 := by
    simp [BuildError.stage]
  constructor
  · refine List.pairwise_append.mpr ⟨List.pairwise_append.mpr ⟨?_, ?_, ?_⟩, ?_, ?_⟩
    · simp [BuildError.stage]
    · exact header.code.conditions_staged _ _ _
    · intro first isEarly second isCode
      have atMostFour := (early first isEarly).2
      have atLeastFive := (code second isCode).1
      omega
    · exact header.initialized.conditions_staged _ _ _
    · intro first isBefore second isInitialized
      have atLeastEight := initialized second isInitialized
      rcases List.mem_append.mp isBefore with isEarly | isCode
      · have atMostFour := (early first isEarly).2
        omega
      · have atMostSeven := (code first isCode).2
        omega
  · intro condition member
    rcases List.mem_append.mp member with isBefore | isInitialized
    · rcases List.mem_append.mp isBefore with isEarly | isCode
      · exact (early condition isEarly).1
      · exact Nat.le_trans (by decide) (code condition isCode).1
    · exact Nat.le_trans (by decide) (initialized condition isInitialized)

theorem loadConditions_staged (file : File) (geometry : Geometry) (frames : FramePool) :
    Condition.Staged (loadConditions file geometry frames) := by
  unfold loadConditions
  cases ByteOrder.ofMagic? (file.word 0) with
  | none => simp [BuildError.stage]
  | some order =>
      obtain ⟨staged, late⟩ := (file.header order).conditions_staged file geometry frames
      refine List.pairwise_cons.mpr ⟨?_, staged⟩
      intro condition member
      exact Nat.lt_of_lt_of_le (Nat.zero_lt_succ 1) (late condition member)

/-! ### Files with the same plan -/

/-- The files differ at most in the words that place the uninitialized segment in memory and in
the file. -/
structure File.SamePlan (file other : File) : Prop where
  maxRead : file.maxRead = other.maxRead
  length : file.length = other.length
  bytes : ∀ position, position < 32 ∨ headerSize ≤ position →
    file.contents[position]? = other.contents[position]?

namespace File.SamePlan

variable (same : file.SamePlan other)
include same

theorem readLimit_eq (count : Nat) : file.readLimit count = other.readLimit count := by
  simp only [File.readLimit, same.maxRead]

theorem reach_eq : file.reach = other.reach := by
  simp only [File.reach, same.readLimit_eq, same.length]

theorem word_eq {index : Nat} (early : index < 8) : file.word index = other.word index := by
  have bytes : ∀ position < 32, file.contents.getD position 0 = other.contents.getD position 0 := by
    intro position inside
    rw [List.getD_eq_getElem?_getD, List.getD_eq_getElem?_getD,
      same.bytes position (Or.inl inside)]
  rw [File.word, File.word, Word.wordAt, Word.wordAt, bytes _ (by omega), bytes _ (by omega),
    bytes _ (by omega), bytes _ (by omega)]

theorem code_eq (order : ByteOrder) : (file.header order).code = (other.header order).code := by
  simp [File.header, File.storedHeader, Header.map, Segment.map, same.word_eq]

theorem initialized_eq (order : ByteOrder) :
    (file.header order).initialized = (other.header order).initialized := by
  simp [File.header, File.storedHeader, Header.map, Segment.map, same.word_eq]

theorem uninitialized_size_eq (order : ByteOrder) :
    (file.header order).uninitialized.size = (other.header order).uninitialized.size := by
  simp [File.header, File.storedHeader, Header.map, Segment.map, same.word_eq]

theorem bytesNeeded_eq (order : ByteOrder) (geometry : Geometry) :
    (file.header order).bytesNeeded geometry = (other.header order).bytesNeeded geometry := by
  simp only [Header.bytesNeeded, same.code_eq, same.initialized_eq, same.uninitialized_size_eq]

theorem pageCount_eq (order : ByteOrder) (geometry : Geometry) :
    (file.header order).pageCount geometry = (other.header order).pageCount geometry := by
  simp only [Header.pageCount, same.bytesNeeded_eq]

theorem segment_conditions_eq (segment : Segment) (kind : SegmentKind) (spaceBytes : Nat) :
    segment.conditions kind file spaceBytes = segment.conditions kind other spaceBytes := by
  simp only [Segment.conditions, same.readLimit_eq, same.length]

theorem loadConditions_eq (geometry : Geometry) (frames : FramePool) :
    loadConditions file geometry frames = loadConditions other geometry frames := by
  simp only [loadConditions, Header.conditions, same.reach_eq, same.word_eq (Nat.zero_lt_succ 7),
    same.pageCount_eq, same.code_eq, same.initialized_eq, same.segment_conditions_eq]

theorem summable_iff (geometry : Geometry) : Summable file geometry ↔ Summable other geometry := by
  simp only [Summable, same.reach_eq, same.word_eq (Nat.zero_lt_succ 7), same.bytesNeeded_eq]

end File.SamePlan

namespace AddressSpace

/-! ### The result of a load -/

/-- The space of a load that succeeds is the next one, of the pages that its header asks for. -/
theorem space_of_load {after : Kernel geometry} {space : AddressSpace} {events : List Event}
    (loaded : (load file).run kernel = .ok ⟨.ok space, after, events⟩) :
    ∃ header order, Header.read file = .ok (header, order) ∧
      space = ⟨kernel.tables.nextId, header.pageCount geometry, kernel.frames.committed⟩ := by
  cases loading_of_run loaded with
  | @loaded header order events read => exact ⟨header, order, read, rfl⟩

theorem run_load_of_not_summable (kernel : Kernel geometry) (refused : ¬ Summable file geometry) :
    (load file).run kernel = .error .overflow := by
  simp only [Summable, Classical.not_forall, Nat.not_lt] at refused
  obtain ⟨whole, order, magic, large⟩ := refused
  exact run_load_of_overflow (Header.read_eq_ok_iff.mpr ⟨whole, magic, rfl⟩) large

/-- A load looks at the size of the uninitialized segment, and not at its place. -/
theorem result_eq_of_samePlan (kernel : Kernel geometry) (same : file.SamePlan other) :
    ((load file).run kernel).map (·.result) = ((load other).run kernel).map (·.result) := by
  by_cases summable : Summable file geometry
  · obtain ⟨⟨result, after, events⟩, ran, ended⟩ := run_load_of_summable kernel file summable
    obtain ⟨⟨otherResult, otherAfter, otherEvents⟩, otherRan, otherEnded⟩ :=
      run_load_of_summable kernel other ((same.summable_iff geometry).mp summable)
    rw [← same.loadConditions_eq] at otherEnded
    suffices same : result = otherResult by
      rw [ran, otherRan, same]
      rfl
    cases failing : Condition.firstFailing (loadConditions file geometry kernel.frames) with
    | some error =>
        rw [failing] at ended otherEnded
        exact ended.trans otherEnded.symm
    | none =>
        rw [failing] at ended otherEnded
        obtain ⟨space, rfl⟩ := ended
        obtain ⟨otherSpace, rfl⟩ := otherEnded
        obtain ⟨header, order, read, rfl⟩ := space_of_load ran
        obtain ⟨otherHeader, otherOrder, otherRead, rfl⟩ := space_of_load otherRan
        obtain ⟨-, magic, rfl⟩ := Header.read_eq_ok_iff.mp read
        obtain ⟨-, otherMagic, rfl⟩ := Header.read_eq_ok_iff.mp otherRead
        rw [← same.word_eq (Nat.zero_lt_succ 7), ← ByteOrder.ofMagic?_eq_some_iff,
          ByteOrder.ofMagic?_eq_some_iff.mpr magic] at otherMagic
        cases otherMagic
        rw [same.pageCount_eq]
  · rw [run_load_of_not_summable kernel summable,
      run_load_of_not_summable kernel (mt (same.summable_iff geometry).mpr summable)]

/-! ### Segments that leave the space -/

/-- The range of a file segment is one of the conditions of a load. -/
theorem range_mem_loadConditions {header : Header} {order : ByteOrder} (frames : FramePool)
    (read : Header.read file = .ok (header, order)) {kind : SegmentKind} {segment : Segment}
    (member : (kind, segment) ∈ header.fileSegments) (nonempty : segment.size ≠ 0) :
    (⟨segment.past ≤ header.pageCount geometry * geometry.pageSize,
      .image (.segmentOutOfRange kind)⟩ : Condition) ∈ loadConditions file geometry frames := by
  obtain ⟨-, magic, rfl⟩ := Header.read_eq_ok_iff.mp read
  have first : ∀ spaceBytes, (⟨segment.past ≤ spaceBytes,
      .image (.segmentOutOfRange kind)⟩ : Condition) ∈ segment.conditions kind file spaceBytes := by
    intro spaceBytes
    simp [Segment.conditions, nonempty]
  rw [loadConditions, ByteOrder.ofMagic?_eq_some_iff.mpr magic]
  apply List.mem_cons_of_mem
  simp only [Header.conditions, List.mem_append]
  simp only [Header.fileSegments, List.mem_cons, List.not_mem_nil, or_false,
    Prod.mk.injEq] at member
  rcases member with ⟨rfl, rfl⟩ | ⟨rfl, rfl⟩
  · exact Or.inl (Or.inr (first _))
  · exact Or.inr (first _)

theorem refused_of_escape {report : Report (Kernel geometry) BuildError AddressSpace}
    (ran : (load file).run kernel = .ok report) {header : Header} {order : ByteOrder}
    (read : Header.read file = .ok (header, order)) {kind : SegmentKind} {segment : Segment}
    (member : (kind, segment) ∈ header.fileSegments) (nonempty : segment.size ≠ 0)
    (escapes : header.pageCount geometry * geometry.pageSize < segment.past) :
    ∃ error, report.result = .error error ∧
      error.stage ≤ (BuildError.image (.segmentOutOfRange kind)).stage := by
  obtain ⟨error, failing, early⟩ := Condition.firstFailing_of_mem
    (loadConditions_staged file geometry kernel.frames)
    (range_mem_loadConditions kernel.frames read member nonempty) (by simp [escapes])
  have summable : Summable file geometry := by
    apply Classical.byContradiction
    intro refused
    rw [run_load_of_not_summable kernel refused] at ran
    cases ran
  obtain ⟨found, course, ended⟩ := run_load_of_summable kernel file summable
  cases ran.symm.trans course
  rw [failing] at ended
  exact ⟨error, ended, early⟩

/-- The file segments of a space that was loaded lie inside it. -/
theorem past_le_of_load {after : Kernel geometry} {space : AddressSpace} {events : List Event}
    (loaded : (load file).run kernel = .ok ⟨.ok space, after, events⟩) :
    ∃ header order, Header.read file = .ok (header, order) ∧
      ∀ entry ∈ header.fileSegments, entry.2.size ≠ 0 →
        entry.2.past ≤ space.pages * geometry.pageSize := by
  obtain ⟨header, order, read, rfl⟩ := space_of_load loaded
  refine ⟨header, order, read, ?_⟩
  rintro ⟨kind, segment⟩ member nonempty
  apply Nat.le_of_not_lt
  intro escapes
  obtain ⟨error, failed, -⟩ := refused_of_escape loaded read member nonempty escapes
  cases failed

/-- A load refuses a code or initialized segment that leaves the space, with that error unless it
comes upon another one before. It never compares the place of the uninitialized segment with the
space: to move that segment anywhere changes no result. -/
theorem load_ranges (kernel : Kernel geometry) (file : File) :
    (∀ report header order kind segment, (load file).run kernel = .ok report →
      Header.read file = .ok (header, order) → (kind, segment) ∈ header.fileSegments →
      segment.size ≠ 0 → header.pageCount geometry * geometry.pageSize < segment.past →
        ∃ error, report.result = .error error ∧
          error.stage ≤ (BuildError.image (.segmentOutOfRange kind)).stage) ∧
    (∀ space after events, (load file).run kernel = .ok ⟨.ok space, after, events⟩ →
      ∃ header order, Header.read file = .ok (header, order) ∧
        ∀ entry ∈ header.fileSegments, entry.2.size ≠ 0 →
          entry.2.past ≤ space.pages * geometry.pageSize) ∧
    ∀ other, file.SamePlan other →
      ((load file).run kernel).map (·.result) = ((load other).run kernel).map (·.result) := by
  refine ⟨?_, fun _ _ _ => past_le_of_load, fun _ => result_eq_of_samePlan kernel⟩
  intro report header order kind segment ran read
  exact refused_of_escape ran read

/-- A program whose initialized bytes lie past the pages that it gets. -/
def escapingImage : File where
  contents := Header.encode
    { magic := imageMagic, code := ⟨4, 0, 40⟩, initialized := ⟨4, 4096, 40⟩ } .native ++
      [1, 2, 3, 4]

theorem load_ranges_escaping :
    ∃ report, (load escapingImage).run smallKernel = .ok report ∧
      ∃ error, report.result = .error error ∧
        error.stage ≤ (BuildError.image (.segmentOutOfRange .initialized)).stage := by
  have summable : Summable escapingImage { pageSize := 4, frames := 6, stackSize := 4 } :=
    summable_of_room escapingImage (by decide)
  have read : Header.read escapingImage = .ok (escapingImage.header .native, .native) :=
    Header.read_eq_ok_iff.mpr ⟨by decide +kernel, by decide +kernel, rfl⟩
  obtain ⟨report, ran, -⟩ := run_load_of_summable smallKernel escapingImage summable
  exact ⟨report, ran, (load_ranges smallKernel escapingImage).1 report _ _ .initialized
    (escapingImage.header .native).initialized ran read (by simp [Header.fileSegments])
    (by decide +kernel) (by decide +kernel)⟩

/-- A program of one instruction word, with a word of uninitialized bytes far past its pages. -/
def strayImage : File where
  contents := Header.encode
    { magic := imageMagic, code := ⟨4, 0, 40⟩, uninitialized := ⟨4, 4096, 0⟩ } .native ++
      [1, 2, 3, 4]

/-- A load can succeed although a segment leaves the space. -/
theorem load_accepts_stray_uninitialized :
    ∃ space after events,
      (load strayImage).run { machine := smallKernel.machine, frames := .ofTotal 6 } =
        .ok ⟨.ok space, after, events⟩ ∧
      ∃ header order, Header.read strayImage = .ok (header, order) ∧
        header.uninitialized.size ≠ 0 ∧ space.pages * 4 < header.uninitialized.past := by
  have read : Header.read strayImage = .ok (strayImage.header .native, .native) :=
    Header.read_eq_ok_iff.mpr ⟨by decide +kernel, by decide +kernel, rfl⟩
  obtain ⟨space, after, events, ran⟩ := run_load_of_accepted
    { machine := smallKernel.machine, frames := .ofTotal 6 } strayImage
    (summable_of_room strayImage (by decide)) (by decide +kernel)
  obtain ⟨header, order, found, rfl⟩ := space_of_load ran
  cases found.symm.trans read
  exact ⟨_, after, events, ran, _, _, read, by decide +kernel, by decide +kernel⟩

end AddressSpace

end PagedKernel
