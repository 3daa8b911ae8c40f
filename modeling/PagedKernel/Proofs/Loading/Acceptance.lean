import PagedKernel.Proofs.Loading.Cases
import PagedKernel.Proofs.Loading.Header

/-!
Contract: which files can be loaded, and what refuses the others.

Owns:
- `loadConditions`, the conditions of a load in the order in which they decide
  its error;
- `Loadable`, the conditions of a success taken together;
- the bound on the stack reservation under which every image has a size;
- the result of every load whose sizes add up to a machine size, and the fact
  that all other loads stop the kernel.

Does not own: what a successful load leaves behind (`Loading.Contents`).
-/

namespace PagedKernel

variable {geometry : Geometry} {kernel : Kernel geometry} {file : File}

/-! ### Conditions and their errors -/

/-- A condition of a construction, and the error of the constructions that fail it first. -/
structure Condition where
  holds : Bool
  error : BuildError
deriving DecidableEq, Repr

/-- The error of the first condition in the list that does not hold. -/
def Condition.firstFailing (conditions : List Condition) : Option BuildError :=
  conditions.findSome? fun condition => if condition.holds then none else some condition.error

/-- The conditions on a segment; there are none on an empty one. -/
def Segment.conditions (segment : Segment) (kind : SegmentKind) (file : File)
    (spaceBytes : Nat) : List Condition :=
  if segment.size = 0 then []
  else
    let read := min (file.readLimit segment.size.toNat) (file.length - segment.offset.toNat)
    [⟨segment.past ≤ spaceBytes, .image (.segmentOutOfRange kind)⟩,
      ⟨segment.address.toNat % Word.size = 0, .image (.segmentFault kind .addressError)⟩,
      ⟨file.readLimit segment.size.toNat = segment.size.toNat ∧
          segment.offset.toNat + segment.size.toNat ≤ file.length,
        .image (.truncatedSegment kind segment.size.toNat read)⟩]

/-- The conditions on a file whose header could be read, under the given frames. -/
def Header.conditions (header : Header) (file : File) (geometry : Geometry) (frames : FramePool) :
    List Condition :=
  let pages := header.pageCount geometry
  [⟨pages ≤ geometry.frames, .programTooLarge pages geometry.frames⟩,
    ⟨frames.committed + pages ≤ min frames.total geometry.frames,
      .frames ⟨pages, frames.committed, min frames.total geometry.frames⟩⟩] ++
  header.code.conditions .code file (pages * geometry.pageSize) ++
  header.initialized.conditions .initialized file (pages * geometry.pageSize)

/-- The conditions of a load, in the order in which they decide its error. -/
def loadConditions (file : File) (geometry : Geometry) (frames : FramePool) : List Condition :=
  ⟨headerSize ≤ file.reach, .image (.truncatedHeader file.reach)⟩ ::
    match ByteOrder.ofMagic? (file.word 0) with
    | none => [⟨false, .image (.badMagic (file.word 0))⟩]
    | some order => (file.header order).conditions file geometry frames

/-- The segment lies in a space of so many bytes and can be read from the file at once. -/
structure Segment.Placeable (segment : Segment) (file : File) (spaceBytes : Nat) : Prop where
  inside : segment.address.toNat + segment.size.toNat ≤ spaceBytes
  aligned : segment.address.toNat % Word.size = 0
  uncapped : ∀ most, file.maxRead = some most → segment.size.toNat ≤ most
  present : segment.offset.toNat + segment.size.toNat ≤ file.length

/-- The file holds, in the given byte order, an image that the machine has room for. -/
structure Loadable (file : File) (geometry : Geometry) (frames : FramePool) (order : ByteOrder) :
    Prop where
  whole : headerSize ≤ file.reach
  magic : order.convert (file.word 0) = imageMagic
  small : (file.header order).pageCount geometry ≤ geometry.frames
  free : frames.committed + (file.header order).pageCount geometry ≤
    min frames.total geometry.frames
  code : (file.header order).code.size ≠ 0 → (file.header order).code.Placeable file
    ((file.header order).pageCount geometry * geometry.pageSize)
  initialized : (file.header order).initialized.size ≠ 0 →
    (file.header order).initialized.Placeable file
      ((file.header order).pageCount geometry * geometry.pageSize)

/-- The sizes in the file's header, if it has one, and the stack add up to a machine size. -/
def Summable (file : File) (geometry : Geometry) : Prop :=
  headerSize ≤ file.reach → ∀ order : ByteOrder, order.convert (file.word 0) = imageMagic →
    (file.header order).bytesNeeded geometry < Size.limit

/-- Three segments of 32-bit size leave this much of a machine size to the stack. -/
def Geometry.stackLimit : Nat := Size.limit - 3 * UInt32.size

theorem Header.bytesNeeded_lt_limit (header : Header)
    (room : geometry.stackSize ≤ Geometry.stackLimit) :
    header.bytesNeeded geometry < Size.limit := by
  have code := header.code.size.toNat_lt_size
  have initialized := header.initialized.size.toNat_lt_size
  have uninitialized := header.uninitialized.size.toNat_lt_size
  have limit : Geometry.stackLimit + 3 * UInt32.size = Size.limit := by decide
  unfold Header.bytesNeeded
  omega

theorem summable_of_room (file : File) (room : geometry.stackSize ≤ Geometry.stackLimit) :
    Summable file geometry :=
  fun _ order _ => (file.header order).bytesNeeded_lt_limit room

/-! ### Conditions taken together -/

theorem Condition.firstFailing_append (first second : List Condition) :
    firstFailing (first ++ second) = (firstFailing first).or (firstFailing second) :=
  List.findSome?_append

theorem Condition.firstFailing_eq_none_iff {conditions : List Condition} :
    firstFailing conditions = none ↔ ∀ condition ∈ conditions, condition.holds := by
  simp [firstFailing, List.findSome?_eq_none_iff]

/-- What decides a result by its first failing condition decides it in both directions. -/
theorem Condition.result_iff {conditions : List Condition} {result : Except BuildError AddressSpace}
    (ended : match firstFailing conditions with
      | none => ∃ space, result = .ok space
      | some error => result = .error error) :
    ((∃ space, result = .ok space) ↔ firstFailing conditions = none) ∧
      ∀ error, result = .error error ↔ firstFailing conditions = some error := by
  cases failing : firstFailing conditions with
  | none =>
      rw [failing] at ended
      obtain ⟨space, rfl⟩ := ended
      simp
  | some error =>
      rw [failing] at ended
      cases ended
      simp

theorem File.readLimit_eq_iff {count : Nat} :
    file.readLimit count = count ↔ ∀ most, file.maxRead = some most → count ≤ most := by
  unfold readLimit
  cases file.maxRead with
  | none => simp
  | some most =>
      simp only [Option.some.injEq, forall_eq']
      omega

theorem Segment.length_content_eq_iff {segment : Segment} (nonempty : segment.size ≠ 0) :
    (segment.content file).length = segment.size.toNat ↔
      file.readLimit segment.size.toNat = segment.size.toNat ∧
        segment.offset.toNat + segment.size.toNat ≤ file.length := by
  have positive := size_pos nonempty
  have capped := file.readLimit_le segment.size.toNat
  rw [content, File.length_readAt]
  omega

theorem Segment.firstFailing_conditions (segment : Segment) (kind : SegmentKind)
    (spaceBytes : Nat) :
    Condition.firstFailing (segment.conditions kind file spaceBytes) =
      (segment.refusal? kind file spaceBytes).map .image := by
  unfold conditions refusal?
  by_cases empty : segment.size = 0
  · simp [empty, Condition.firstFailing]
  have read : (segment.content file).length =
      min (file.readLimit segment.size.toNat) (file.length - segment.offset.toNat) :=
    file.length_readAt _ _
  rw [if_neg empty, if_neg empty]
  by_cases inside : segment.past ≤ spaceBytes
  · by_cases aligned : segment.address.toNat % Word.size = 0
    · by_cases whole : (segment.content file).length = segment.size.toNat
      · have present := (length_content_eq_iff empty).mp whole
        simp [Condition.firstFailing, inside, Nat.not_lt.mpr inside, aligned, whole, present]
      · have absent := mt (length_content_eq_iff empty).mpr whole
        rw [read] at whole ⊢
        simp [Condition.firstFailing, inside, Nat.not_lt.mpr inside, aligned, whole, absent]
    · simp [Condition.firstFailing, inside, Nat.not_lt.mpr inside, aligned]
  · simp [Condition.firstFailing, inside, Nat.lt_of_not_le inside]

theorem Segment.conditions_hold_iff (segment : Segment) (kind : SegmentKind) (spaceBytes : Nat) :
    (∀ condition ∈ segment.conditions kind file spaceBytes, condition.holds) ↔
      (segment.size ≠ 0 → segment.Placeable file spaceBytes) := by
  unfold conditions
  by_cases empty : segment.size = 0
  · simp [empty]
  rw [if_neg empty]
  simp only [List.mem_cons, List.not_mem_nil, or_false, forall_eq_or_imp, forall_eq,
    decide_eq_true_eq, File.readLimit_eq_iff]
  constructor
  · rintro ⟨inside, aligned, uncapped, present⟩ -
    exact ⟨inside, aligned, uncapped, present⟩
  · intro placeable
    obtain ⟨inside, aligned, uncapped, present⟩ := placeable empty
    exact ⟨inside, aligned, uncapped, present⟩

/-- The refusals of the two segments of a file are those that their conditions name. -/
theorem Header.firstFailing_segments (header : Header) (file : File) (geometry : Geometry) :
    Condition.firstFailing
        (header.code.conditions .code file (header.pageCount geometry * geometry.pageSize) ++
          header.initialized.conditions .initialized file
            (header.pageCount geometry * geometry.pageSize)) =
      (AddressSpace.segmentRefusal? file header geometry).map .image := by
  rw [Condition.firstFailing_append, Segment.firstFailing_conditions,
    Segment.firstFailing_conditions]
  simp only [AddressSpace.segmentRefusal?, Segment.refusalAmong?, fileSegments,
    List.findSome?_cons, List.findSome?_nil]
  cases header.code.refusal? .code file (header.pageCount geometry * geometry.pageSize) with
  | some error => rfl
  | none =>
      cases header.initialized.refusal? .initialized file
        (header.pageCount geometry * geometry.pageSize) <;> rfl

/-- A load has no failing condition exactly if it is `Loadable` in a byte order. -/
theorem firstFailing_loadConditions_eq_none_iff {frames : FramePool} :
    Condition.firstFailing (loadConditions file geometry frames) = none ↔
      ∃ order, Loadable file geometry frames order := by
  rw [Condition.firstFailing_eq_none_iff]
  simp only [loadConditions, List.mem_cons, forall_eq_or_imp, decide_eq_true_eq]
  constructor
  · rintro ⟨whole, rest⟩
    cases recognised : ByteOrder.ofMagic? (file.word 0) with
    | none => simp [recognised] at rest
    | some order =>
        simp only [recognised, Header.conditions, List.mem_append, or_imp, forall_and,
          List.mem_cons, List.not_mem_nil, or_false, forall_eq, decide_eq_true_eq,
          Segment.conditions_hold_iff] at rest
        obtain ⟨⟨⟨small, free⟩, code⟩, initialized⟩ := rest
        exact ⟨order, whole, ByteOrder.ofMagic?_eq_some_iff.mp recognised, small, free, code,
          initialized⟩
  · rintro ⟨order, whole, magic, small, free, code, initialized⟩
    refine ⟨whole, ?_⟩
    rw [ByteOrder.ofMagic?_eq_some_iff.mpr magic]
    simp only [Header.conditions, List.mem_append, or_imp, forall_and, List.mem_cons,
      List.not_mem_nil, or_false, forall_eq, decide_eq_true_eq, Segment.conditions_hold_iff]
    exact ⟨⟨⟨small, free⟩, code⟩, initialized⟩

namespace AddressSpace

/-! ### The result of a load -/

/-- A load whose sizes are summable ends with the error of its first failing condition, and
with a space if there is none. -/
theorem run_load_of_summable (kernel : Kernel geometry) (file : File)
    (summable : Summable file geometry) :
    ∃ report, (load file).run kernel = .ok report ∧
      match Condition.firstFailing (loadConditions file geometry kernel.frames) with
      | none => ∃ space, report.result = .ok space
      | some error => report.result = .error error := by
  have usable := kernel.machine.usable
  unfold loadConditions
  by_cases whole : headerSize ≤ file.reach
  · have read := Header.read_of_reach whole
    cases recognised : ByteOrder.ofMagic? (file.word 0) with
    | none =>
        rw [recognised] at read
        refine ⟨_, run_load_of_unreadable read, ?_⟩
        simp [Condition.firstFailing, whole]
    | some order =>
        rw [recognised] at read
        have bounded := summable whole order (ByteOrder.ofMagic?_eq_some_iff.mp recognised)
        by_cases small : (file.header order).pageCount geometry ≤ geometry.frames
        · by_cases free : kernel.frames.committed + (file.header order).pageCount geometry ≤
              kernel.frames.bound geometry.frames
          · obtain ⟨events, -, ran⟩ := run_load_of_free usable read bounded small free
            refine ⟨_, ran, ?_⟩
            have segments := Header.firstFailing_segments (file.header order) file geometry
            have conditions : Condition.firstFailing
                (⟨headerSize ≤ file.reach, .image (.truncatedHeader file.reach)⟩ ::
                  (file.header order).conditions file geometry kernel.frames) =
                (segmentRefusal? file (file.header order) geometry).map .image := by
              rw [← segments]
              simp only [FramePool.bound] at free
              simp [Condition.firstFailing, Header.conditions, whole, small, free]
            rw [conditions]
            cases segmentRefusal? file (file.header order) geometry <;> simp
          · have short := Nat.lt_of_not_le free
            refine ⟨_, run_load_of_shortage usable.valid read bounded small short, ?_⟩
            simp only [FramePool.bound] at free
            simp [Condition.firstFailing, Header.conditions, whole, small, free,
              FramePool.shortage, FramePool.bound]
        · refine ⟨_, run_load_of_tooLarge usable.valid read bounded (Nat.lt_of_not_le small), ?_⟩
          simp [Condition.firstFailing, Header.conditions, whole, small]
  · refine ⟨_, run_load_of_unreadable (Header.read_of_short (Nat.lt_of_not_le whole)), ?_⟩
    simp [Condition.firstFailing, whole]

/-- A load without a failing condition makes a space. -/
theorem run_load_of_accepted (kernel : Kernel geometry) (file : File)
    (summable : Summable file geometry)
    (accepted : Condition.firstFailing (loadConditions file geometry kernel.frames) = none) :
    ∃ space after events, (load file).run kernel = .ok ⟨.ok space, after, events⟩ := by
  obtain ⟨⟨result, after, events⟩, ran, ended⟩ := run_load_of_summable kernel file summable
  rw [accepted] at ended
  obtain ⟨space, rfl⟩ := ended
  exact ⟨space, after, events, ran⟩

/-- No segment of a failing condition faults on a page or on a frame. -/
theorem exception_of_firstFailing {frames : FramePool} {kind : SegmentKind}
    {exception : Exception}
    (failing : Condition.firstFailing (loadConditions file geometry frames) =
      some (.image (.segmentFault kind exception))) : exception = .addressError := by
  obtain ⟨condition, member, failed⟩ := List.exists_of_findSome?_eq_some failing
  have named : condition.error = .image (.segmentFault kind exception) := by
    split at failed
    · cases failed
    · exact Option.some.inj failed
  have ofSegment : ∀ (segment : Segment) (other : SegmentKind) (spaceBytes : Nat),
      condition ∈ segment.conditions other file spaceBytes → exception = .addressError := by
    intro segment other spaceBytes listed
    unfold Segment.conditions at listed
    split at listed
    · cases listed
    · simp only [List.mem_cons, List.not_mem_nil, or_false] at listed
      rcases listed with rfl | rfl | rfl <;> simp_all
  unfold loadConditions at member
  rcases List.mem_cons.mp member with rfl | later
  · cases named
  split at later
  · rw [List.mem_singleton] at later
    subst later
    cases named
  · simp only [Header.conditions, List.mem_append, List.mem_cons, List.not_mem_nil,
      or_false] at later
    rcases later with ((rfl | rfl) | code) | initialized
    · cases named
    · cases named
    · exact ofSegment _ _ _ code
    · exact ofSegment _ _ _ initialized

/-- A load succeeds exactly if its file is `Loadable`, and fails otherwise with the error of its
first failing condition. A segment start is refused for its alignment alone. -/
theorem load_result (kernel : Kernel geometry) (file : File) (summable : Summable file geometry) :
    ∃ report, (load file).run kernel = .ok report ∧
      ((∃ space, report.result = .ok space) ↔
        ∃ order, Loadable file geometry kernel.frames order) ∧
      (∀ error, report.result = .error error ↔
        Condition.firstFailing (loadConditions file geometry kernel.frames) = some error) ∧
      ∀ kind exception, report.result = .error (.image (.segmentFault kind exception)) →
        exception = .addressError := by
  obtain ⟨report, ran, ended⟩ := run_load_of_summable kernel file summable
  refine ⟨report, ran, ?_⟩
  rw [← firstFailing_loadConditions_eq_none_iff]
  cases failing : Condition.firstFailing (loadConditions file geometry kernel.frames) with
  | none =>
      rw [failing] at ended
      obtain ⟨space, loaded⟩ := ended
      simp [loaded]
  | some error =>
      rw [failing] at ended
      have refused : ∀ kind exception,
          report.result = .error (.image (.segmentFault kind exception)) →
            exception = .addressError := by
        intro kind exception faulted
        rw [ended] at faulted
        cases faulted
        exact exception_of_firstFailing failing
      refine ⟨by simp [ended], ?_, refused⟩
      intro other
      simp [ended]

/-- A program whose code is in order and whose initialized bytes start between two words. -/
def misalignedImage : File where
  contents := Header.encode
    { magic := imageMagic, code := ⟨4, 0, 40⟩, initialized := ⟨4, 6, 44⟩ } .swapped ++
      [1, 2, 3, 4, 5, 6, 7, 8]

/-- A machine of six pages of four bytes, with frames of which one is taken. -/
def smallKernel : Kernel { pageSize := 4, frames := 6, stackSize := 4 } where
  machine := { usable := ⟨by decide, by decide⟩ }
  frames := { total := 10, committed := 1 }

theorem load_result_misaligned :
    Summable misalignedImage { pageSize := 4, frames := 6, stackSize := 4 } ∧
      ∃ report, (load misalignedImage).run smallKernel = .ok report ∧
        report.result = .error (.image (.segmentFault .initialized .addressError)) := by
  have summable : Summable misalignedImage { pageSize := 4, frames := 6, stackSize := 4 } := by
    intro whole order magic
    cases order <;> decide +kernel
  obtain ⟨report, ran, -, refused, -⟩ := load_result smallKernel misalignedImage summable
  exact ⟨summable, report, ran, (refused _).mpr (by decide +kernel)⟩

/-! ### The loads that stop the kernel -/

/-- A load returns, with a space or an error, exactly if its sizes are summable. -/
theorem load_returns_iff (kernel : Kernel geometry) (file : File) :
    (∃ report, (load file).run kernel = .ok report) ↔ Summable file geometry := by
  constructor
  · rintro ⟨report, ran⟩ whole order magic
    apply Nat.lt_of_not_le
    intro large
    have read := Header.read_eq_ok_iff.mpr ⟨whole, magic, rfl⟩
    rw [run_load_of_overflow read large] at ran
    cases ran
  · intro summable
    obtain ⟨report, ran, -⟩ := run_load_of_summable kernel file summable
    exact ⟨report, ran⟩

/-- The standard machine with the largest stack reservation that it accepts. -/
def fullStack : Geometry := { stackSize := Size.limit - 1 }

/-- A program of one instruction word. -/
def wordImage : File where
  contents := Header.encode { magic := imageMagic, code := ⟨4, 0, 40⟩ } .native ++ [0, 0, 0, 0]

/-- A machine accepts a stack reservation under which the smallest program stops the kernel. -/
theorem load_overflows :
    ∃ machine : Machine fullStack, Machine.create fullStack = .ok (.ok machine) ∧
      (load wordImage).run { machine, frames := .ofGeometry fullStack } = .error .overflow := by
  have usable : fullStack.Usable := ⟨by decide, by decide⟩
  have read : Header.read wordImage = .ok (wordImage.header .native, .native) :=
    Header.read_eq_ok_iff.mpr ⟨by decide +kernel, by decide +kernel, rfl⟩
  exact ⟨{ usable }, rfl, run_load_of_overflow read (by decide +kernel)⟩

end AddressSpace

end PagedKernel
