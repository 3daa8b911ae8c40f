import PagedKernel.Proofs.Construction

/-!
Contract: the errors that the log has of a space that could not be built.

Owns:
- the errors in a log, and those of one part of the kernel;
- the errors that the log has of a cause (`BuildError.records`), first that of
  the frame pool if it was the pool that refused;
- what the parts of a load and of a copy record, none of them an error but these;
- the log of a request that failed (`Diagnosed`).

Does not own: the log of a scheduler (`Scheduling.Journal`).
-/

namespace PagedKernel

open PagedKernel.Action

variable {geometry : Geometry} {events earlier : List Event} {error : BuildError}

/-! ### Errors in a log -/

/-- The event is no error. -/
def Event.Calm (event : Event) : Prop := event.severity ≠ .error

/-- An event on the way to a space: no error, and nothing about processes. -/
def Event.Preliminary (event : Event) : Prop := event.Calm ∧ event.subsystem ≠ .scheduling

theorem Event.Placing.preliminary {event : Event} (placing : event.Placing) :
    event.Preliminary := by
  cases event with
  | faulted | translated | segmentPlaced => exact ⟨nofun, nofun⟩
  | _ => exact placing.elim

theorem Event.OfProcess.calm {event : Event} (ofProcess : event.OfProcess) : event.Calm := by
  cases event with
  | stackSet | executed | forked | exited | switched => exact nofun
  | _ => exact ofProcess.elim

/-- The errors that were recorded. -/
def errorsIn (events : List Event) : List Event :=
  events.filter fun event => event.severity = .error

/-- The errors that one part of the kernel recorded. -/
def errorsOf (part : Subsystem) (events : List Event) : List Event :=
  (errorsIn events).filter fun event => event.subsystem = part

@[simp] theorem errorsIn_append (events later : List Event) :
    errorsIn (events ++ later) = errorsIn events ++ errorsIn later :=
  List.filter_append _ _

theorem errorsIn_of_calm (calm : ∀ event ∈ events, event.Calm) : errorsIn events = [] := by
  rw [errorsIn, List.filter_eq_nil_iff]
  intro event member
  simpa [Event.Calm] using calm event member

theorem errorsIn_of_errors (errors : ∀ event ∈ events, event.severity = .error) :
    errorsIn events = events := by
  rw [errorsIn, List.filter_eq_self]
  intro event member
  simpa using errors event member

namespace BuildError

/-- The error that the frame pool records of a cause, if it is the pool that refuses. -/
def shortfall : BuildError → List Event
  | .frames shortage => [.framesRefused shortage]
  | _ => []

/-- The errors that the log has of a cause. -/
def records (error : BuildError) : List Event := error.shortfall ++ [.buildRefused error]

theorem errorsIn_records (error : BuildError) : errorsIn error.records = error.records := by
  apply errorsIn_of_errors
  cases error <;> simp [records, shortfall, Event.severity]

theorem subsystem_records (error : BuildError) :
    ∀ event ∈ error.records, event.subsystem ≠ .scheduling := by
  cases error <;> simp [records, shortfall, Event.subsystem]

theorem message_of_printed {shown : String} (printed : error.printed = .ok shown) :
    shown = error.message := by
  cases error with
  | badParent start pages =>
      simp only [BuildError.printed] at printed
      cases sum : Size.add start pages with
      | error cause =>
          rw [sum] at printed
          cases printed
      | ok past =>
          rw [sum] at printed
          exact (Except.ok.inj printed).symm
  | _ => exact (Except.ok.inj printed).symm

end BuildError

/-! ### The log of a failure -/

/-- The log of a request that failed with an error.

The spaces record one error. It is the last record, and says in words what the error is. The frame
pool records one error right before it if the pool refused the frames, and none otherwise. Nobody
else records one. -/
structure Diagnosed (error : BuildError) (events : List Event) : Prop where
  spaces : errorsOf .spaces events = [.buildRefused error]
  last : events.getLast? = some (.buildRefused error)
  text : ∃ shown, error.printed = .ok shown ∧
    (Event.buildRefused error).text = "cannot build address space: " ++ shown
  shortage : ∀ shortage, error = .frames shortage →
    errorsOf .frames events = [.framesRefused shortage] ∧
      [.framesRefused shortage, .buildRefused error] <:+ events
  noShortage : (∀ shortage, error ≠ .frames shortage) → errorsOf .frames events = []
  others : ∀ event ∈ errorsIn events, event.subsystem = .spaces ∨ event.subsystem = .frames

theorem diagnosed_of_records (calm : ∀ event ∈ earlier, event.Calm)
    (printable : (Event.buildRefused error).Printable) :
    Diagnosed error (earlier ++ error.records) := by
  have errors : errorsIn (earlier ++ error.records) = error.records := by
    rw [errorsIn_append, errorsIn_of_calm calm, error.errorsIn_records, List.nil_append]
  constructor
  case spaces =>
    rw [errorsOf, errors]
    cases error <;> rfl
  case last => rw [BuildError.records, ← List.append_assoc, List.getLast?_concat]
  case text =>
    obtain ⟨shown, printed⟩ := printable
    rw [BuildError.message_of_printed printed] at printed
    exact ⟨error.message, printed, rfl⟩
  case shortage =>
    rintro shortage rfl
    rw [errorsOf, errors]
    exact ⟨rfl, List.suffix_append _ _⟩
  case noShortage =>
    intro other
    rw [errorsOf, errors]
    cases error with
    | frames shortage => exact (other shortage rfl).elim
    | _ => rfl
  case others =>
    rw [errors]
    cases error <;> simp [BuildError.records, BuildError.shortfall, Event.subsystem]

/-! ### Parts of a load -/

theorem FramePool.owes_reserveWithin (count limit : Nat) :
    Owes (fun _ => True) Event.Preliminary (fun shortage => [.framesRefused shortage])
      (reserveWithin count limit) := by
  refine .bind (.view _) fun pool => ?_
  split
  · exact .bind (.update fun _ _ => trivial) fun _ =>
      .bind (.emit ⟨nofun, nofun⟩) fun _ => .pure _
  · exact .emit_fail rfl

namespace Segment

variable {size : Nat} {kind : SegmentKind} {file : File}

theorem abides_locateStart (segment : Segment) :
    Abides (fun _ => True) Event.Placing
      (segment.locateStart kind geometry : Action (Target size) ImageError Nat) :=
  ((PageTable.abides_translate segment.address).mapError _).within (fun _ _ => trivial)
    fun _ _ _ _ => trivial

theorem abides_fill (segment : Segment) (physical : Nat) :
    Abides (fun _ => True) Event.Placing
      (segment.fill kind file physical : Action (Target size) ImageError Unit) :=
  .bind (.check _) fun _ => .bind (.ensure _ _) fun _ =>
    .bind (.update fun _ _ => trivial) fun _ => .ensure _ _

theorem abides_place (segment : Segment) :
    Abides (fun _ => True) Event.Placing
      (segment.place kind file geometry : Action (Target size) ImageError Unit) := by
  unfold place
  split
  · exact .pure _
  · exact .bind (.view _) fun _ => .bind (.check _) fun _ => .bind (.ensure _ _) fun _ =>
      .bind segment.abides_locateStart fun physical => .bind (.emit trivial) fun _ =>
        segment.abides_fill physical

end Segment

namespace AddressSpace

/-- The action records nothing of processes. If it fails, its last records are the errors that its
cause is owed, and it records no others. -/
abbrev Reports {σ α : Type} (action : Action σ BuildError α) : Prop :=
  Owes (fun _ => True) Event.Preliminary BuildError.records action

/-- A failure is recorded where it happens, behind what the pool recorded of it. -/
theorem reports_fatal {σ α : Type} {action : Action σ BuildError α}
    (owes : Owes (fun _ => True) Event.Preliminary BuildError.shortfall action) :
    Reports (fatal action) :=
  owes.emitOnError _

theorem reports_claimFrames (pages : Nat) :
    Reports (claimFrames pages : Action (Kernel geometry) BuildError Nat) := by
  have claimed : Owes (fun _ => True) Event.Preliminary BuildError.shortfall
      ((FramePool.reserveWithin pages geometry.frames).mapError .frames) :=
    (FramePool.owes_reserveWithin pages geometry.frames).mapError fun _ => rfl
  exact reports_fatal (claimed.within (fun _ _ => trivial) fun _ _ _ _ => trivial)

theorem reports_readImage (file : File) :
    Reports (readImage file : Action (Kernel geometry) BuildError (Header × Nat)) := by
  refine .bind (reports_fatal (.ofResult ?_)) fun ⟨header, order⟩ => ?_
  · cases Header.read file <;> rfl
  · exact .bind (.emit ⟨nofun, nofun⟩) fun _ => .bind (.check _) fun _ =>
      .bind (reports_fatal (.ensure _ rfl)) fun _ => .pure _

theorem reports_clearFrames (firstFrame pages : Nat) :
    Reports (clearFrames firstFrame pages : Action (Kernel geometry) BuildError Unit) :=
  .bind (.check _) fun _ => .bind (.require _ _) fun _ => .update fun _ _ => trivial

theorem reports_placeAll (file : File) (segments : List (SegmentKind × Segment)) :
    Reports (placeAll file segments : Action (Target geometry.bytes) BuildError Unit) := by
  induction segments with
  | nil => exact .pure _
  | cons entry rest inductionHypothesis =>
      have placed : Owes (fun _ => True) Event.Preliminary BuildError.shortfall
          ((entry.2.place entry.1 file geometry).mapError .image :
            Action (Target geometry.bytes) BuildError Unit) :=
        (entry.2.abides_place.mono fun _ => Event.Placing.preliminary).owes.mapError fun _ => rfl
      exact .bind (reports_fatal placed) fun _ => inductionHypothesis

theorem reports_placeSegments (file : File) (header : Header) (table : PageTable) :
    Reports (placeSegments file header table : Action (Kernel geometry) BuildError PageTable) :=
  .within (.bind (reports_placeAll file _) fun _ => .view _) (fun _ _ => trivial)
    fun _ _ _ _ => trivial

theorem reports_addTable (table : PageTable) :
    Reports (Kernel.addTable table : Action (Kernel geometry) BuildError TableId) :=
  .bind (.view _) fun _ => .bind (.update fun _ _ => trivial) fun _ => .pure _

theorem reports_load (file : File) :
    Reports (load file : Action (Kernel geometry) BuildError AddressSpace) := by
  refine .bind (reports_readImage file) fun ⟨header, pages⟩ => ?_
  refine .bind (reports_claimFrames pages) fun firstFrame => .bind (.check _) fun table => ?_
  refine .bind (.emit ⟨nofun, nofun⟩) fun _ => .bind (reports_clearFrames _ _) fun _ => ?_
  exact .bind (reports_placeSegments file header table) fun table =>
    .bind (reports_addTable table) fun _ => .pure _

/-! ### Parts of a copy -/

theorem reports_copyFrames (parentFrame childFrame pages : Nat) :
    Reports (copyFrames parentFrame childFrame pages :
      Action (Kernel geometry) BuildError Unit) :=
  .bind (.check _) fun _ => .bind (.check _) fun _ => .bind (.emit ⟨nofun, nofun⟩) fun _ =>
    .bind (.require _ _) fun _ => .update fun _ _ => trivial

theorem reports_duplicate (pages parentFrame : Nat) :
    Reports (duplicate pages parentFrame : Action (Kernel geometry) BuildError AddressSpace) := by
  refine .bind (reports_fatal (.ensure _ rfl)) fun _ => .bind (.check _) fun _ => ?_
  refine .bind (reports_fatal (.ensure _ rfl)) fun _ => ?_
  refine .bind (reports_claimFrames pages) fun childFrame => .bind (.check _) fun table => ?_
  exact .bind (reports_copyFrames parentFrame childFrame pages) fun _ =>
    .bind (reports_addTable table) fun _ => .pure _

end AddressSpace

/-! ### Requests for a space -/

namespace Construction

theorem reports_action (construction : Construction) :
    AddressSpace.Reports
      (construction.action : Action (Kernel geometry) BuildError AddressSpace) := by
  cases construction with
  | load file => exact AddressSpace.reports_load file
  | duplicate pages parentFrame => exact AddressSpace.reports_duplicate pages parentFrame

theorem owes_action {held : FramePool → Prop} (granted : FramePool.KeptByGrants held)
    (construction : Construction) :
    Owes (fun kernel => held kernel.frames) Event.Preliminary BuildError.records
      (construction.action : Action (Kernel geometry) BuildError AddressSpace) := by
  intro kernel report holds ran
  exact ⟨(construction.abides_action granted kernel report holds ran).1,
    (construction.reports_action kernel report trivial ran).2⟩

variable {construction : Construction} {kernel : Kernel geometry}
  {report : Report (Kernel geometry) BuildError AddressSpace}
  (ran : construction.action.run kernel = .ok report)
include ran

/-- A request that failed is diagnosed. -/
theorem diagnosed_of_run (failed : report.result = .error error) :
    Diagnosed error report.events := by
  have granted : FramePool.KeptByGrants fun _ => True := fun _ _ _ _ => trivial
  obtain ⟨-, printable⟩ := construction.abides_action granted kernel report trivial ran
  obtain ⟨-, earlier, preliminary, recorded⟩ := construction.reports_action kernel report trivial ran
  have recorded : report.events = earlier ++ error.records := by rw [recorded, failed]; rfl
  rw [recorded] at printable ⊢
  exact diagnosed_of_records (fun event member => (preliminary event member).1)
    (printable _ (by simp [BuildError.records]))

theorem errorsIn_of_run {space : AddressSpace} (made : report.result = .ok space) :
    errorsIn report.events = [] := by
  obtain ⟨-, earlier, preliminary, recorded⟩ := construction.reports_action kernel report trivial ran
  rw [recorded, made, owedBy, List.append_nil]
  exact errorsIn_of_calm fun event member => (preliminary event member).1

/-- A request for a space is nothing about processes, however it ends. -/
theorem subsystem_of_run : ∀ event ∈ report.events, event.subsystem ≠ .scheduling := by
  obtain ⟨-, earlier, preliminary, recorded⟩ := construction.reports_action kernel report trivial ran
  rw [recorded]
  refine List.forall_mem_append.mpr ⟨fun event member => (preliminary event member).2, ?_⟩
  cases report.result with
  | ok => exact List.forall_mem_nil _
  | error error => exact error.subsystem_records

end Construction

end PagedKernel
