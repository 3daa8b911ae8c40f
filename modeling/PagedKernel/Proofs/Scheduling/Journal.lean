import Mathlib.Data.List.Basic
import PagedKernel.Proofs.Diagnosis
import PagedKernel.Proofs.Scheduling.Progress
import PagedKernel.Proofs.Scheduling.Refusals

/-!
Contract: the errors in the log of a scheduler.

Owns:
- commands that ask for a process (`Scheduler.Command.Creates`), which fail only
  with their request for a space;
- the errors that the log of a command has (`Scheduler.Failure.records`), which
  are those of its failure;
- the log of a run, in which every refusal is diagnosed where it happened.

Does not own: the log of a single request (`Diagnosis`).
-/

namespace PagedKernel.Scheduler

open PagedKernel.Action

variable {geometry : Geometry} {scheduler after : Scheduler geometry} {command : Command}
  {events : List Event} {held : FramePool → Prop} {ε : Type} {owed : ε → List Event}

/-! ### Commands that ask for a process -/

/-- The command asks for a process. -/
def Command.Creates : Command → Prop
  | .exec _ _ | .fork => True
  | _ => False

/-- A command that asks for a process fails only with its request for a space, and adds nothing to
the log of that request. -/
theorem request_of_failure (creates : command.Creates) {failure : Failure}
    (ran : (step command).run scheduler = .ok ⟨.error failure, after, events⟩) :
    ∃ (construction : Construction) (error : BuildError) (kernel : Kernel geometry),
      failure = .build error ∧
        construction.action.run scheduler.kernel = .ok ⟨.error error, kernel, events⟩ := by
  cases command with
  | exec name file =>
      obtain ⟨error, rfl, -⟩ := run_eq_failure_of_mapError (run_eq_failure_of_map ran)
      obtain ⟨kernel, failed, -⟩ := run_of_refused rfl ran
      exact ⟨_, error, kernel, rfl, failed⟩
  | fork =>
      obtain ⟨error, rfl, refused⟩ := run_eq_failure_of_mapError (run_eq_failure_of_map ran)
      cases current : scheduler.current with
      | none => cases (run_fork_of_idle current).symm.trans refused
      | some parent =>
          have requested : scheduler.construction? .fork =
              some (.duplicate parent.space.pages parent.space.firstFrame) :=
            congrArg (Option.map _) current
          obtain ⟨kernel, failed, -⟩ := run_of_refused requested ran
          exact ⟨_, error, kernel, rfl, failed⟩
  | yield | exit | access => exact creates.elim

/-! ### What commands record -/

/-- The errors that the log has of a failure. -/
def Failure.records : Failure → List Event
  | .build error => error.records
  | .exception _ => []

theorem owes_exit :
    KeepsLog held Event.Calm owed (exit : Action (Scheduler geometry) ε (Option Pid)) := by
  refine .bind (.view _) fun current => ?_
  cases current with
  | none => exact .pure _
  | some finished => exact owes_ending (fun _ => Event.OfProcess.calm) nofun

theorem owes_access (request : Access) :
    KeepsLog held Event.Calm Failure.records
      ((onKernel (Kernel.access request)).mapError .exception :
        Action (Scheduler geometry) Failure Access.Answer) := by
  have calm : ∀ event : Event, event.Placing → event.Calm := fun _ placing => placing.preliminary.1
  exact ((abides_onKernel (Kernel.abides_access request)).mono calm).owes.mapError fun _ => rfl

theorem owes_request {α : Type} {action : Action (Scheduler geometry) BuildError α}
    (owes : KeepsLog held Event.Calm BuildError.records action) :
    KeepsLog held Event.Calm Failure.records (action.mapError .build) :=
  owes.mapError fun _ => rfl

section Granted

variable (granted : FramePool.KeptByGrants held)
include granted

theorem owes_construction (construction : Construction) :
    KeepsLog held Event.Calm BuildError.records
      (onKernel construction.action : Action (Scheduler geometry) BuildError AddressSpace) :=
  owes_onKernel ((construction.owes_action granted).mono fun _ => And.left)

theorem owes_exec (name : String) (file : File) :
    KeepsLog held Event.Calm BuildError.records
      (exec name file : Action (Scheduler geometry) BuildError Pid) :=
  .bind (owes_construction granted (.load file)) fun space =>
    (owes_admission name space).mono fun _ => Event.OfProcess.calm

theorem owes_fork :
    KeepsLog held Event.Calm BuildError.records
      (fork : Action (Scheduler geometry) BuildError (Option Pid)) := by
  refine .bind (.view _) fun current => ?_
  cases current with
  | none => exact .pure _
  | some parent =>
      exact .bind (owes_construction granted
          (.duplicate parent.space.pages parent.space.firstFrame))
        fun space => (owes_succession parent space).mono fun _ => Event.OfProcess.calm

/-- Of every command, the log has the errors of its failure and no others. -/
theorem owes_step (command : Command) :
    KeepsLog held Event.Calm Failure.records
      (step command : Action (Scheduler geometry) Failure Answer) := by
  cases command with
  | exec name file => exact (owes_request (owes_exec granted name file)).map _
  | fork => exact (owes_request (owes_fork granted)).map _
  | yield => exact (owes_yield.mono fun _ => Event.OfProcess.calm).map _
  | exit => exact owes_exit.map _
  | access request => exact (owes_access request).map _

end Granted

theorem errorsIn_records (failure : Failure) : errorsIn failure.records = failure.records := by
  cases failure with
  | build error => exact error.errorsIn_records
  | exception => rfl

theorem errorsIn_of_step {report : Report (Scheduler geometry) Failure Answer}
    (ran : (step command).run scheduler = .ok report) :
    errorsIn report.events = owedBy Failure.records report.result := by
  have granted : FramePool.KeptByGrants fun _ => True := fun _ _ _ _ => trivial
  obtain ⟨-, earlier, calm, recorded⟩ := owes_step granted command scheduler report trivial ran
  rw [recorded, errorsIn_append, errorsIn_of_calm calm, List.nil_append]
  cases report.result with
  | ok => rfl
  | error failure => exact errorsIn_records failure

/-! ### The log of a run -/

/-- All that was recorded during the turns of a run. -/
def journal (past : Past geometry) : List Event := past.flatMap (·.report.events)

theorem errorsIn_journal {past : Past geometry}
    (steps : ∀ turn ∈ past,
      errorsIn turn.report.events = owedBy Failure.records turn.report.result) :
    errorsIn (journal past) =
      past.flatMap fun turn => owedBy Failure.records turn.report.result := by
  rw [← List.flatMap_congr steps, errorsIn, journal, List.filter_flatMap]
  rfl

/-- A request for a space is diagnosed in its log if it was refused, and left no error there if it
was granted. A start or fork that was refused says nothing of processes, and the errors in the log
of any run are those of the refusals, in their order. -/
theorem refusals_diagnosed :
    (∀ (construction : Construction) (kernel : Kernel geometry)
        (report : Report (Kernel geometry) BuildError AddressSpace),
      construction.action.run kernel = .ok report →
        (∀ error, report.result = .error error → Diagnosed error report.events) ∧
          ∀ space, report.result = .ok space → errorsIn report.events = []) ∧
    ∀ (scheduler after : Scheduler geometry) (past : Past geometry),
      Course step scheduler past after →
        (∀ turn ∈ past, turn.command.Creates → ∀ failure, turn.report.result = .error failure →
          (∃ error, failure = .build error ∧ Diagnosed error turn.report.events) ∧
            ∀ event ∈ turn.report.events, event.subsystem ≠ .scheduling) ∧
          errorsIn (journal past) =
            past.flatMap fun turn => owedBy Failure.records turn.report.result := by
  constructor
  · intro construction kernel report ran
    exact ⟨fun _ failed => Construction.diagnosed_of_run ran failed,
      fun _ made => Construction.errorsIn_of_run ran made⟩
  · intro scheduler after past course
    constructor
    · intro turn member creates failure failed
      obtain ⟨state, ran⟩ := course.exists_run_of_mem member
      obtain ⟨command, result, reached, events⟩ := turn
      cases failed
      obtain ⟨construction, error, kernel, rfl, refused⟩ := request_of_failure creates ran
      exact ⟨⟨error, rfl, Construction.diagnosed_of_run refused rfl⟩,
        Construction.subsystem_of_run refused⟩
    · apply errorsIn_journal
      intro turn member
      obtain ⟨state, ran⟩ := course.exists_run_of_mem member
      exact errorsIn_of_step ran

/-- A load by itself that is torn, and a day with a torn load and a fork that gets no frames. -/
theorem refusals_diagnosed_roughDay :
    (∃ report,
      (Construction.load AddressSpace.misalignedImage).action.run AddressSpace.smallKernel =
        .ok report ∧
      Diagnosed (.image (.segmentFault .initialized .addressError)) report.events) ∧
    ∃ past after,
      Course step (start AddressSpace.smallKernel.machine (.ofTotal 6)) past after ∧
      past.map (·.command) = roughDay ∧
      errorsIn (journal past) =
        (BuildError.image (.segmentFault .initialized .addressError)).records ++
          (BuildError.frames ⟨3, 6, 6⟩).records ∧
      ∃ turn ∈ past, turn.command = .fork ∧ Diagnosed (.frames ⟨3, 6, 6⟩) turn.report.events ∧
        ∀ event ∈ turn.report.events, event.subsystem ≠ .scheduling := by
  obtain ⟨alone, together⟩ :=
    @refusals_diagnosed { pageSize := 4, frames := 6, stackSize := 4 }
  constructor
  · have shown : ((Construction.load AddressSpace.misalignedImage).action.run
        AddressSpace.smallKernel).toOption.map (·.result) =
          some (.error (.image (.segmentFault .initialized .addressError))) := by
      decide +kernel
    obtain ⟨report, ran, failed⟩ := exists_of_seen shown
    exact ⟨report, ran, (alone _ _ _ ran).1 _ failed⟩
  · have shown : (trace step (start AddressSpace.smallKernel.machine (.ofTotal 6))
        roughDay).toOption.map (fun reached =>
          (reached.1.flatMap fun turn => owedBy Failure.records turn.report.result,
            reached.1.filterMap fun turn =>
              (refusal? turn.report.result).map (turn.command, ·))) =
        some ((BuildError.image (.segmentFault .initialized .addressError)).records ++
          (BuildError.frames ⟨3, 6, 6⟩).records,
          [(.exec "torn" AddressSpace.misalignedImage,
              .image (.segmentFault .initialized .addressError)),
            (.fork, .frames ⟨3, 6, 6⟩)]) := by
      decide +kernel
    obtain ⟨⟨past, after⟩, traced, seen⟩ := exists_of_seen shown
    obtain ⟨course, taken⟩ := course_of_trace traced
    simp only [Prod.mk.injEq] at seen
    obtain ⟨records, refusals⟩ := seen
    obtain ⟨diagnosed, errors⟩ := together _ after past course
    have member : (Command.fork, BuildError.frames ⟨3, 6, 6⟩) ∈ past.filterMap fun turn =>
        (refusal? turn.report.result).map (turn.command, ·) := by
      rw [refusals]
      simp
    obtain ⟨turn, inside, told⟩ := List.mem_filterMap.mp member
    obtain ⟨error, refused, same⟩ := Option.map_eq_some_iff.mp told
    obtain ⟨forked, rfl⟩ := Prod.mk.inj same
    have creates : turn.command.Creates := by rw [forked]; trivial
    obtain ⟨⟨error, caused, logged⟩, apart⟩ :=
      diagnosed turn inside creates _ (refusal?_eq_some refused)
    cases caused
    exact ⟨past, after, course, taken, errors.trans records, turn, inside, forked, logged, apart⟩

end PagedKernel.Scheduler
