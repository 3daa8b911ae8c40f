import PagedKernel.Proofs.Bookkeeping
import PagedKernel.Proofs.Loading.Contents
import PagedKernel.Proofs.Loading.Header

/-!
Contract: requests for a new space, whichever way it is built.

Owns:
- loads and copies as one kind of request (`Construction`);
- the errors that come after the frames of the request were taken
  (`BuildError.keepsFrames`);
- what a request leaves behind that fails (`Construction.Residue`), and one
  that succeeds;
- what any request keeps of the frame pool.

Does not own: who asks (`Scheduling.Refusals`, `FrameOwnership`).
-/

namespace PagedKernel

open PagedKernel.Action

variable {geometry : Geometry} {kernel : Kernel geometry} {file : File}

/-- A request for a new space: a program to load, or frames to copy. -/
inductive Construction where
  | load (file : File)
  | duplicate (pages parentFrame : Nat)
deriving DecidableEq, Repr

def Construction.action :
    Construction → Action (Kernel geometry) BuildError AddressSpace
  | .load file => AddressSpace.load file
  | .duplicate pages parentFrame => AddressSpace.duplicate pages parentFrame

/-- Only the copy of a segment fails after the frames of the space were taken. -/
def BuildError.keepsFrames : BuildError → Bool
  | .image (.segmentOutOfRange _) | .image (.segmentFault _ _)
  | .image (.truncatedSegment _ _ _) => true
  | _ => false

theorem keepsFrames_of_unreadable {error : ImageError}
    (unreadable : Header.read file = .error error) :
    (BuildError.image error).keepsFrames = false := by
  by_cases whole : headerSize ≤ file.reach
  · rw [Header.read_of_reach whole] at unreadable
    split at unreadable
    · cases unreadable
      rfl
    · cases unreadable
  · rw [Header.read_of_short (Nat.lt_of_not_le whole)] at unreadable
    cases unreadable
    rfl

theorem keepsFrames_of_refusal {header : Header} {error : ImageError}
    (refusal : AddressSpace.segmentRefusal? file header geometry = some error) :
    (BuildError.image error).keepsFrames = true := by
  obtain ⟨⟨kind, segment⟩, -, refused⟩ := List.exists_of_findSome?_eq_some refusal
  simp only [Segment.refusal?] at refused
  split at refused
  · cases refused
  split at refused
  · cases refused
    rfl
  split at refused
  · cases refused
    rfl
  split at refused
  · cases refused
    rfl
  · cases refused

namespace Construction

variable {construction : Construction} {report : Report (Kernel geometry) BuildError AddressSpace}

/-- What a request for a space that failed left behind: frames, if it came to take any, but no
change outside them. -/
structure Residue (construction : Construction) (before after : Kernel geometry)
    (error : BuildError) : Prop where
  registers : after.machine.registers = before.machine.registers
  installed : after.machine.installed = before.machine.installed
  tables : after.tables = before.tables
  byte : ∀ position, position < before.frames.committed * geometry.pageSize ∨
      after.frames.committed * geometry.pageSize ≤ position →
    after.machine.memory[position]? = before.machine.memory[position]?
  untouched : error.keepsFrames = false →
    after.machine.memory = before.machine.memory ∧ after.frames = before.frames
  taken : error.keepsFrames = true → ∃ file header order, construction = .load file ∧
    Header.read file = .ok (header, order) ∧
      after.frames = before.frames.take (header.pageCount geometry)

theorem residue_refl (error : BuildError) (early : error.keepsFrames = false) :
    Residue construction kernel kernel error where
  registers := rfl
  installed := rfl
  tables := rfl
  byte := fun _ _ => rfl
  untouched := fun _ => ⟨rfl, rfl⟩
  taken := fun late => nomatch early.symm.trans late

theorem residue_of_run {error : BuildError} (ran : construction.action.run kernel = .ok report)
    (failed : report.result = .error error) : Residue construction kernel report.state error := by
  cases construction with
  | load file =>
      cases AddressSpace.loading_of_run ran with
      | unreadable read =>
          cases failed
          exact residue_refl _ (keepsFrames_of_unreadable read)
      | tooLarge | shortage =>
          cases failed
          exact residue_refl _ rfl
      | refused read free refusal =>
          cases failed
          have late := keepsFrames_of_refusal refusal
          have grown := AddressSpace.extends_loaded kernel file
          constructor
          case byte => exact (grown _).byte
          case untouched => exact fun early => nomatch early.symm.trans late
          case taken => exact fun _ => ⟨file, _, _, rfl, read, rfl⟩
          all_goals rfl
      | loaded => cases failed
  | duplicate pages parentFrame =>
      cases AddressSpace.duplication_of_run ran with
      | tooLarge | badParent | shortage =>
          cases failed
          exact residue_refl _ rfl
      | copied => cases failed

theorem built_of_run {space : AddressSpace} (ran : construction.action.run kernel = .ok report)
    (made : report.result = .ok space) : AddressSpace.Built kernel report.state space := by
  cases construction with
  | load file =>
      cases AddressSpace.loading_of_run ran with
      | loaded read free whole =>
          cases made
          exact (AddressSpace.holds_loaded whole (AddressSpace.inside_of_free free)).toBuilt
      | unreadable | tooLarge | shortage | refused => cases made
  | duplicate pages parentFrame =>
      cases AddressSpace.duplication_of_run ran with
      | copied parent free =>
          cases made
          exact AddressSpace.built_copied parent (AddressSpace.inside_of_free free)
      | tooLarge | badParent | shortage => cases made

theorem abides_action {held : FramePool → Prop} (granted : FramePool.KeptByGrants held)
    (construction : Construction) :
    Kernel.KeepsBooks held
      (construction.action : Action (Kernel geometry) BuildError AddressSpace) := by
  cases construction with
  | load file => exact AddressSpace.abides_load granted file
  | duplicate pages parentFrame => exact AddressSpace.abides_duplicate granted pages parentFrame

end Construction

end PagedKernel
