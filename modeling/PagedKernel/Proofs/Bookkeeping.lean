import PagedKernel.Kernel.Access
import PagedKernel.Proofs.Abiding
import PagedKernel.Proofs.Copying

/-!
Contract: what the actions of a kernel leave of the frame pool, and record.

Owns:
- events whose text takes no sum or product that is no machine size
  (`Event.Printable`), and those of processes (`Event.OfProcess`);
- actions that keep what every grant of frames keeps and record only events that
  can be printed (`Kernel.KeepsBooks`);
- accesses and the use of a space, which leave the pool as it is, and of which
  the latter never fails;
- loads and copies, which keep what every granted request keeps;
- the printability of all that these record, in any state.

Does not own: the operations of a scheduler (`Scheduling.Progress`).
-/

namespace PagedKernel

open PagedKernel.Action

variable {geometry : Geometry} {ε : Type} {held : FramePool → Prop} {fits : Event → Prop}
  {owed : ε → List Event}

/-! ### Events that can be printed -/

/-- Every sum and product that the text of the event takes is a machine size. -/
def Event.Printable : Event → Prop
  | .spaceLaidOut pages bytes firstFrame =>
      bytes < Size.limit ∧ firstFrame + pages < Size.limit
  | .spaceReleased firstFrame pages => firstFrame + pages < Size.limit
  | .buildRefused error => ∃ text, error.printed = .ok text
  | _ => True

theorem Event.Placing.printable {event : Event} (placing : event.Placing) : event.Printable := by
  cases event with
  | faulted | translated | segmentPlaced => trivial
  | _ => exact placing.elim

/-- An event of a process, other than what becomes of its space. -/
def Event.OfProcess : Event → Prop
  | .stackSet _ | .executed _ _ _ | .forked _ _ | .exited _ _ | .switched _ _ => True
  | _ => False

theorem Event.OfProcess.printable {event : Event} (ofProcess : event.OfProcess) :
    event.Printable := by
  cases event with
  | stackSet | executed | forked | exited | switched => trivial
  | _ => exact ofProcess.elim

/-! ### Actions that keep to the rules -/

/-- What is held of a pool is held after every grant within its total. -/
abbrev FramePool.KeptByGrants (held : FramePool → Prop) : Prop :=
  ∀ pool count, held pool → pool.committed + count ≤ pool.total → held (pool.take count)

/-- The action keeps what is held of the pool, and all that it records can be printed. -/
abbrev Kernel.KeepsBooks {α : Type} (held : FramePool → Prop)
    (action : Action (Kernel geometry) ε α) : Prop :=
  Abides (fun kernel => held kernel.frames) Event.Printable action

/-! ### Accesses -/

theorem PageTable.abides_translate (address : UInt32) :
    Abides (fun _ => True) Event.Placing (PageTable.translate geometry address) := by
  refine .bind (.require _ _) fun _ => .bind (.view _) fun located => ?_
  cases located with
  | error fault => exact .bind (.emit trivial) fun _ => .fail _
  | ok location =>
      exact .bind (.update fun _ _ => trivial) fun _ => .bind (.check _) fun _ =>
        .bind (.emit trivial) fun _ => .pure _

namespace Kernel

theorem owes_updateMachine (change : Machine geometry → Machine geometry) :
    Owes (fun kernel => held kernel.frames) fits owed
      (updateMachine change : Action (Kernel geometry) ε Unit) :=
  .update fun _ holds => holds

theorem abides_updateMachine (change : Machine geometry → Machine geometry) :
    Abides (fun kernel => held kernel.frames) fits
      (updateMachine change : Action (Kernel geometry) ε Unit) :=
  abides_iff_owes.mpr (owes_updateMachine change)

theorem abides_translate (address : UInt32) :
    Abides (fun kernel => held kernel.frames) Event.Placing
      (translate address : Action (Kernel geometry) Exception Nat) := by
  refine .bind (.view _) fun installed => ?_
  cases installed with
  | none => exact .bind (.emit trivial) fun _ => .fail _
  | some mapping =>
      refine .bind (.view _) fun _ => .bind (.require _ _) fun _ => ?_
      exact (PageTable.abides_translate address).within (fun _ _ => trivial)
        (fun _ _ holds _ => holds)

theorem abides_readRegister (index : Nat) :
    Abides (fun kernel => held kernel.frames) fits
      (readRegister index : Action (Kernel geometry) ε Int32) := by
  refine .bind (.view _) fun value => ?_
  cases value with
  | none => exact .crash _
  | some value => exact .pure _

theorem abides_readWord (address : UInt32) :
    Abides (fun kernel => held kernel.frames) Event.Placing
      (readWord address : Action (Kernel geometry) Exception UInt32) := by
  refine .bind (abides_translate address) fun _ => .bind (.view _) fun value => ?_
  cases value with
  | none => exact .crash _
  | some value => exact .pure _

theorem abides_access (request : Access) :
    Abides (fun kernel => held kernel.frames) Event.Placing
      (access request : Action (Kernel geometry) Exception Access.Answer) := by
  cases request with
  | translate address => exact (abides_translate address).map _
  | readWord address => exact (abides_readWord address).map _
  | writeWord address value =>
      refine .map (.bind (abides_translate address) fun _ => ?_) _
      exact .bind (.require _ _) fun _ => abides_updateMachine _
  | readRegister index => exact (abides_readRegister index).map _
  | writeRegister index value =>
      exact .map (.bind (.require _ _) fun _ => abides_updateMachine _) _

end Kernel

/-! ### Spaces -/

namespace AddressSpace

theorem owes_initRegisters (space : AddressSpace) :
    Owes (fun kernel => held kernel.frames) Event.OfProcess owed
      (space.initRegisters : Action (Kernel geometry) ε Unit) :=
  .bind (.check _) fun _ => .bind (Kernel.owes_updateMachine _) fun _ => .emit trivial

theorem abides_initRegisters (space : AddressSpace) :
    Kernel.KeepsBooks held (space.initRegisters : Action (Kernel geometry) ε Unit) :=
  (abides_iff_owes.mpr space.owes_initRegisters).mono fun _ => Event.OfProcess.printable

theorem abides_activate (space : AddressSpace) :
    Kernel.KeepsBooks held (space.activate : Action (Kernel geometry) ε Unit) :=
  Kernel.abides_updateMachine _

theorem total_of_free {kernel : Kernel geometry} {pages : Nat}
    (free : kernel.frames.committed + pages ≤ kernel.frames.bound geometry.frames) :
    kernel.frames.committed + pages ≤ kernel.frames.total :=
  Nat.le_trans free (Nat.min_le_left _ _)

theorem printable_claimEvents {kernel : Kernel geometry} {header : Header} {order : ByteOrder}
    (free : kernel.frames.committed + header.pageCount geometry ≤
      kernel.frames.bound geometry.frames) :
    ∀ event ∈ claimEvents kernel header order, event.Printable := by
  have usable := kernel.machine.usable
  have frames := inside_of_free free
  have bytes : header.pageCount geometry * geometry.pageSize < Size.limit :=
    usable.run_lt_limit (Nat.le_trans (Nat.le_add_left _ _) frames)
  have past := Nat.lt_of_le_of_lt frames usable.frames_lt_limit
  simp [claimEvents, Event.Printable, bytes, past]

theorem abides_load (granted : FramePool.KeptByGrants held) (file : File) :
    Kernel.KeepsBooks held (load file : Action (Kernel geometry) BuildError AddressSpace) := by
  intro kernel report holds ran
  cases loading_of_run ran with
  | unreadable | tooLarge | shortage =>
      exact ⟨holds, by simp [Event.Printable, BuildError.printed]⟩
  | refused read free refusal placing =>
      refine ⟨granted _ _ holds (total_of_free free), ?_⟩
      intro event member
      rcases List.mem_append.mp member with placed | refused
      · rcases List.mem_append.mp placed with claimed | copied
        · exact printable_claimEvents free event claimed
        · exact (placing event copied).printable
      · rw [List.mem_singleton.mp refused]
        exact ⟨_, rfl⟩
  | loaded read free whole placing =>
      refine ⟨granted _ _ holds (total_of_free free), ?_⟩
      intro event member
      rcases List.mem_append.mp member with claimed | copied
      · exact printable_claimEvents free event claimed
      · exact (placing event copied).printable

theorem abides_duplicate (granted : FramePool.KeptByGrants held) (pages parentFrame : Nat) :
    Kernel.KeepsBooks held
      (duplicate pages parentFrame : Action (Kernel geometry) BuildError AddressSpace) := by
  intro kernel report holds ran
  cases duplication_of_run ran with
  | tooLarge | shortage =>
      exact ⟨holds, by simp [Event.Printable, BuildError.printed]⟩
  | badParent bounded =>
      refine ⟨holds, ?_⟩
      simp [Event.Printable, BuildError.printed, Size.add_of_lt bounded, bind, Except.bind, pure,
        Except.pure]
  | copied parent free =>
      exact ⟨granted _ _ holds (total_of_free free), by simp [copyEvents, Event.Printable]⟩

end AddressSpace

end PagedKernel
