import PagedKernel.Kernel.Basic

/-!
Contract: address spaces and how a machine uses them.

Owns:
- a space as a run of pages on a run of frames, with the table between them;
- the physical bytes of a space;
- the registers with which a program starts, and the change of the installed
  table to the one of a space;
- the end of a space, which gives no frame back;
- the record of a failure that leaves no space (`AddressSpace.fatal`).

Does not own: the construction of spaces (`Space.Load`, `Space.Duplicate`).
-/

namespace PagedKernel

/-- Virtual pages `0` to `pages - 1` on the frames from `firstFrame` on. -/
structure AddressSpace where
  table : TableId
  pages : Nat
  firstFrame : Nat
deriving DecidableEq, Repr

/-- The bytes of a run of frames. -/
def frameBytes (firstFrame pages pageSize : Nat) : Checked ByteRange := do
  let first ← Size.mul firstFrame pageSize
  let pastFrame ← Size.add firstFrame pages
  let past ← Size.mul pastFrame pageSize
  return ⟨first, past⟩

theorem frameBytes_of_lt {firstFrame pages pageSize : Nat}
    (frames : firstFrame + pages < Size.limit)
    (bytes : (firstFrame + pages) * pageSize < Size.limit) :
    frameBytes firstFrame pages pageSize =
      .ok ⟨firstFrame * pageSize, (firstFrame + pages) * pageSize⟩ := by
  have start : firstFrame * pageSize < Size.limit :=
    Nat.lt_of_le_of_lt (Nat.mul_le_mul_right pageSize (Nat.le_add_right firstFrame pages)) bytes
  simp [frameBytes, Size.mul_of_lt start, Size.add_of_lt frames, Size.mul_of_lt bytes, bind,
    Except.bind, pure, Except.pure]

/-- Bytes between the initial stack pointer and the top of the space. -/
def stackGuard : Int32 := 16

namespace AddressSpace

open PagedKernel.Action

variable {geometry : Geometry} {ε : Type}

/-- The physical bytes of the space. -/
def physicalRange (space : AddressSpace) (pageSize : Nat) : Checked ByteRange :=
  frameBytes space.firstFrame space.pages pageSize

/-- The initial stack pointer, in the wrapping arithmetic of registers. -/
def initialStack (space : AddressSpace) (pageSize : Nat) : Checked Int32 := do
  let top ← Size.mul space.pages pageSize
  return Int32.ofNat top - stackGuard

/-- Registers of a program that starts at address 0 with the given stack pointer. -/
def startRegisters (stack : Int32) : Registers :=
  (Registers.zeroed.setIfInBounds Registers.nextCounter 4).setIfInBounds Registers.stack stack

/-- Sets the registers so that the machine starts the program of the space. -/
def initRegisters (space : AddressSpace) : Action (Kernel geometry) ε Unit := do
  let stack ← check (space.initialStack geometry.pageSize)
  Kernel.updateMachine fun machine => { machine with registers := startRegisters stack }
  emit (.stackSet stack)

/-- Lets the processor translate through the table of the space. -/
def activate (space : AddressSpace) : Action (Kernel geometry) ε Unit :=
  Kernel.updateMachine (·.install ⟨space.table, space.pages⟩)

/-- Ends the space. Its frames stay taken. -/
def release {σ : Type} (space : AddressSpace) : Action σ ε Unit :=
  emit (.spaceReleased space.firstFrame space.pages)

/-- If the action fails, no space can be built, and the cause is recorded. -/
def fatal {σ α : Type} (action : Action σ BuildError α) : Action σ BuildError α :=
  action.emitOnError .buildRefused

end AddressSpace

end PagedKernel
