import PagedKernel.Proofs.Translation
import PagedKernel.Space.Basic

/-!
Contract: which frames and which table a space has for itself.

Owns:
- kernels that grew by frames and tables (`Kernel.Extends`), and the spaces
  built on the way (`AddressSpace.Built`);
- spaces whose frames and table are still theirs (`AddressSpace.Backed`), and
  spaces that share neither (`AddressSpace.Apart`);
- what growth leaves of these.

Does not own: which operations make a kernel grow (`Loading.Contents`,
`Copying`).
-/

namespace PagedKernel

variable {geometry : Geometry} {before after : Kernel geometry} {space other : AddressSpace}

/-- The kernel `after` took frames and issued tables since `before`, and may have changed the
bytes of the frames taken. Everything else is the same. -/
structure Kernel.Extends (before after : Kernel geometry) : Prop where
  total : after.frames.total = before.frames.total
  committed : before.frames.committed ≤ after.frames.committed
  issued : ∀ id, before.tables.Issued id → after.tables.Issued id
  table : ∀ id, before.tables.Issued id → after.tables.table id = before.tables.table id
  byte : ∀ position, position < before.frames.committed * geometry.pageSize ∨
      after.frames.committed * geometry.pageSize ≤ position →
    after.machine.memory[position]? = before.machine.memory[position]?
  registers : after.machine.registers = before.machine.registers
  installed : after.machine.installed = before.machine.installed

theorem Kernel.Extends.refl (kernel : Kernel geometry) : kernel.Extends kernel where
  total := rfl
  committed := Nat.le_refl _
  issued := fun _ issued => issued
  table := fun _ _ => rfl
  byte := fun _ _ => rfl
  registers := rfl
  installed := rfl

namespace AddressSpace

/-- The kernel grew by exactly the frames and the table of a space, which it maps in order. -/
structure Built (before after : Kernel geometry) (space : AddressSpace) : Prop
    extends before.Extends after where
  firstFrame : space.firstFrame = before.frames.committed
  taken : after.frames.committed = before.frames.committed + space.pages
  inside : space.firstFrame + space.pages ≤ geometry.frames
  fresh : ¬ before.tables.Issued space.table
  owned : after.tables.Issued space.table
  linear : (after.tables.table space.table).Linear space.firstFrame space.pages

/-- The frames of the space are taken, and its table maps its pages to them. -/
structure Backed (kernel : Kernel geometry) (space : AddressSpace) : Prop where
  issued : kernel.tables.Issued space.table
  linear : (kernel.tables.table space.table).Linear space.firstFrame space.pages
  taken : space.firstFrame + space.pages ≤ kernel.frames.committed
  inside : space.firstFrame + space.pages ≤ geometry.frames

/-- Two spaces with no frame and no table in common. -/
structure Apart (space other : AddressSpace) : Prop where
  table : space.table ≠ other.table
  frames : space.firstFrame + space.pages ≤ other.firstFrame ∨
    other.firstFrame + other.pages ≤ space.firstFrame

theorem Apart.symm (apart : space.Apart other) : other.Apart space :=
  ⟨apart.table.symm, apart.frames.symm⟩

/-- The byte at an offset of the space. -/
def byteAt? (space : AddressSpace) (kernel : Kernel geometry) (offset : Nat) : Option UInt8 :=
  kernel.machine.memory[space.firstFrame * geometry.pageSize + offset]?

/-- The space of a table that was added for newly taken frames, of which only these frames may
have changed. -/
theorem built_of_added {kernel : Kernel geometry} {memory : Memory geometry.bytes}
    {table : PageTable} {pages : Nat} (linear : table.Linear kernel.frames.committed pages)
    (inside : kernel.frames.committed + pages ≤ geometry.frames)
    (byte : ∀ position, position < kernel.frames.committed * geometry.pageSize ∨
        (kernel.frames.committed + pages) * geometry.pageSize ≤ position →
      memory[position]? = kernel.machine.memory[position]?) :
    Built kernel
      { machine := { kernel.machine with memory }
        frames := kernel.frames.take pages
        tables := kernel.tables.add table }
      ⟨kernel.tables.nextId, pages, kernel.frames.committed⟩ := by
  constructor
  case toExtends =>
    constructor
    case committed => exact Nat.le_add_right _ _
    case issued => exact fun id issued => TableStore.issued_add.mpr (Or.inl issued)
    case table =>
      intro id issued
      rw [TableStore.table_add, if_neg (TableStore.ne_nextId_of_issued issued)]
    case byte => exact byte
    all_goals rfl
  case inside => exact inside
  case fresh => exact fun issued => TableStore.ne_nextId_of_issued issued rfl
  case owned => exact TableStore.issued_add.mpr (Or.inr rfl)
  case linear =>
    rw [TableStore.table_add, if_pos rfl]
    exact linear
  all_goals rfl

theorem Built.backed (built : Built before after space) : Backed after space where
  issued := built.owned
  linear := built.linear
  taken := Nat.le_of_eq (by rw [built.taken, built.firstFrame])
  inside := built.inside

theorem Built.apart (built : Built before after space) (backed : Backed before other) :
    other.Apart space where
  table := by
    rintro same
    exact built.fresh (same ▸ backed.issued)
  frames := by
    rw [built.firstFrame]
    exact Or.inl backed.taken

namespace Backed

theorem bytes_lt_limit {kernel : Kernel geometry} (backed : Backed kernel space)
    (usable : geometry.Usable) : space.pages * geometry.pageSize < Size.limit :=
  usable.run_lt_limit (Nat.le_trans (Nat.le_add_left _ _) backed.inside)

theorem congr (backed : Backed before space) (tables : after.tables = before.tables)
    (frames : after.frames = before.frames) : Backed after space where
  issued := by
    rw [tables]
    exact backed.issued
  linear := by
    rw [tables]
    exact backed.linear
  taken := by
    rw [frames]
    exact backed.taken
  inside := backed.inside

theorem extended (backed : Backed before space) (grown : before.Extends after) :
    Backed after space where
  issued := grown.issued _ backed.issued
  linear := by
    rw [grown.table _ backed.issued]
    exact backed.linear
  taken := Nat.le_trans backed.taken grown.committed
  inside := backed.inside

/-- The frames of a space end where the next free frame starts, or before. -/
theorem past_le (backed : Backed before space) :
    space.firstFrame * geometry.pageSize + space.pages * geometry.pageSize ≤
      before.frames.committed * geometry.pageSize := by
  rw [← Nat.add_mul]
  exact Nat.mul_le_mul_right _ backed.taken

theorem byte_exists (backed : Backed before space) {offset : Nat}
    (inside : offset < space.pages * geometry.pageSize) :
    ∃ byte, space.byteAt? before offset = some byte := by
  have framed := Geometry.run_add_le_bytes backed.inside
  exact ⟨_, Vector.getElem?_eq_getElem (by omega)⟩

theorem byteAt?_extended (backed : Backed before space) (grown : before.Extends after)
    {offset : Nat} (inside : offset < space.pages * geometry.pageSize) :
    space.byteAt? after offset = space.byteAt? before offset := by
  have past := backed.past_le
  exact grown.byte _ (Or.inl (by omega))

end Backed

theorem Apart.bytes (apart : space.Apart other) (pageSize : Nat) :
    space.firstFrame * pageSize + space.pages * pageSize ≤ other.firstFrame * pageSize ∨
      other.firstFrame * pageSize + other.pages * pageSize ≤ space.firstFrame * pageSize := by
  rw [← Nat.add_mul, ← Nat.add_mul]
  exact apart.frames.imp (Nat.mul_le_mul_right pageSize) (Nat.mul_le_mul_right pageSize)

end AddressSpace

end PagedKernel
