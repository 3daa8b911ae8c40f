import PagedKernel.Proofs.Addressing
import PagedKernel.Proofs.Construction
import PagedKernel.Proofs.Isolation.Relocation

/-!
Contract: the state in which a program starts.

Owns:
- the start registers one by one, and the stack pointer as a number;
- tables that differ at most in the marks of their pages (`PageTable.Unedited`);
- addresses that a machine finds in the bytes of a space
  (`AddressSpace.FindsWord`);
- kernels on which the program of a space is about to start
  (`AddressSpace.Poised`), whatever else their machines hold.

The stack pointer is the size of the space less the guard, in the wrapping
arithmetic of 32 bits. It is an address of the space also where the size does
not fit in 32 bits, since what is cut off makes it smaller by whole words.

Does not own: which tables stay unedited over a run (`Platform.Readiness`).
-/

namespace PagedKernel

open PagedKernel.Action

variable {geometry : Geometry} {kernel : Kernel geometry} {space : AddressSpace} {ε : Type}

/-! ### Start registers -/

namespace AddressSpace

theorem getElem?_startRegisters (stack : Int32) (index : Nat) :
    (startRegisters stack)[index]? =
      if index = Registers.stack then some stack
      else if index = Registers.nextCounter then some 4
      else if index < registerCount then some 0 else none := by
  simp only [startRegisters, Registers.zeroed, Registers.stack, Registers.nextCounter,
    Vector.getElem?_setIfInBounds, Vector.getElem?_replicate, eq_comm]
  grind

/-- The stack pointer as an address. -/
theorem toNat_stackTop (space : AddressSpace) (pageSize : Nat) :
    (space.stackTop pageSize).toUInt32.toNat =
      (space.pages * pageSize + (UInt32.size - 16)) % UInt32.size := by
  have unsigned : (space.stackTop pageSize).toUInt32 =
      UInt32.ofNat (space.pages * pageSize) - 16 := rfl
  rw [unsigned, UInt32.toNat_sub, UInt32.toNat_ofNat']
  simp only [UInt32.size, UInt32.reduceToNat]
  omega

theorem toNat_stackTop_of_le (large : 16 ≤ space.pages * pageSize) :
    (space.stackTop pageSize).toUInt32.toNat = (space.pages * pageSize - 16) % UInt32.size := by
  rw [toNat_stackTop]
  simp only [UInt32.size]
  omega

/-- Below the guard, the stack pointer is negative. -/
theorem toInt_stackTop_of_lt (small : space.pages * pageSize < 16) :
    (space.stackTop pageSize).toInt = (space.pages * pageSize : Nat) - 16 := by
  have guard : stackGuard.toInt = 16 := rfl
  rw [stackTop, Int32.toInt_sub, Int32.toInt_ofNat', guard]
  simp only [Int.bmod, Int32.size]
  omega

/-- The stack pointer is the address of a word of the space exactly if the space holds the guard. -/
theorem reaches_stackTop_iff (valid : geometry.Valid) :
    space.Reaches geometry.pageSize (space.stackTop geometry.pageSize).toUInt32 ↔
      16 ≤ space.pages * geometry.pageSize := by
  have whole : space.pages * geometry.pageSize % Word.size = 0 :=
    Nat.mod_eq_zero_of_dvd (Nat.dvd_mul_left_of_dvd valid.word_dvd_pageSize space.pages)
  have pointer := toNat_stackTop space geometry.pageSize
  simp only [Reaches, Word.size, UInt32.size] at *
  omega

example : (stackTop ⟨⟨0⟩, 1, 0⟩ (UInt32.size + 8)).toUInt32 = 0xfffffff8 := by decide

end AddressSpace

/-! ### Tables that nobody edited -/

namespace PageTable

variable {table other : PageTable} {firstFrame pages : Nat}

/-- The other table maps every page as the table does, and may have other pages marked as used. -/
def Unedited (table other : PageTable) : Prop :=
  ∀ page, (other.lookup page).map Entry.markUsed = (table.lookup page).map Entry.markUsed

theorem Unedited.refl (table : PageTable) : table.Unedited table := fun _ => rfl

theorem Unedited.lookup_eq_none_iff (unedited : table.Unedited other) (page : Nat) :
    other.lookup page = none ↔ table.lookup page = none := by
  rw [← Option.map_eq_none_iff (f := Entry.markUsed), unedited page, Option.map_eq_none_iff]

theorem Unedited.size_eq (unedited : table.Unedited other) : other.size = table.size := by
  have missing : ∀ page, other.size ≤ page ↔ table.size ≤ page := by
    intro page
    rw [← PageTable.lookup_eq_none_iff, unedited.lookup_eq_none_iff, PageTable.lookup_eq_none_iff]
  have first := missing other.size
  have second := missing table.size
  omega

theorem Linear.unedited (linear : table.Linear firstFrame pages) (unedited : table.Unedited other) :
    other.Linear firstFrame pages where
  size_eq := unedited.size_eq.trans linear.size_eq
  entry := by
    intro page inside
    obtain ⟨used, found⟩ := linear.entry page inside
    have same := unedited page
    rw [found, Option.map_some, Option.map_eq_some_iff] at same
    obtain ⟨⟨number, frame, ⟨valid, used, dirty, readOnly⟩⟩, held, marked⟩ := same
    simp only [Entry.markUsed, Entry.mk.injEq, Flags.mk.injEq] at marked
    obtain ⟨rfl, rfl, rfl, -, rfl, rfl⟩ := marked
    exact ⟨used, held⟩

end PageTable

/-! ### Programs about to start -/

namespace AddressSpace

/-- Sets the registers for the program of the space, and then lets the processor use its table. -/
def start (space : AddressSpace) : Action (Kernel geometry) ε Unit := do
  space.initRegisters
  space.activate

/-- The kernel once the registers were set for the program of the space. -/
def primed (kernel : Kernel geometry) (space : AddressSpace) : Kernel geometry :=
  { kernel with
    machine := {
      kernel.machine with registers := startRegisters (space.stackTop geometry.pageSize) } }

theorem run_initRegisters (bounded : space.pages * geometry.pageSize < Size.limit) :
    (space.initRegisters : Action (Kernel geometry) ε Unit).run kernel =
      .ok ⟨.ok (), primed kernel space, [.stackSet (space.stackTop geometry.pageSize)]⟩ := by
  rw [initRegisters, initialStack_of_lt bounded]
  rfl

theorem run_activate_primed :
    (space.activate : Action (Kernel geometry) ε Unit).run (primed kernel space) =
      .ok ⟨.ok (), launched kernel space, []⟩ := rfl

theorem run_start (bounded : space.pages * geometry.pageSize < Size.limit) :
    (space.start : Action (Kernel geometry) ε Unit).run kernel =
      .ok ⟨.ok (), launched kernel space, [.stackSet (space.stackTop geometry.pageSize)]⟩ :=
  run_bind_of_ok_of_ok (run_initRegisters bounded) run_activate_primed

/-- The address is that of a word, and the machine finds the word in the bytes of the space. -/
def FindsWord (kernel : Kernel geometry) (space : AddressSpace) (address : UInt32) : Prop :=
  address.toNat % Word.size = 0 ∧ ∃ physical range,
    (Kernel.translate address).result kernel = .ok (.ok physical) ∧
    space.physicalRange geometry.pageSize = .ok range ∧
    range.first ≤ physical ∧ physical + Word.size ≤ range.past

/-- The program of the space is about to start.

It starts at address 0 and has a stack that ends at the guard. If the space holds the guard, then
the machine finds in it the first two instructions and the word that the stack pointer names.
Otherwise the stack pointer is negative, and an address of no word. All other registers are zero. -/
structure Poised (kernel : Kernel geometry) (space : AddressSpace) : Prop where
  counter : kernel.machine.registers[Registers.counter]? = some 0
  nextCounter : kernel.machine.registers[Registers.nextCounter]? = some 4
  zeroed : ∀ index < registerCount, index ≠ Registers.nextCounter → index ≠ Registers.stack →
    kernel.machine.registers[index]? = some 0
  stack : 16 ≤ space.pages * geometry.pageSize → ∃ pointer,
    kernel.machine.registers[Registers.stack]? = some pointer ∧
      pointer.toUInt32.toNat = (space.pages * geometry.pageSize - 16) % UInt32.size
  found : 16 ≤ space.pages * geometry.pageSize →
    ∀ index ∈ [Registers.counter, Registers.nextCounter, Registers.stack], ∃ value,
      kernel.machine.registers[index]? = some value ∧ space.FindsWord kernel value.toUInt32
  stackless : space.pages * geometry.pageSize < 16 → ∃ pointer,
    kernel.machine.registers[Registers.stack]? = some pointer ∧
      pointer.toInt = (space.pages * geometry.pageSize : Nat) - 16 ∧
      (Kernel.translate pointer.toUInt32).result kernel = .ok (.error .addressError)

section Launched

variable (linear : (kernel.tables.table space.table).Linear space.firstFrame space.pages)
  (inside : space.firstFrame + space.pages ≤ geometry.frames)
include linear inside

/-- Under the table of a space that was just activated, the addresses of the space lie as far from
its first byte as from address 0, and all others are refused. -/
theorem result_translate_launched (address : UInt32) :
    (Kernel.translate address).result (launched kernel space) =
      .ok (if space.Reaches geometry.pageSize address then
        .ok (space.firstFrame * geometry.pageSize + address.toNat)
      else .error .addressError) := by
  have installed : (launched kernel space).machine.installed = some ⟨space.table, space.pages⟩ := rfl
  obtain ⟨events, ran⟩ := Kernel.run_translate_of_installed installed linear.size_eq address
  have resolved := linear.resolve_eq kernel.machine.usable.valid inside address
  rw [result, ran]
  exact congrArg Except.ok resolved

theorem findsWord_launched {address : UInt32} (reached : space.Reaches geometry.pageSize address) :
    space.FindsWord (launched kernel space) address := by
  have usable := kernel.machine.usable
  have range : space.physicalRange geometry.pageSize = _ :=
    frameBytes_of_lt (Nat.lt_of_le_of_lt inside usable.frames_lt_limit) (usable.run_lt_limit inside)
  have room := usable.valid.word_in_pages reached.2 reached.1
  refine ⟨reached.1, space.firstFrame * geometry.pageSize + address.toNat, _, ?_, range, ?_, ?_⟩
  · rw [result_translate_launched linear inside, if_pos reached]
  · exact Nat.le_add_right _ _
  · show _ ≤ (space.firstFrame + space.pages) * geometry.pageSize
    rw [Nat.add_mul]
    omega

theorem poised_launched : space.Poised (launched kernel space) := by
  have valid := kernel.machine.usable.valid
  have register : ∀ index, (launched kernel space).machine.registers[index]? = _ :=
    getElem?_startRegisters (space.stackTop geometry.pageSize)
  constructor
  case counter => exact register _
  case nextCounter => exact register _
  case zeroed =>
    intro index known notNext notStack
    rw [register, if_neg notStack, if_neg notNext, if_pos known]
  case stack => exact fun large => ⟨_, register _, toNat_stackTop_of_le large⟩
  case found =>
    intro large index member
    have start : space.Reaches geometry.pageSize (Int32.toUInt32 0) :=
      ⟨rfl, show 0 < _ by omega⟩
    have next : space.Reaches geometry.pageSize (Int32.toUInt32 4) :=
      ⟨rfl, show 4 < _ by omega⟩
    have stack := (reaches_stackTop_iff valid).mpr large
    simp only [List.mem_cons, List.not_mem_nil, or_false] at member
    rcases member with rfl | rfl | rfl
    · exact ⟨0, register _, findsWord_launched linear inside start⟩
    · exact ⟨4, register _, findsWord_launched linear inside next⟩
    · exact ⟨_, register _, findsWord_launched linear inside stack⟩
  case stackless =>
    intro small
    have outside := mt (reaches_stackTop_iff valid).mp (Nat.not_le.mpr small)
    refine ⟨_, register _, toInt_stackTop_of_lt small, ?_⟩
    rw [result_translate_launched linear inside, if_neg outside]

end Launched

end AddressSpace

end PagedKernel
