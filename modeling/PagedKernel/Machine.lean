import PagedKernel.Geometry
import PagedKernel.Memory
import PagedKernel.PageTable.Store

/-!
Contract: the simulated machine.

Owns:
- the register file, and the registers that a program start sets;
- physical memory and the slot for the page table that the processor uses;
- which geometries a machine can be built with.

A machine never changes its geometry, so the geometry is part of its type.

Does not own: the page tables themselves (`PageTable.Store`).
-/

namespace PagedKernel

/-- Number of user registers. -/
abbrev registerCount : Nat := 40

/-- The contents of the user registers. -/
abbrev Registers : Type := Vector Int32 registerCount

namespace Registers

/-- Index of the stack pointer. -/
def stack : Nat := 29

/-- Index of the address of the current instruction. -/
def counter : Nat := 34

/-- Index of the address of the instruction after the current one. -/
def nextCounter : Nat := 35

def zeroed : Registers := Vector.replicate registerCount 0

/-- The non-zero registers with their indices, in order. -/
def nonzero (registers : Registers) : List (Nat × Int32) :=
  ((List.range registerCount).zip registers.toList).filter fun entry => entry.2 != 0

end Registers

/-- The page table that a processor translates through, and the size expected of it. -/
structure Mapping where
  table : TableId
  pages : Nat
deriving DecidableEq, Repr

structure Machine (geometry : Geometry) where
  usable : geometry.Usable
  memory : Memory geometry.bytes := Memory.zeroed geometry.bytes
  registers : Registers := Registers.zeroed
  installed : Option Mapping := none

namespace Machine

variable {geometry : Geometry}

/-- A machine with zeroed memory and registers and no page table. -/
def create (geometry : Geometry) : Checked (Except GeometryError (Machine geometry)) :=
  match accepted : geometry.validate with
  | .error refusal => .ok (.error refusal)
  | .ok () =>
      if bounded : geometry.bytes < Geometry.memoryLimit then
        .ok (.ok { usable := ⟨Geometry.validate_eq_ok_iff.mp accepted, bounded⟩ })
      else do
        let _ ← geometry.memorySize
        throw .capacity

def install (machine : Machine geometry) (mapping : Mapping) : Machine geometry :=
  { machine with installed := some mapping }

def uninstall (machine : Machine geometry) : Machine geometry :=
  { machine with installed := none }

/-- Sets every register to one value. -/
def fillRegisters (machine : Machine geometry) (value : Int32) : Machine geometry :=
  { machine with registers := Vector.replicate registerCount value }

/-- Sets every byte of memory to one value. -/
def fillMemory (machine : Machine geometry) (value : UInt8) : Machine geometry :=
  { machine with memory := Vector.replicate geometry.bytes value }

/-- The bytes at a physical address, if memory holds all of them. -/
def peek? (machine : Machine geometry) (position count : Nat) : Option (List UInt8) :=
  if position + count ≤ geometry.bytes then some (machine.memory.slice position count)
  else none

/-- Overwrites the bytes at a physical address, if memory holds all of them. -/
def poke? (machine : Machine geometry) (position : Nat) (bytes : List UInt8) :
    Option (Machine geometry) :=
  if position + bytes.length ≤ geometry.bytes then
    some { machine with memory := machine.memory.store position bytes }
  else none

end Machine

end PagedKernel
