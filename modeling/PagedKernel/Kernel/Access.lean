import PagedKernel.Kernel.Basic
import PagedKernel.PageTable.Translate

/-!
Contract: what a running program does to the machine.

Owns: the use of the installed page table for an address, word reads and
writes at virtual addresses, register reads and writes, and the type of all
these accesses.
-/

namespace PagedKernel

/-- A step of a user program. -/
inductive Access where
  | translate (address : UInt32)
  | readWord (address : UInt32)
  | writeWord (address value : UInt32)
  | readRegister (index : Nat)
  | writeRegister (index : Nat) (value : Int32)
deriving DecidableEq, Repr

/-- What a step of a user program yields. -/
inductive Access.Answer where
  | done
  | physical (address : Nat)
  | word (value : UInt32)
  | register (value : Int32)
deriving DecidableEq, Repr

namespace Kernel

open PagedKernel.Action

variable {geometry : Geometry} {ε : Type}

/-- Translates through the installed table; without one, every address is outside. -/
def translate (address : UInt32) : Action (Kernel geometry) Exception Nat := do
  match ← view (·.machine.installed) with
  | none =>
      emit (.faulted (.nothingInstalled address))
      fail (Fault.nothingInstalled address).exception
  | some mapping =>
      let table ← view (·.tables.table mapping.table)
      require (table.size = mapping.pages) .brokenPromise
      onTable mapping.table (PageTable.translate geometry address)

def readWord (address : UInt32) : Action (Kernel geometry) Exception UInt32 := do
  let physical ← translate address
  match ← view (·.machine.memory.word? physical) with
  | none => crash .outOfBounds
  | some value => return value

def writeWord (address value : UInt32) : Action (Kernel geometry) Exception Unit := do
  let physical ← translate address
  require (physical + Word.size ≤ geometry.bytes) .outOfBounds
  updateMachine fun machine =>
    { machine with memory := machine.memory.storeWord physical value }

def readRegister (index : Nat) : Action (Kernel geometry) ε Int32 := do
  match ← view (·.machine.registers[index]?) with
  | none => crash .outOfBounds
  | some value => return value

def writeRegister (index : Nat) (value : Int32) : Action (Kernel geometry) ε Unit := do
  require (index < registerCount) .outOfBounds
  updateMachine fun machine =>
    { machine with registers := machine.registers.setIfInBounds index value }

def access : Access → Action (Kernel geometry) Exception Access.Answer
  | .translate address => .physical <$> translate address
  | .readWord address => .word <$> readWord address
  | .writeWord address value => (fun _ => .done) <$> writeWord address value
  | .readRegister index => .register <$> readRegister index
  | .writeRegister index value => (fun _ => .done) <$> writeRegister index value

end Kernel

end PagedKernel
