import PagedKernel.Space.Basic

/-!
Contract: user processes.

Owns: what the kernel keeps of a process. The registers of a process are here
while it waits, and in the machine while it runs.
-/

namespace PagedKernel

inductive ProcessState where
  | ready
  | running
deriving DecidableEq, Repr

def ProcessState.label : ProcessState → String
  | .ready => "ready"
  | .running => "running"

structure Process where
  pid : Pid
  name : String
  space : AddressSpace
  state : ProcessState := .ready
  /-- Registers of a process that waits, once it has any. -/
  saved : Option Registers := none

end PagedKernel
