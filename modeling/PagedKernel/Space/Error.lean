import PagedKernel.FramePool.Basic
import PagedKernel.Image.Error

/-!
Contract: why an address space cannot be built.

Owns: the causes and their texts. The range of a refused parent is printed
with its end, so printing stops the kernel where that end is no machine size.
-/

namespace PagedKernel

inductive BuildError where
  | image (error : ImageError)
  /-- The machine has fewer frames than the program has pages. -/
  | programTooLarge (pages most : Nat)
  | frames (shortage : FrameShortage)
  /-- The parent's frames are not all frames of the machine. -/
  | badParent (start pages : Nat)
deriving DecidableEq, Repr

namespace BuildError

def message : BuildError → String
  | .image error => s!"bad executable: {error.message}"
  | .programTooLarge pages most => s!"program needs {pages} pages, machine has {most}"
  | .frames shortage => shortage.message
  | .badParent start pages => s!"parent frames {start}..{start + pages} outside physical memory"

/-- The message, if every number in it is a machine size. -/
def printed (error : BuildError) : Checked String :=
  match error with
  | .badParent start pages => do
      let _ ← Size.add start pages
      return error.message
  | _ => .ok error.message

end BuildError

end PagedKernel
