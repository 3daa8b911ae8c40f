import PagedKernel.Image.Header

/-!
Contract: programs, and the executable images that hold them.

Owns:
- programs, assembled by setting one part after the other, where a part takes
  the place of what was set before;
- the layout of an image, which is the header, the code bytes and the
  initialized bytes, in this order and without gaps.

A size in the header keeps the low 32 bits of a longer segment's size. The
offset of the initialized bytes must fit 32 bits, or the kernel stops.
-/

namespace PagedKernel

/-- A program before it is written to a file; a part that is not given is empty. -/
structure Program where
  code : List UInt8 := []
  codeAddress : UInt32 := 0
  initialized : List UInt8 := []
  initializedAddress : UInt32 := 0
  uninitializedSize : UInt32 := 0
  uninitializedAddress : UInt32 := 0
  order : ByteOrder := .native
deriving DecidableEq, Repr

/-- A part of a program. The bytes of a segment and its address are set together. -/
inductive Program.Part where
  | code (address : UInt32) (bytes : List UInt8)
  | initialized (address : UInt32) (bytes : List UInt8)
  | uninitialized (address size : UInt32)
  | order (order : ByteOrder)
deriving DecidableEq, Repr

namespace Program

def set (program : Program) : Part → Program
  | .code address bytes => { program with code := bytes, codeAddress := address }
  | .initialized address bytes =>
      { program with initialized := bytes, initializedAddress := address }
  | .uninitialized address size =>
      { program with uninitializedSize := size, uninitializedAddress := address }
  | .order order => { program with order }

/-- The program of which the parts were set one after the other. -/
def assemble (parts : List Part) : Program := parts.foldl set {}

/-- The header of the program's image. -/
def header (program : Program) : Checked Header := do
  let codeSize := UInt32.ofNat program.code.length
  let codePast ← Size.below UInt32.size (headerSize + codeSize.toNat)
  return {
    magic := imageMagic
    code := ⟨codeSize, program.codeAddress, UInt32.ofNat headerSize⟩
    initialized :=
      ⟨UInt32.ofNat program.initialized.length, program.initializedAddress,
        UInt32.ofNat codePast⟩
    uninitialized := ⟨program.uninitializedSize, program.uninitializedAddress, 0⟩
  }

/-- The bytes of the program's image. -/
def image (program : Program) : Checked (List UInt8) := do
  let header ← program.header
  return header.encode program.order ++ program.code ++ program.initialized

end Program

end PagedKernel
