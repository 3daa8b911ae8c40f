import PagedKernel.PageTable.Flags
import PagedKernel.Size

/-!
Contract: linear page tables.

Owns:
- entries, one per virtual page, and edits of a single entry;
- the table that maps pages onto consecutive frames, with the crash that its
  largest frame number may cause (but none for the memory of the host);
- the read-back of each edit (`lookup_change`, `lookup_markUsed`).

Does not own: the addresses of a page, or who holds a table.
-/

namespace PagedKernel

/-- The mapping of one virtual page. -/
structure Entry where
  page : Nat
  frame : Nat
  flags : Flags
deriving DecidableEq, Repr

/-- A change of one aspect of a mapping. -/
inductive Entry.Change where
  | valid (value : Bool)
  | used (value : Bool)
  | frame (value : Nat)
  | flags (value : Flags)
deriving DecidableEq, Repr

namespace Entry

/-- A mapping that is valid, unreferenced and writable. -/
def fresh (page frame : Nat) : Entry :=
  ⟨page, frame, { valid := true }⟩

def markUsed (entry : Entry) : Entry :=
  { entry with flags := { entry.flags with used := true } }

def change (entry : Entry) : Change → Entry
  | .valid value => { entry with flags := { entry.flags with valid := value } }
  | .used value => { entry with flags := { entry.flags with used := value } }
  | .frame value => { entry with frame := value }
  | .flags value => { entry with flags := value }

end Entry

/-- Entries in the order of their virtual pages. -/
structure PageTable where
  entries : Array Entry := #[]
deriving DecidableEq, Repr

namespace PageTable

def empty : PageTable := {}

def size (table : PageTable) : Nat := table.entries.size

def lookup (table : PageTable) (page : Nat) : Option Entry := table.entries[page]?

def firstFrame? (table : PageTable) : Option Nat := (table.lookup 0).map (·.frame)

/-- Maps `pages` virtual pages onto the frames from `firstFrame` on. -/
def contiguous (pages firstFrame : Nat) : PageTable :=
  ⟨Array.ofFn fun page : Fin pages => Entry.fresh page (firstFrame + page)⟩

/-- The contiguous table, provided its last frame number is a machine size.

That the host has to keep the entries in memory of its own is left out. At 24 bytes an entry, it can
keep fewer than `2 ^ 63 / 24` of them, and a machine with as many frames has at least `2 ^ 63 / 6`
bytes of memory. -/
def contiguousChecked (pages firstFrame : Nat) : Checked PageTable :=
  if pages = 0 ∨ firstFrame + (pages - 1) < Size.limit then .ok (contiguous pages firstFrame)
  else .error .overflow

/-- Applies a change to the entry of one page, if the table has that page. -/
def change (table : PageTable) (page : Nat) (edit : Entry.Change) : PageTable :=
  ⟨table.entries.modify page (·.change edit)⟩

def markUsed (table : PageTable) (page : Nat) : PageTable :=
  ⟨table.entries.modify page Entry.markUsed⟩

/-! ### Laws -/

@[simp] theorem size_contiguous (pages firstFrame : Nat) :
    (contiguous pages firstFrame).size = pages := by
  simp [contiguous, size]

theorem lookup_contiguous (pages firstFrame page : Nat) :
    (contiguous pages firstFrame).lookup page =
      if page < pages then some (Entry.fresh page (firstFrame + page)) else none := by
  simp [contiguous, lookup, Array.getElem?_ofFn]

theorem contiguousChecked_of_le {pages firstFrame : Nat}
    (fits : firstFrame + pages ≤ Size.limit) :
    contiguousChecked pages firstFrame = .ok (contiguous pages firstFrame) := by
  unfold contiguousChecked
  rw [if_pos (by omega)]

@[simp] theorem size_change (table : PageTable) (page : Nat) (edit : Entry.Change) :
    (table.change page edit).size = table.size := by
  simp [change, size]

theorem lookup_change (table : PageTable) (page other : Nat) (edit : Entry.Change) :
    (table.change page edit).lookup other =
      if page = other then (table.lookup other).map (·.change edit) else table.lookup other := by
  simp [change, lookup, Array.getElem?_modify]

@[simp] theorem size_markUsed (table : PageTable) (page : Nat) :
    (table.markUsed page).size = table.size := by
  simp [markUsed, size]

theorem lookup_markUsed (table : PageTable) (page other : Nat) :
    (table.markUsed page).lookup other =
      if page = other then (table.lookup other).map Entry.markUsed else table.lookup other := by
  simp [markUsed, lookup, Array.getElem?_modify]

end PageTable

end PagedKernel
