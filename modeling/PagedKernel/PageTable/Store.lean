import PagedKernel.PageTable.Basic

/-!
Contract: page tables that several parts of the kernel refer to.

Owns: the handles of tables, and the store in which a handle finds its table.
A table is changed only through its handle, so whoever holds the handle sees
every change. Tables are never removed.
-/

namespace PagedKernel

/-- Names a table of the store. -/
structure TableId where
  index : Nat
deriving DecidableEq, Repr

structure TableStore where
  tables : Array PageTable := #[]
deriving DecidableEq, Repr

namespace TableStore

/-- The table of a handle; a handle that was never issued has the empty table. -/
def table (store : TableStore) (id : TableId) : PageTable :=
  store.tables[id.index]?.getD .empty

/-- The handle that the next added table gets. -/
def nextId (store : TableStore) : TableId := ⟨store.tables.size⟩

def add (store : TableStore) (table : PageTable) : TableStore :=
  ⟨store.tables.push table⟩

/-- Replaces the table of an issued handle. -/
def put (store : TableStore) (id : TableId) (table : PageTable) : TableStore :=
  ⟨store.tables.setIfInBounds id.index table⟩

/-- A handle that the store has issued. -/
def Issued (store : TableStore) (id : TableId) : Prop := id.index < store.tables.size

theorem table_add (store : TableStore) (added : PageTable) (id : TableId) :
    (store.add added).table id = if id = store.nextId then added else store.table id := by
  rcases id with ⟨index⟩
  simp only [table, add, nextId, Array.getElem?_push, TableId.mk.injEq]
  split <;> simp_all

theorem table_put (store : TableStore) (id other : TableId) (replaced : PageTable)
    (issued : store.Issued id) :
    (store.put id replaced).table other = if other = id then replaced else store.table other := by
  rcases id with ⟨index⟩
  rcases other with ⟨position⟩
  simp only [table, put, Array.getElem?_setIfInBounds, TableId.mk.injEq]
  by_cases same : index = position
  · subst same
    simp only [Issued] at issued
    simp [issued]
  · simp [same, Ne.symm same]

/-- Also under a handle that was never issued, a replaced table is none of the others. -/
theorem table_put_of_ne (store : TableStore) {id other : TableId} (replaced : PageTable)
    (different : other ≠ id) : (store.put id replaced).table other = store.table other := by
  have apart : id.index ≠ other.index := fun same => different (congrArg TableId.mk same.symm)
  rw [table, put, Array.getElem?_setIfInBounds, if_neg apart]
  rfl

theorem issued_put {store : TableStore} {id other : TableId} {replaced : PageTable} :
    (store.put id replaced).Issued other ↔ store.Issued other := by
  simp [Issued, put]

theorem issued_add {store : TableStore} {added : PageTable} {id : TableId} :
    (store.add added).Issued id ↔ store.Issued id ∨ id = store.nextId := by
  rcases id with ⟨index⟩
  simp only [Issued, add, nextId, Array.size_push, TableId.mk.injEq]
  omega

theorem ne_nextId_of_issued {store : TableStore} {id : TableId} (issued : store.Issued id) :
    id ≠ store.nextId := by
  rintro rfl
  exact Nat.lt_irrefl _ issued

/-- Writing a table back changes nothing, also under a handle that was never issued. -/
theorem put_self (store : TableStore) (id : TableId) : store.put id (store.table id) = store := by
  rcases store with ⟨tables⟩
  rcases id with ⟨index⟩
  simp only [put, table, mk.injEq]
  apply Array.ext_getElem?
  intro position
  rw [Array.getElem?_setIfInBounds]
  by_cases here : index = position
  · subst here
    by_cases inside : index < tables.size <;> simp [inside]
  · rw [if_neg here]

end TableStore

end PagedKernel
