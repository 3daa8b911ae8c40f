import PagedKernel.Proofs.Addressing

/-!
Contract: translations one after the other under one table.

Owns:
- the table that any number of translations leave (`PageTable.referencedAll`),
  entry by entry;
- the results of such a run, which are those that each address has under the
  first table;
- what a run owes to the order and the number of its translations, which is
  nothing (`PageTable.Independent`).

As in `Addressing`, entries may be of any kind, and memory needs no more than a
machine size.

Does not own: what a single translation answers (`Addressing`).
-/

namespace PagedKernel.PageTable

open PagedKernel.Action

variable {table other : PageTable} {geometry : Geometry} {addresses : List UInt32} {page : Nat}

theorem ext_lookup (agree : ∀ page, table.lookup page = other.lookup page) : table = other := by
  cases table
  cases other
  exact congrArg mk (Array.ext_getElem? agree)

/-! ### The marks of a run -/

/-- The table after a translation of each address. -/
def referencedAll (table : PageTable) (geometry : Geometry) : List UInt32 → PageTable
  | [] => table
  | address :: rest => (table.referenced geometry address).referencedAll geometry rest

/-- The address is one of the page, and has a place in memory. -/
def Backs (table : PageTable) (geometry : Geometry) (page : Nat) (address : UInt32) : Prop :=
  address.toNat / geometry.pageSize = page ∧
    ∃ physical, table.resolve geometry address = .ok physical

theorem backs_referenced {earlier address : UInt32} :
    (table.referenced geometry earlier).Backs geometry page address ↔
      table.Backs geometry page address := by
  rw [Backs, resolve_referenced, Backs]

theorem lookup_referenced_of_backs {address : UInt32} (backs : table.Backs geometry page address) :
    (table.referenced geometry address).lookup page = (table.lookup page).map Entry.markUsed := by
  obtain ⟨here, physical, resolved⟩ := backs
  rw [referenced_of_resolve resolved, lookup_markUsed, if_pos here]

theorem lookup_referenced_of_not_backs {address : UInt32}
    (apart : ¬ table.Backs geometry page address) :
    (table.referenced geometry address).lookup page = table.lookup page := by
  cases resolved : table.resolve geometry address with
  | error exception => rw [referenced_of_fault resolved]
  | ok physical =>
      have elsewhere : address.toNat / geometry.pageSize ≠ page :=
        fun here => apart ⟨here, physical, resolved⟩
      rw [referenced_of_resolve resolved, lookup_markUsed, if_neg elsewhere]

/-- A page that has its mark keeps it. -/
theorem map_markUsed_markUsed (entry : Option Entry) :
    (entry.map Entry.markUsed).map Entry.markUsed = entry.map Entry.markUsed := by
  cases entry <;> rfl

/-- A page without an address in the run stays as it was. -/
theorem lookup_referencedAll_of_not
    (apart : ∀ address ∈ addresses, ¬ table.Backs geometry page address) :
    (table.referencedAll geometry addresses).lookup page = table.lookup page := by
  induction addresses generalizing table with
  | nil => rfl
  | cons address rest inductionHypothesis =>
      obtain ⟨first, others⟩ := List.forall_mem_cons.mp apart
      rw [referencedAll, inductionHypothesis, lookup_referenced_of_not_backs first]
      exact fun later member backs => others later member (backs_referenced.mp backs)

/-- One address in the run is enough to mark its page, whatever the others do. -/
theorem lookup_referencedAll_of_exists
    (found : ∃ address ∈ addresses, table.Backs geometry page address) :
    (table.referencedAll geometry addresses).lookup page =
      (table.lookup page).map Entry.markUsed := by
  induction addresses generalizing table with
  | nil => simp at found
  | cons address rest inductionHypothesis =>
      rw [referencedAll]
      by_cases later : ∃ address ∈ rest, table.Backs geometry page address
      · -- The rest of the run marks the page, so the first address adds nothing to it.
        rw [inductionHypothesis (by simpa only [backs_referenced] using later)]
        by_cases first : table.Backs geometry page address
        · rw [lookup_referenced_of_backs first, map_markUsed_markUsed]
        · rw [lookup_referenced_of_not_backs first]
      · have first : table.Backs geometry page address := by
          simp only [List.mem_cons, exists_eq_or_imp] at found
          exact found.resolve_right later
        rw [lookup_referencedAll_of_not, lookup_referenced_of_backs first]
        exact fun other member backs => later ⟨other, member, backs_referenced.mp backs⟩

/-- The order and the number of the addresses do not matter. -/
theorem referencedAll_congr {others : List UInt32}
    (same : ∀ address, address ∈ others ↔ address ∈ addresses) :
    table.referencedAll geometry others = table.referencedAll geometry addresses := by
  apply ext_lookup
  intro page
  by_cases found : ∃ address ∈ addresses, table.Backs geometry page address
  · rw [lookup_referencedAll_of_exists found, lookup_referencedAll_of_exists]
    simpa only [same] using found
  · have apart : ∀ address ∈ addresses, ¬ table.Backs geometry page address :=
      fun address member backs => found ⟨address, member, backs⟩
    rw [lookup_referencedAll_of_not apart, lookup_referencedAll_of_not]
    simpa only [same] using apart

/-! ### Runs of translations -/

/-- Translations that follow each other all end, and each gives what its address has under the
first table. -/
theorem runAll_translate (valid : geometry.Valid) (bounded : geometry.bytes < Size.limit)
    (table : PageTable) (addresses : List UInt32) :
    runAll (translate geometry) table addresses =
      .ok (table.referencedAll geometry addresses, addresses.map (table.resolve geometry)) := by
  induction addresses generalizing table with
  | nil => rfl
  | cons address rest inductionHypothesis =>
      obtain ⟨events, ran⟩ := run_translate_of_valid valid bounded table address
      have later : (table.referenced geometry address).resolve geometry = table.resolve geometry :=
        funext fun _ => resolve_referenced table
      rw [runAll, ran]
      simp only [bind, Except.bind, inductionHypothesis, later, pure, Except.pure, referencedAll,
        List.map_cons]

theorem result_translate (valid : geometry.Valid) (bounded : geometry.bytes < Size.limit)
    (table : PageTable) (address : UInt32) :
    (translate geometry address).result table = .ok (table.resolve geometry address) := by
  obtain ⟨events, ran⟩ := run_translate_of_valid valid bounded table address
  rw [result, ran]
  rfl

/-- A translation of the run was of an address of the page and gave it a place. -/
def Answered (geometry : Geometry) (addresses : List UInt32)
    (results : List (Except Exception Nat)) (page : Nat) : Prop :=
  ∃ (position : Nat) (address : UInt32) (physical : Nat), addresses[position]? = some address ∧
    results[position]? = some (.ok physical) ∧ address.toNat / geometry.pageSize = page

theorem answered_iff : Answered geometry addresses (addresses.map (table.resolve geometry)) page ↔
    ∃ address ∈ addresses, table.Backs geometry page address := by
  constructor
  · rintro ⟨position, address, physical, held, answer, here⟩
    rw [List.getElem?_map, held, Option.map_some, Option.some.injEq] at answer
    exact ⟨address, List.mem_of_getElem? held, here, physical, answer⟩
  · rintro ⟨address, member, here, physical, resolved⟩
    obtain ⟨position, held⟩ := List.mem_iff_getElem?.mp member
    refine ⟨position, address, physical, held, ?_, here⟩
    rw [List.getElem?_map, held, Option.map_some, resolved]

/-- Translations of the addresses, one after the other from a table on, gave the results and left
the table `after`, without an influence of one on another.

Each result is the one that its address has under the first table. What is left is the mark of every
page of which an address was found, and all else is as it was. Any other sequence of the same
addresses, in another order or with some of them more often or less often, gives each of them the
same result and leaves the same table. -/
structure Independent (table : PageTable) (geometry : Geometry) (addresses : List UInt32)
    (results : List (Except Exception Nat)) (after : PageTable) : Prop where
  alone : addresses.map (fun address => (translate geometry address).result table) =
    results.map Except.ok
  marked : ∀ page, Answered geometry addresses results page →
    after.lookup page = (table.lookup page).map Entry.markUsed
  kept : ∀ page, ¬ Answered geometry addresses results page →
    after.lookup page = table.lookup page
  reordered : ∀ others : List UInt32, (∀ address, address ∈ others ↔ address ∈ addresses) →
    ∃ otherResults, runAll (translate geometry) table others = .ok (after, otherResults) ∧
      ∀ (position otherPosition : Nat) (address : UInt32), addresses[position]? = some address →
        others[otherPosition]? = some address → otherResults[otherPosition]? = results[position]?

theorem translations_independent (valid : geometry.Valid) (bounded : geometry.bytes < Size.limit)
    (table : PageTable) (addresses : List UInt32) :
    ∃ results after, runAll (translate geometry) table addresses = .ok (after, results) ∧
      Independent table geometry addresses results after := by
  refine ⟨_, _, runAll_translate valid bounded table addresses, ?_⟩
  constructor
  case alone =>
    rw [List.map_map]
    exact List.map_congr_left fun address _ => result_translate valid bounded table address
  case marked =>
    exact fun page answered => lookup_referencedAll_of_exists (answered_iff.mp answered)
  case kept =>
    intro page unanswered
    apply lookup_referencedAll_of_not
    exact fun address member backs => unanswered (answered_iff.mpr ⟨address, member, backs⟩)
  case reordered =>
    intro others same
    refine ⟨others.map (table.resolve geometry), ?_, ?_⟩
    · rw [runAll_translate valid bounded, referencedAll_congr same]
    · intro position otherPosition address held otherHeld
      rw [List.getElem?_map, List.getElem?_map, held, otherHeld]

/-- Of four translations under a torn table two are of one word and succeed, which shows on the
first page alone. So it does after the same addresses in another order, each of them once. -/
theorem translations_independent_torn :
    ∃ after, runAll (translate vastGeometry) tornTable [8, 16, 8, 6] =
        .ok (after, [.ok (vastGeometry.bytes - 4), .error .pageFault,
          .ok (vastGeometry.bytes - 4), .error .addressError]) ∧
      after.lookup 0 =
        some ⟨0, vastGeometry.frames - 1, { valid := true, used := true, dirty := true }⟩ ∧
      after.lookup 1 = tornTable.lookup 1 ∧
      ∃ results, runAll (translate vastGeometry) tornTable [6, 8, 16] = .ok (after, results) ∧
        results[1]? = some (.ok (vastGeometry.bytes - 4)) := by
  have valid : vastGeometry.Valid := by decide
  have bounded : vastGeometry.bytes < Size.limit := by decide
  obtain ⟨results, after, ran, independent⟩ :=
    translations_independent valid bounded tornTable [8, 16, 8, 6]
  have answers : results = [.ok (vastGeometry.bytes - 4), .error .pageFault,
      .ok (vastGeometry.bytes - 4), .error .addressError] :=
    (List.map_inj_right fun _ _ => Except.ok.inj).mp independent.alone.symm
  subst answers
  refine ⟨after, ran, ?_, ?_, ?_⟩
  · rw [independent.marked 0 ⟨0, 8, vastGeometry.bytes - 4, rfl, rfl, by decide⟩]
    decide
  · apply independent.kept
    rintro ⟨_ | _ | _ | _ | position, address, physical, held, answer, here⟩
    all_goals cases held <;> cases answer
    all_goals exact absurd here (by decide)
  · obtain ⟨others, again, same⟩ := independent.reordered [6, 8, 16] (by simp; grind)
    exact ⟨others, again, same 0 1 8 rfl rfl⟩

end PagedKernel.PageTable
