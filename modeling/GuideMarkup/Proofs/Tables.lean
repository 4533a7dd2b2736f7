import GuideMarkup.Data.Basic

/-!
# Proofs/Tables — what tables hold

    insert   ↦  the entry in the place of the old one of its key, or at the end
    update   ↦  the last of the new entries of a key, or else the old one

A table that insertions have built has no key twice (`Table.Distinct`).  Then its entries are just
what is read from it (`Table.Distinct.mem_iff_lookup`).
-/

namespace GuideMarkup
namespace Table

/-! ## Insertions and updates -/

/-- An entry that is replaced by one that reads alike changes nothing of what is read. -/
theorem map_insert_of_lookup {κ α β : Type} [BEq κ] [LawfulBEq κ] {table : Table κ α}
    {key : κ} {old new : α} (read : α → β) (there : table.lookup key = some old)
    (same : read new = read old) : (table.insert key new).map (fun (k, v) => (k, read v)) =
      table.map fun (k, v) => (k, read v) := by
  induction table with
  | nil => exact absurd there nofun
  | cons entry rest ih =>
    obtain ⟨k, v⟩ := entry
    rw [List.lookup_cons] at there
    by_cases here : k = key
    · subst here
      rw [beq_self_eq_true] at there
      obtain rfl : v = old := Option.some.inj there
      simp [insert, same]
    · rw [beq_eq_false_iff_ne.mpr (Ne.symm here)] at there
      simpa [insert, here] using ih there

section Updates

variable {κ α : Type} [BEq κ] [EquivBEq κ]

theorem lookup_update_reverse (entries : Table κ α) (key : κ) : ∀ table : Table κ α,
    (table.update entries).lookup key = (entries.reverse.lookup key).or (table.lookup key) := by
  -- each entry is put into the table before the rest, so the table changes along the induction
  induction entries with
  | nil => exact fun _ => rfl
  | cons entry rest ih =>
    intro table
    obtain ⟨name, value⟩ := entry
    rw [update, List.foldl_cons, ← update, ih, lookup_insert, List.reverse_cons, List.lookup_append,
      Option.or_assoc, List.lookup_cons]
    cases key == name <;> rfl

/-- **A table that was updated** has the last of the new entries for a key, or else the old one. -/
theorem lookup_update (table entries : Table κ α) (key : κ) :
    (table.update entries).lookup key =
      ((ofEntries entries).lookup key).or (table.lookup key) := by
  rw [lookup_update_reverse, ofEntries, lookup_update_reverse, List.lookup_nil, Option.or_none]

end Updates

/-! ## Tables without repetitions -/

variable {κ α : Type} [BEq κ]

/-- No two entries have the same key. -/
def Distinct (table : Table κ α) : Prop :=
  table.Pairwise fun entry other => (entry.1 == other.1) = false

theorem distinct_iff {table : Table κ α} : table.Distinct ↔
    (table.map Prod.fst).Pairwise fun key other => (key == other) = false := by
  rw [List.pairwise_map]
  rfl

theorem insert_of_forall {table : Table κ α} {key : κ} (fresh : ∀ entry ∈ table,
    (entry.1 == key) = false) (value : α) : table.insert key value = table ++ [(key, value)] := by
  induction table with
  | nil => rfl
  | cons entry rest ih =>
    obtain ⟨other, others⟩ := List.forall_mem_cons.mp fresh
    rw [insert, other, ih others]
    rfl

theorem update_of_distinct {table entries : Table κ α} (distinct : (table ++ entries).Distinct) :
    table.update entries = table ++ entries := by
  induction entries generalizing table with
  | nil => simp [update]
  | cons entry rest ih =>
    have fresh : ∀ old ∈ table, (old.1 == entry.1) = false := fun old member =>
      (List.pairwise_append.mp distinct).2.2 old member entry List.mem_cons_self
    have inserted : table.update (entry :: rest) = (table ++ [entry]).update rest :=
      congrArg (update · rest) (insert_of_forall fresh entry.2)
    rw [inserted, ih (by simpa using distinct), List.append_assoc]
    rfl

/-- **A table without repetitions is the table of its entries.** -/
theorem ofEntries_of_distinct {entries : Table κ α} (distinct : Distinct entries) :
    ofEntries entries = entries :=
  update_of_distinct distinct

theorem map_fst_insert (table : Table κ α) (key : κ) (value : α) :
    (table.insert key value).map Prod.fst =
      if table.any (·.1 == key) then table.map Prod.fst else table.map Prod.fst ++ [key] := by
  induction table with
  | nil => rfl
  | cons entry rest ih =>
    obtain ⟨old, content⟩ := entry
    by_cases same : old == key
    · simp [insert, same]
    · rw [insert, if_neg same, List.map_cons, ih]
      by_cases known : rest.any (·.1 == key) <;> simp [same, known]

theorem Distinct.insert {table : Table κ α} (distinct : table.Distinct) (key : κ) (value : α) :
    (table.insert key value).Distinct := by
  rw [distinct_iff] at distinct ⊢
  rw [map_fst_insert]
  split
  · exact distinct
  · rename_i unknown
    refine List.pairwise_append.mpr ⟨distinct, List.pairwise_singleton _ _, fun k member => ?_⟩
    obtain ⟨entry, inTable, rfl⟩ := List.mem_map.mp member
    simp only [List.any_eq_true, not_exists, not_and, Bool.not_eq_true] at unknown
    simpa using unknown entry inTable

theorem Distinct.update {table : Table κ α} (distinct : table.Distinct) (entries : Table κ α) :
    (table.update entries).Distinct := by
  induction entries generalizing table with
  | nil => exact distinct
  | cons entry rest ih => exact ih (distinct.insert entry.1 entry.2)

/-- **A table of entries is without repetitions.** -/
theorem distinct_ofEntries (entries : Table κ α) : (ofEntries entries).Distinct :=
  Distinct.update .nil entries

theorem mem_of_lookup [LawfulBEq κ] {table : Table κ α} {key : κ} {value : α}
    (known : table.lookup key = some value) : (key, value) ∈ table := by
  obtain ⟨front, back, rfl, -⟩ := List.lookup_eq_some_iff.mp known
  exact List.mem_append_right _ List.mem_cons_self

theorem Distinct.lookup_of_mem [EquivBEq κ] {table : Table κ α} (distinct : table.Distinct)
    {key : κ} {value : α} (member : (key, value) ∈ table) : table.lookup key = some value := by
  induction table with
  | nil => exact absurd member List.not_mem_nil
  | cons entry rest ih =>
    obtain ⟨others, distinct⟩ := List.pairwise_cons.mp distinct
    rw [List.lookup_cons]
    rcases List.mem_cons.mp member with rfl | member
    · rw [BEq.rfl]
    · rw [BEq.comm, others _ member]
      exact ih distinct member

/-- **The entries of a table without repetitions** are those that are read from it. -/
theorem Distinct.mem_iff_lookup [LawfulBEq κ] {table : Table κ α} (distinct : table.Distinct)
    {key : κ} {value : α} : (key, value) ∈ table ↔ table.lookup key = some value :=
  ⟨distinct.lookup_of_mem, mem_of_lookup⟩

end Table
end GuideMarkup
