import Mathlib.Data.List.Nodup
import Mosaic.Table

/-!
# The keys of a table

`Table.keys` lists the keys of a table, so that the size of a table can be counted. The operations
keep each key to one pair, whatever the table: `nodup_keys_insert` and `nodup_keys_erase`.
-/

namespace Mosaic

namespace Table

variable {κ α : Type}

/-- The keys of the pairs, the latest first. -/
def keys (t : Table κ α) : List κ := t.entries.map Prod.fst

theorem length_keys (t : Table κ α) : t.keys.length = t.size := List.length_map _

variable [DecidableEq κ]

theorem keys_erase (t : Table κ α) (k : κ) : (t.erase k).keys = t.keys.filter (· ≠ k) := by
  rw [keys, erase, without, keys, List.filter_map]
  rfl

theorem keys_insert (t : Table κ α) (k : κ) (a : α) :
    (t.insert k a).keys = k :: t.keys.filter (· ≠ k) := by
  rw [← keys_erase]
  rfl

theorem nodup_keys_erase {t : Table κ α} (h : t.keys.Nodup) (k : κ) : (t.erase k).keys.Nodup := by
  rw [keys_erase]
  exact h.filter _

theorem nodup_keys_insert {t : Table κ α} (h : t.keys.Nodup) (k : κ) (a : α) :
    (t.insert k a).keys.Nodup := by
  rw [keys_insert]
  refine List.nodup_cons.2 ⟨?_, h.filter _⟩
  intro hk
  simpa using (List.mem_filter.1 hk).2

theorem get?_insert (t : Table κ α) (k j : κ) (a : α) :
    (t.insert k a).get? j = if j = k then some a else t.get? j := by
  split
  · rename_i h
    rw [h, get?_insert_self]
  · rename_i h
    exact get?_insert_of_ne h t a

theorem get?_erase (t : Table κ α) (k j : κ) :
    (t.erase k).get? j = if j = k then none else t.get? j := by
  split
  · rename_i h
    rw [h, get?_erase_self]
  · rename_i h
    exact get?_erase_of_ne h t

theorem mem_keys_iff {t : Table κ α} {k : κ} : k ∈ t.keys ↔ (t.get? k).isSome := by
  obtain ⟨entries⟩ := t
  simp only [keys, get?]
  induction entries with
  | nil => simp [lookup]
  | cons entry rest ih =>
      rw [List.map_cons, List.mem_cons, ih, lookup]
      by_cases h : entry.1 = k
      · simp [h]
      · simp [h, Ne.symm h]

end Table

end Mosaic
