import Mathlib.Algebra.Order.Ring.Nat
import Courier.Table

/-!
The entries of a table, up to their order: writing a key leaves the other entries alone, and a
measure of the values adds up accordingly.
-/
namespace Courier.Table
variable {κ ν : Type}

/-- What a measure of the values adds up to over the whole table. -/
def total (measure : ν → Nat) (t : Table κ ν) : Nat := (t.entries.map (fun e => measure e.2)).sum

variable [DecidableEq κ]

private theorem mem_keys_of_valueIn {k : κ} {v : ν} {es : List (κ × ν)} (found : valueIn k es = some v) :
    (k, v) ∈ es := by
  induction es with
  | nil => simp [valueIn] at found
  | cons e rest ih =>
    obtain ⟨k', v'⟩ := e
    by_cases same : k' = k
    · subst same
      have value : v' = v := by simpa [valueIn] using found
      simp [value]
    · exact List.mem_cons_of_mem _ (ih (by simpa [valueIn, same] using found))

private theorem valueIn_of_mem {k : κ} {v : ν} {es : List (κ × ν)} (distinct : (es.map Prod.fst).Nodup)
    (member : (k, v) ∈ es) : valueIn k es = some v := by
  induction es with
  | nil => simp at member
  | cons e rest ih =>
    obtain ⟨k', v'⟩ := e
    simp only [List.map_cons, List.nodup_cons] at distinct
    rcases List.mem_cons.mp member with same | later
    · cases same
      simp [valueIn]
    · have different : k' ≠ k := by
        rintro rfl
        exact distinct.1 (List.mem_map.mpr ⟨_, later, rfl⟩)
      simp [valueIn, different, ih distinct.2 later]

theorem get?_eq_some_iff {t : Table κ ν} {k : κ} {v : ν} : t.get? k = some v ↔ (k, v) ∈ t.entries :=
  ⟨mem_keys_of_valueIn, valueIn_of_mem t.distinct⟩

theorem contains_eq_true_iff {t : Table κ ν} {k : κ} : t.contains k = true ↔ ∃ v, t.get? k = some v := by
  simp [contains, Option.isSome_iff_exists]

private theorem filter_ne_of_absent {k : κ} {es : List (κ × ν)} (absent : k ∉ es.map Prod.fst) :
    es.filter (fun e => decide (e.1 ≠ k)) = es := by
  refine List.filter_eq_self.mpr (fun e member => ?_)
  have different : e.1 ≠ k := fun same => absent (List.mem_map.mpr ⟨e, member, same⟩)
  simpa using different

private theorem writtenTo_perm (k : κ) (v : ν) {es : List (κ × ν)} (distinct : (es.map Prod.fst).Nodup) :
    (writtenTo k v es).Perm ((k, v) :: es.filter (fun e => decide (e.1 ≠ k))) := by
  induction es with
  | nil => simp [writtenTo]
  | cons e rest ih =>
    obtain ⟨k', v'⟩ := e
    simp only [List.map_cons, List.nodup_cons] at distinct
    by_cases same : k' = k
    · subst same
      rw [List.filter_cons_of_neg (by simp), filter_ne_of_absent distinct.1]
      simp [writtenTo]
    · rw [List.filter_cons_of_pos (by simpa using same)]
      simp only [writtenTo, same, if_false]
      exact ((ih distinct.2).cons (k', v')).trans (List.Perm.swap ..)

/-- Giving a key a value leaves the entries of all other keys as they are. -/
theorem entries_insert_perm (t : Table κ ν) (k : κ) (v : ν) :
    (t.insert k v).entries.Perm ((k, v) :: (t.erase k).entries) :=
  writtenTo_perm k v t.distinct

theorem entries_perm_of_get? {t : Table κ ν} {k : κ} {v : ν} (found : t.get? k = some v) :
    t.entries.Perm ((k, v) :: (t.erase k).entries) := by
  have unchanged : writtenTo k v t.entries = t.entries := by
    have member := mem_keys_of_valueIn found
    have distinct := t.distinct
    generalize t.entries = es at member distinct
    induction es with
    | nil => simp at member
    | cons e rest ih =>
      obtain ⟨k', v'⟩ := e
      simp only [List.map_cons, List.nodup_cons] at distinct
      rcases List.mem_cons.mp member with same | later
      · cases same
        simp [writtenTo]
      · have different : k' ≠ k := by
          rintro rfl
          exact distinct.1 (List.mem_map.mpr ⟨_, later, rfl⟩)
        simp [writtenTo, different, ih later distinct.2]
  have written := writtenTo_perm k v t.distinct
  rw [unchanged] at written
  exact written

theorem entries_erase_of_get?_none {t : Table κ ν} {k : κ} (absent : t.get? k = none) :
    (t.erase k).entries = t.entries := by
  refine filter_ne_of_absent (fun member => ?_)
  obtain ⟨e, inside, same⟩ := List.mem_map.mp member
  have found : t.get? k = some e.2 := get?_eq_some_iff.mpr (same ▸ inside)
  rw [absent] at found
  cases found

/-- The entries of a table: that of one key, if it has a value, and all others. -/
theorem entries_perm (t : Table κ ν) (k : κ) :
    t.entries.Perm ((t.get? k).toList.map (fun v => (k, v)) ++ (t.erase k).entries) := by
  cases found : t.get? k with
  | none => simp [entries_erase_of_get?_none found]
  | some v => simpa using entries_perm_of_get? found

/-- What a measure adds up to: its value for one key, and the sum for all others. -/
theorem total_eq (t : Table κ ν) (k : κ) (measure : ν → Nat) :
    t.total measure = ((t.get? k).map measure).getD 0 + (t.erase k).total measure := by
  have sums := ((t.entries_perm k).map (fun e => measure e.2)).sum_nat
  cases found : t.get? k with
  | none => simpa [found, total] using sums
  | some v => simpa [found, total] using sums

end Courier.Table
