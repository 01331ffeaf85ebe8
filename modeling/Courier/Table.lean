/-!
# Tables

A table holds one value for each of its keys and remembers the order in which the keys first
arrived. The laws below say what each operation does to look-ups.
-/
namespace Courier

/-- One value for each key, in the order in which the keys first arrived. -/
structure Table (κ : Type) (ν : Type) where
  entries : List (κ × ν)
  distinct : (entries.map Prod.fst).Nodup

namespace Table

variable {κ ν : Type}

instance [DecidableEq κ] [DecidableEq ν] : DecidableEq (Table κ ν) := fun a b =>
  if same : a.entries = b.entries then
    .isTrue (by cases a; cases b; simpa using same)
  else .isFalse (fun equal => same (congrArg Table.entries equal))

def empty : Table κ ν := ⟨[], List.nodup_nil⟩

instance : Inhabited (Table κ ν) := ⟨empty⟩

def keys (t : Table κ ν) : List κ := t.entries.map Prod.fst

def size (t : Table κ ν) : Nat := t.entries.length

def filterKeys (keep : κ → Bool) (t : Table κ ν) : Table κ ν :=
  ⟨t.entries.filter (fun e => keep e.1), by
    have kept := t.distinct.sublist ((List.filter_sublist (p := fun e => keep e.1)).map Prod.fst)
    exact kept⟩

variable [DecidableEq κ]

/-- The value of a key in a list of entries. -/
def valueIn (k : κ) : List (κ × ν) → Option ν
  | [] => none
  | (k', v) :: rest => if k' = k then some v else valueIn k rest

def get? (t : Table κ ν) (k : κ) : Option ν := valueIn k t.entries

def contains (t : Table κ ν) (k : κ) : Bool := (t.get? k).isSome

/-- A list of entries in which a key has a given value: in place if it was there, else at the end. -/
def writtenTo (k : κ) (v : ν) : List (κ × ν) → List (κ × ν)
  | [] => [(k, v)]
  | (k', v') :: rest => if k' = k then (k, v) :: rest else (k', v') :: writtenTo k v rest

theorem mem_keys_writtenTo (k x : κ) (v : ν) (es : List (κ × ν)) :
    x ∈ (writtenTo k v es).map Prod.fst ↔ x = k ∨ x ∈ es.map Prod.fst := by
  induction es with
  | nil => simp [writtenTo]
  | cons e rest ih =>
    obtain ⟨k', v'⟩ := e
    by_cases same : k' = k
    · subst same; simp [writtenTo]
    · simp only [writtenTo, same, if_false, List.map_cons, List.mem_cons, ih]
      constructor
      · rintro (h | h | h) <;> simp [h]
      · rintro (h | h | h) <;> simp [h]

theorem nodup_writtenTo (k : κ) (v : ν) (es : List (κ × ν)) (distinct : (es.map Prod.fst).Nodup) :
    ((writtenTo k v es).map Prod.fst).Nodup := by
  induction es with
  | nil => simp [writtenTo]
  | cons e rest ih =>
    obtain ⟨k', v'⟩ := e
    simp only [List.map_cons, List.nodup_cons] at distinct
    by_cases same : k' = k
    · subst same; simpa [writtenTo] using distinct
    · simp only [writtenTo, same, if_false, List.map_cons, List.nodup_cons]
      refine ⟨?_, ih distinct.2⟩
      rw [mem_keys_writtenTo]
      rintro (h | h)
      · exact same h
      · exact distinct.1 h

/-- Gives a key a value. A key that was there keeps its place. -/
def insert (t : Table κ ν) (k : κ) (v : ν) : Table κ ν :=
  ⟨writtenTo k v t.entries, nodup_writtenTo k v t.entries t.distinct⟩

def erase (t : Table κ ν) (k : κ) : Table κ ν := t.filterKeys (fun k' => k' ≠ k)

/-! ## Look-ups -/

theorem valueIn_writtenTo (k x : κ) (v : ν) (es : List (κ × ν)) :
    valueIn x (writtenTo k v es) = if k = x then some v else valueIn x es := by
  induction es with
  | nil => simp [writtenTo, valueIn]
  | cons e rest ih =>
    obtain ⟨k', v'⟩ := e
    by_cases same : k' = k
    · subst same
      by_cases hit : k' = x <;> simp [writtenTo, valueIn, hit]
    · by_cases hit : k' = x
      · subst hit
        simp [writtenTo, same, valueIn, Ne.symm same]
      · simp [writtenTo, same, valueIn, hit, ih]

@[simp] theorem get?_empty (k : κ) : (empty : Table κ ν).get? k = none := rfl

theorem get?_insert (t : Table κ ν) (k x : κ) (v : ν) :
    (t.insert k v).get? x = if k = x then some v else t.get? x := valueIn_writtenTo k x v t.entries

theorem valueIn_filter (keep : κ → Bool) (x : κ) (es : List (κ × ν)) :
    valueIn x (es.filter (fun e => keep e.1)) = if keep x then valueIn x es else none := by
  induction es with
  | nil => simp [valueIn]
  | cons e rest ih =>
    obtain ⟨k', v'⟩ := e
    by_cases kept : keep k' = true
    · rw [List.filter_cons_of_pos (by simpa using kept)]
      by_cases hit : k' = x
      · subst hit; simp [valueIn, kept]
      · simp [valueIn, hit, ih]
    · rw [List.filter_cons_of_neg (by simpa using kept), ih]
      by_cases hit : k' = x
      · subst hit; simp [kept]
      · simp [valueIn, hit]

theorem get?_filterKeys (t : Table κ ν) (keep : κ → Bool) (x : κ) :
    (t.filterKeys keep).get? x = if keep x then t.get? x else none := valueIn_filter keep x t.entries

theorem get?_erase (t : Table κ ν) (k x : κ) :
    (t.erase k).get? x = if k = x then none else t.get? x := by
  rw [erase, get?_filterKeys]
  by_cases hit : k = x
  · subst hit; simp
  · simp [hit, Ne.symm hit]

end Table
end Courier
