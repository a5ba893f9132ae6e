import Mathlib.Data.List.Basic

namespace KeyedTable

-- A relational table with a primary key. Two rows of one key cannot be built.
structure Table (key : ρ → κ) where
  rows : List ρ
  unique : (rows.map key).Nodup

-- The SET part of an UPDATE. No statement of a keyed table assigns the key.
structure Assignment (key : ρ → κ) where
  apply : ρ → ρ
  keeps : ∀ row, key (apply row) = key row

variable {ρ κ : Type} [DecidableEq κ] {key : ρ → κ}

omit [DecidableEq κ] in
theorem snoc_unique {rows : List ρ} {row : ρ} (unique : (rows.map key).Nodup) (fresh : key row ∉ rows.map key) :
    ((rows ++ [row]).map key).Nodup := by
  rw [List.map_append,List.map_singleton]
  refine List.nodup_append.mpr ⟨unique,by simp,?_⟩
  rintro a inside b single rfl
  exact fresh (List.mem_singleton.mp single ▸ inside)

namespace Table

def empty : Table key := ⟨[],.nil⟩

-- SELECT ... WHERE key = ?
def find (table : Table key) (k : κ) : Option ρ :=
  table.rows.find? (fun row => decide (key row = k))

-- INSERT; none is the integrity error of a key that is already present.
def insert (table : Table key) (row : ρ) : Option (Table key) :=
  if fresh : key row ∉ table.rows.map key then
    some ⟨table.rows ++ [row],snoc_unique table.unique fresh⟩
  else none

def matched (key : ρ → κ) (k : κ) (guard : ρ → Bool) (row : ρ) : Bool := decide (key row = k) && guard row

omit [DecidableEq κ] in
theorem rewritten_keys (rows : List ρ) (choose : ρ → Bool) (change : Assignment key) :
    (rows.map (fun row => if choose row then change.apply row else row)).map key = rows.map key := by
  rw [List.map_map]
  refine List.map_congr_left fun row _ => ?_
  by_cases chosen : choose row = true <;> simp [chosen,change.keeps]

-- UPDATE ... SET change WHERE key = k AND guard, with its rowcount.
def update (table : Table key) (k : κ) (guard : ρ → Bool) (change : Assignment key) : Table key × Nat :=
  (⟨table.rows.map (fun row => if matched key k guard row then change.apply row else row),by
      rw [rewritten_keys]; exact table.unique⟩,
    table.rows.countP (matched key k guard))

theorem find_key {table : Table key} (found : table.find k = some row) : key row = k := by
  have chosen := List.find?_some found
  simpa using chosen

theorem find_mem {table : Table key} (found : table.find k = some row) : row ∈ table.rows :=
  List.mem_of_find?_eq_some found

theorem find_of_mem {table : Table key} (member : row ∈ table.rows) : table.find (key row) = some row := by
  obtain ⟨rows,unique⟩ := table
  simp only [find]
  induction rows with
  | nil => cases member
  | cons head rest ih =>
    simp only [List.map_cons,List.nodup_cons] at unique
    rcases List.mem_cons.mp member with rfl | inside
    · simp
    · have other : key head ≠ key row := fun same => unique.1 (same ▸ List.mem_map_of_mem inside)
      simp only [List.find?_cons,other,decide_false]
      exact ih unique.2 inside

theorem find_none_iff {table : Table key} : table.find k = none ↔ k ∉ table.rows.map key := by
  simp [find,List.find?_eq_none]

theorem insert_fresh {table next : Table key} (inserted : table.insert row = some next) :
    table.find (key row) = none := by
  unfold insert at inserted
  split at inserted
  · rename_i fresh; exact find_none_iff.mpr fresh
  · cases inserted

theorem insert_of_fresh {table : Table key} (fresh : table.find (key row) = none) :
    ∃ next, table.insert row = some next := by
  unfold insert
  rw [dif_pos (find_none_iff.mp fresh)]
  exact ⟨_,rfl⟩

theorem find_insert {table next : Table key} (inserted : table.insert row = some next) (k : κ) :
    next.find k = if k = key row then some row else table.find k := by
  have fresh := insert_fresh inserted
  unfold insert at inserted
  split at inserted
  · cases Option.some.inj inserted
    simp only [find,List.find?_append]
    by_cases same : k = key row
    · subst k; simp only [find] at fresh; simp [fresh]
    · have other : key row ≠ k := fun equal => same equal.symm
      simp [same,other]
  · cases inserted

theorem find_update (table : Table key) (k j : κ) (guard : ρ → Bool) (change : Assignment key) :
    (table.update k guard change).1.find j =
      if j = k then (table.find k).map (fun row => if guard row then change.apply row else row)
      else table.find j := by
  obtain ⟨rows,unique⟩ := table
  simp only [update,find]
  clear unique
  induction rows with
  | nil => simp
  | cons head rest ih =>
    have kept : key (if matched key k guard head then change.apply head else head) = key head := by
      split <;> simp [change.keeps]
    simp only [List.map_cons,List.find?_cons,kept]
    by_cases here : key head = j
    · subst j
      by_cases same : key head = k
      · subst k; simp [matched]
      · simp [matched,same]
    · by_cases same : j = k
      · subst j; simpa [here] using ih
      · by_cases at_k : key head = k
        · simpa [here,same] using ih
        · simpa [here,same,at_k] using ih

-- A key matches at most one row, so the rowcount is 1 exactly when the row of
-- the key is present and satisfies the guard.
theorem rowcount_eq (table : Table key) (k : κ) (guard : ρ → Bool) (change : Assignment key) :
    (table.update k guard change).2 = if (table.find k).any guard then 1 else 0 := by
  obtain ⟨rows,unique⟩ := table
  change rows.countP (matched key k guard) =
    if (rows.find? (fun row => decide (key row = k))).any guard then 1 else 0
  induction rows with
  | nil => rfl
  | cons head rest ih =>
    simp only [List.map_cons,List.nodup_cons] at unique
    rw [List.countP_cons,ih unique.2,List.find?_cons]
    by_cases here : key head = k
    · have gone : rest.find? (fun row => decide (key row = k)) = none := by
        simp only [List.find?_eq_none,decide_eq_true_eq]
        intro row inside same
        exact unique.1 (here.trans same.symm ▸ List.mem_map_of_mem inside)
      cases guarded : guard head <;> simp [matched,here,gone,guarded]
    · simp [matched,here]

theorem update_matched {table : Table key} {k : κ} {guard : ρ → Bool} {change : Assignment key}
    (hit : (table.update k guard change).2 = 1) :
    ∃ row, table.find k = some row ∧ guard row = true ∧
      ∀ j, (table.update k guard change).1.find j = if j = k then some (change.apply row) else table.find j := by
  rw [rowcount_eq] at hit
  cases found : table.find k with
  | none => simp [found] at hit
  | some row =>
    have guarded : guard row = true := by
      by_contra refused
      simp [found,refused] at hit
    refine ⟨row,rfl,guarded,fun j => ?_⟩
    rw [find_update,found]
    simp [guarded]

end Table

-- A dictionary that keeps insertion order: assignment to a present key changes
-- the value in place, assignment to a new key appends.
abbrev Dict (κ α : Type) := Table (Prod.fst : κ × α → κ)

namespace Dict
variable {α : Type}

def get (dict : Dict κ α) (k : κ) : Option α := (dict.find k).map Prod.snd

def values (dict : Dict κ α) : List α := dict.rows.map Prod.snd

def assign (value : α) : Assignment (Prod.fst : κ × α → κ) where
  apply row := (row.1,value)
  keeps _ := rfl

def set (dict : Dict κ α) (k : κ) (value : α) : Dict κ α :=
  match dict.insert (k,value) with
  | some extended => extended
  | none => (dict.update k (fun _ => true) (assign value)).1

theorem get_set (dict : Dict κ α) (k j : κ) (value : α) :
    get (set dict k value) j = if j = k then some value else get dict j := by
  unfold set get
  cases inserted : dict.insert (k,value) with
  | some extended =>
    rw [Table.find_insert inserted]
    by_cases same : j = k <;> simp [same]
  | none =>
    have present : ∃ row, dict.find k = some row := by
      cases found : dict.find k with
      | some row => exact ⟨row,rfl⟩
      | none =>
        obtain ⟨extended,done⟩ := @Table.insert_of_fresh _ _ _ _ (k,value) dict found
        rw [done] at inserted; cases inserted
    obtain ⟨row,found⟩ := present
    rw [Table.find_update,found]
    by_cases same : j = k <;> simp [same,assign]

@[simp] theorem get_set_self (dict : Dict κ α) (k : κ) (value : α) :
    get (set dict k value) k = some value := by simp [get_set]

theorem mem_values_iff {dict : Dict κ α} {value : α} :
    value ∈ values dict ↔ ∃ k, get dict k = some value := by
  simp only [values,List.mem_map,get,Option.map_eq_some_iff]
  constructor
  · rintro ⟨row,member,rfl⟩; exact ⟨row.1,row,Table.find_of_mem member,rfl⟩
  · rintro ⟨k,row,found,rfl⟩; exact ⟨row,Table.find_mem found,rfl⟩

end Dict
end KeyedTable
