import OpenModelOps.KeyedTable
import Mathlib.Data.List.Nodup

namespace KeyedTable.Dict
variable {κ α : Type} [DecidableEq κ] {dict : Dict κ α} {k : κ} {value : α} {row : κ × α}

def others (dict : Dict κ α) (k : κ) : List (κ × α) := dict.rows.filter fun row => decide (row.1 ≠ k)

theorem others_unique (dict : Dict κ α) (k : κ) : ((others dict k).map Prod.fst).Nodup :=
  dict.unique.sublist (List.filter_sublist.map Prod.fst)

theorem others_fresh (dict : Dict κ α) (value : α) : (k,value).1 ∉ (others dict k).map Prod.fst := by
  simp [others]

-- move_to_end(key). A key that is not there raises a KeyError, which no caller
-- of this development can reach: the dictionary is then left as it is.
def moveToEnd (dict : Dict κ α) (k : κ) : Dict κ α :=
  match get dict k with
  | some value => ⟨others dict k ++ [(k,value)],snoc_unique (others_unique dict k) (others_fresh dict value)⟩
  | none => dict

-- while len(dict) > capacity: popitem(last=False).
def popWhile (capacity : Nat) : List (κ × α) → List (κ × α)
  | [] => []
  | row :: rest => if capacity < (row :: rest).length then popWhile capacity rest else row :: rest

omit [DecidableEq κ] in
theorem popWhile_suffix (capacity : Nat) (rows : List (κ × α)) : popWhile capacity rows <:+ rows := by
  induction rows with
  | nil => exact List.suffix_rfl
  | cons row rest ih =>
    unfold popWhile
    split
    · exact ih.trans (List.suffix_cons row rest)
    · exact List.suffix_rfl

omit [DecidableEq κ] in
theorem popWhile_length (capacity : Nat) (rows : List (κ × α)) : (popWhile capacity rows).length ≤ capacity := by
  induction rows with
  | nil => exact Nat.zero_le _
  | cons row rest ih =>
    unfold popWhile
    split
    · exact ih
    · rename_i within
      exact Nat.not_lt.mp within

def evict (capacity : Nat) (dict : Dict κ α) : Dict κ α :=
  ⟨popWhile capacity dict.rows,dict.unique.sublist ((popWhile_suffix capacity dict.rows).sublist.map Prod.fst)⟩

omit [DecidableEq κ] in
theorem evict_mem (member : row ∈ (evict capacity dict).rows) : row ∈ dict.rows :=
  (popWhile_suffix capacity dict.rows).subset member

theorem get_row : get dict k = some value ↔ (k,value) ∈ dict.rows := by
  simp only [get,Option.map_eq_some_iff]
  constructor
  · rintro ⟨row,found,rfl⟩
    have named : row.1 = k := Table.find_key found
    subst k
    exact Table.find_mem found
  · exact fun member => ⟨(k,value),Table.find_of_mem member,rfl⟩

theorem moveToEnd_mem : row ∈ (moveToEnd dict k).rows ↔ row ∈ dict.rows := by
  unfold moveToEnd
  split
  · rename_i value found
    simp only [others,List.mem_append,List.mem_filter,decide_eq_true_eq,List.mem_singleton]
    constructor
    · rintro (⟨member,_⟩ | rfl)
      · exact member
      · exact get_row.mp found
    · intro member
      by_cases here : row.1 = k
      · subst k
        have same : get dict row.1 = some row.2 := get_row.mpr member
        rw [found] at same
        exact .inr (Prod.ext rfl (Option.some.inj same).symm)
      · exact .inl ⟨member,here⟩
  · rfl

theorem moveToEnd_perm (dict : Dict κ α) (k : κ) : (moveToEnd dict k).rows.Perm dict.rows :=
  (List.perm_ext_iff_of_nodup (List.Nodup.of_map Prod.fst (moveToEnd dict k).unique)
    (List.Nodup.of_map Prod.fst dict.unique)).mpr fun _ => moveToEnd_mem

theorem set_mem (member : row ∈ (set dict k value).rows) : row = (k,value) ∨ row ∈ dict.rows := by
  have stored : get (set dict k value) row.1 = some row.2 := get_row.mpr member
  rw [get_set] at stored
  split at stored
  · rename_i here
    exact .inl (Prod.ext here (Option.some.inj stored).symm)
  · exact .inr (get_row.mp stored)

-- A dictionary built entry by entry. A key that comes again keeps its place and
-- takes the later value.
def ofRows (rows : List (κ × α)) : Dict κ α := rows.foldl (fun dict row => set dict row.1 row.2) Table.empty

theorem set_fresh (fresh : k ∉ dict.rows.map Prod.fst) : (set dict k value).rows = dict.rows ++ [(k,value)] := by
  have inserted : dict.insert (k,value) = some ⟨dict.rows ++ [(k,value)],snoc_unique dict.unique fresh⟩ := dif_pos fresh
  rw [set,inserted]

theorem ofRows_rows {rows : List (κ × α)} (unique : (rows.map Prod.fst).Nodup) : (ofRows rows).rows = rows := by
  have extended : ∀ (later : List (κ × α)) (dict : Dict κ α), ((dict.rows ++ later).map Prod.fst).Nodup →
      (later.foldl (fun dict row => set dict row.1 row.2) dict).rows = dict.rows ++ later := by
    intro later
    induction later with
    | nil => intro dict _; exact (List.append_nil _).symm
    | cons row later ih =>
      intro dict unique
      have fresh : row.1 ∉ dict.rows.map Prod.fst := by
        rw [List.map_append,List.map_cons] at unique
        exact fun member => (List.nodup_append.mp unique).2.2 _ member _ List.mem_cons_self rfl
      have rows : (set dict row.1 row.2).rows ++ later = dict.rows ++ row :: later := by
        rw [set_fresh fresh,List.append_assoc]
        rfl
      rw [List.foldl_cons,ih _ (by rw [rows]; exact unique),rows]
  exact extended rows Table.empty unique

theorem ofRows_eq (dict : Dict κ α) : ofRows dict.rows = dict := by
  have rows := ofRows_rows dict.unique
  generalize ofRows dict.rows = built at rows
  cases built
  cases dict
  cases rows
  rfl

theorem get_ofRows {rows : List (κ × α)} (moved : rows.Perm dict.rows) (k : κ) : get (ofRows rows) k = get dict k := by
  have unique : (rows.map Prod.fst).Nodup := (moved.map Prod.fst).nodup_iff.mpr dict.unique
  refine Option.ext fun value => ?_
  rw [get_row,get_row,ofRows_rows unique,moved.mem_iff]

theorem rows_perm_iff {left right : Dict κ α} : left.rows.Perm right.rows ↔ ∀ k, get left k = get right k := by
  rw [List.perm_ext_iff_of_nodup (List.Nodup.of_map Prod.fst left.unique) (List.Nodup.of_map Prod.fst right.unique)]
  constructor
  · intro same k
    refine Option.ext fun value => ?_
    rw [get_row,get_row,same]
  · rintro same ⟨k,value⟩
    rw [← get_row,← get_row,same]

theorem eq_of_gets {left right : Dict κ α} (keys : left.rows.map Prod.fst = right.rows.map Prod.fst)
    (values : ∀ name, get left name = get right name) : left = right := by
  have rows : ∀ dict : Dict κ α, dict.rows.map some =
      (dict.rows.map Prod.fst).map fun name => (get dict name).map fun value => (name,value) := by
    intro dict
    rw [List.map_map]
    refine List.map_congr_left fun row member => ?_
    simp [get_row.mpr member]
  have same : left.rows.map some = right.rows.map some := by
    rw [rows left,rows right,keys]
    exact List.map_congr_left fun name _ => by rw [values name]
  cases left
  cases right
  cases List.map_injective_iff.mpr (fun _ _ => Option.some.inj) same
  rfl

theorem get_ofRows_last (rows : List (κ × α)) (k : κ) :
    get (ofRows rows) k = (rows.reverse.find? fun row => decide (row.1 = k)).map Prod.snd := by
  have folded : ∀ dict : Dict κ α, get (rows.foldl (fun dict row => set dict row.1 row.2) dict) k =
      ((rows.reverse.find? fun row => decide (row.1 = k)).map Prod.snd).or (get dict k) := by
    induction rows with
    | nil => simp
    | cons row rest ih =>
      intro dict
      rw [List.foldl_cons,ih,get_set,List.reverse_cons,List.find?_append,List.find?_singleton]
      by_cases same : row.1 = k
      · cases rest.reverse.find? fun row => decide (row.1 = k) <;> simp [same]
      · cases rest.reverse.find? fun row => decide (row.1 = k) <;> simp [same,Ne.symm same]
  rw [ofRows,folded]
  simp [get,Table.find,Table.empty]

-- d = dict.setdefault(key(a), start), and a is added to d.
def accumulate (key : α → κ) (start : β) (add : β → α → β) (items : List α) : Dict κ β :=
  items.foldl (fun dict a => set dict (key a) (add ((get dict (key a)).getD start) a)) Table.empty

theorem accumulate_getD (key : α → κ) (start : β) (add : β → α → β) (items : List α) (k : κ) :
    (get (accumulate key start add items) k).getD start = (items.filter fun a => decide (key a = k)).foldl add start := by
  have folded : ∀ dict : Dict κ β,
      (get (items.foldl (fun dict a => set dict (key a) (add ((get dict (key a)).getD start) a)) dict) k).getD start =
        (items.filter fun a => decide (key a = k)).foldl add ((get dict k).getD start) := by
    induction items with
    | nil => exact fun _ => rfl
    | cons a rest ih =>
      intro dict
      rw [List.foldl_cons,ih,get_set]
      by_cases same : key a = k
      · simp [same]
      · simp [same,Ne.symm same]
  rw [accumulate,folded]
  rfl

end KeyedTable.Dict
