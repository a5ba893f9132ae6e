import OpenModelOps.OrderedDict

namespace KeyedTable
variable {ρ σ κ : Type} [DecidableEq κ] {key : ρ → κ} {coded : σ → κ} {f : ρ → σ} {keeps : ∀ row, coded (f row) = key row}

namespace Table

omit [DecidableEq κ] in
theorem recoded_keys (keeps : ∀ row, coded (f row) = key row) (rows : List ρ) : (rows.map f).map coded = rows.map key := by
  rw [List.map_map]
  exact List.map_congr_left fun row _ => keeps row

def recode (f : ρ → σ) (keeps : ∀ row, coded (f row) = key row) (table : Table key) : Table coded :=
  ⟨table.rows.map f,by rw [recoded_keys keeps]; exact table.unique⟩

theorem find_recode (table : Table key) (k : κ) : (table.recode f keeps).find k = (table.find k).map f := by
  rw [find,recode,List.find?_map,find]
  congr 2
  funext row
  exact congrArg (fun j => decide (j = k)) (keeps row)

theorem insert_recode (table : Table key) (row : ρ) :
    (table.recode f keeps).insert (f row) = (table.insert row).map (recode f keeps) := by
  have keys : (table.recode f keeps).rows.map coded = table.rows.map key := recoded_keys keeps table.rows
  unfold insert
  by_cases fresh : key row ∉ table.rows.map key
  · rw [dif_pos (by rw [keys,keeps]; exact fresh),dif_pos fresh]
    simp [recode]
  · rw [dif_neg (by rw [keys,keeps]; exact fresh),dif_neg fresh]
    rfl

theorem update_recode (table : Table key) (k : κ) {guard : ρ → Bool} {codedGuard : σ → Bool} {change : Assignment key}
    {codedChange : Assignment coded} (guards : ∀ row, codedGuard (f row) = guard row)
    (changes : ∀ row, codedChange.apply (f row) = f (change.apply row)) :
    (table.recode f keeps).update k codedGuard codedChange =
      ((table.update k guard change).1.recode f keeps,(table.update k guard change).2) := by
  have matches_ : ∀ row, matched coded k codedGuard (f row) = matched key k guard row := by
    intro row
    rw [matched,matched,keeps,guards]
  have rows : (table.rows.map f).map (fun row => if matched coded k codedGuard row then codedChange.apply row else row) =
      (table.rows.map fun row => if matched key k guard row then change.apply row else row).map f := by
    rw [List.map_map,List.map_map]
    refine List.map_congr_left fun row _ => ?_
    simp only [Function.comp_apply,matches_]
    split
    · exact changes row
    · rfl
  have counted : (table.rows.map f).countP (matched coded k codedGuard) = table.rows.countP (matched key k guard) := by
    rw [List.countP_map]
    exact List.countP_congr fun row _ => by rw [Function.comp_apply,matches_]
  simp only [update,recode,counted]
  congr 2

end Table

namespace Dict
variable {α β : Type}

def entry (f : α → β) (row : κ × α) : κ × β := (row.1,f row.2)

omit [DecidableEq κ] in
theorem entry_key (f : α → β) (row : κ × α) : (entry f row).1 = row.1 := rfl

def recode (f : α → β) (dict : Dict κ α) : Dict κ β := Table.recode (entry f) (entry_key f) dict

theorem get_recode (f : α → β) (dict : Dict κ α) (k : κ) : get (recode f dict) k = (get dict k).map f := by
  rw [get,recode,Table.find_recode,get,Option.map_map,Option.map_map]
  rfl

theorem set_recode (f : α → β) (dict : Dict κ α) (k : κ) (value : α) :
    set (recode f dict) k (f value) = recode f (set dict k value) := by
  have inserted : (recode f dict).insert (k,f value) = (dict.insert (k,value)).map (recode f) :=
    Table.insert_recode dict (k,value)
  have updated : (recode f dict).update k (fun _ => true) (assign (f value)) =
      (recode f (dict.update k (fun _ => true) (assign value)).1,(dict.update k (fun _ => true) (assign value)).2) :=
    Table.update_recode dict k (fun _ => rfl) (fun _ => rfl)
  rw [set,set,inserted]
  cases dict.insert (k,value) with
  | some extended => rfl
  | none => exact congrArg Prod.fst updated

end Dict
end KeyedTable
