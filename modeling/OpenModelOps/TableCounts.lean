import OpenModelOps.KeyedTable

namespace KeyedTable.Table
variable {ρ κ : Type} [DecidableEq κ] {key : ρ → κ}

theorem countP_update {table : Table key} {k : κ} {row : ρ} (found : table.find k = some row) (change : Assignment key)
    (meets : ρ → Bool) :
    (table.update k (fun _ => true) change).1.rows.countP meets + (if meets row then 1 else 0) =
      table.rows.countP meets + if meets (change.apply row) then 1 else 0 := by
  obtain ⟨rows,unique⟩ := table
  simp only [find] at found
  simp only [update]
  induction rows with
  | nil => cases found
  | cons first rest ih =>
    rw [List.map_cons,List.nodup_cons] at unique
    simp only [List.map_cons,List.countP_cons]
    rw [List.find?_cons] at found
    by_cases here : key first = k
    · simp only [here,decide_true] at found
      cases Option.some.inj found
      -- No other row has the key.
      have untouched : rest.map (fun row => if matched key k (fun _ => true) row then change.apply row else row) =
          rest := by
        conv_rhs => rw [← List.map_id rest]
        refine List.map_congr_left fun other member => if_neg ?_
        intro same
        simp only [matched,Bool.and_true,decide_eq_true_eq] at same
        exact unique.1 (List.mem_map.mpr ⟨other,member,same.trans here.symm⟩)
      have chosen : matched key k (fun _ => true) row = true := by simp [matched,here]
      rw [untouched]
      simp only [chosen,if_true]
      omega
    · simp only [here,decide_false] at found
      have later := ih unique.2 found
      have passed : matched key k (fun _ => true) first = false := by simp [matched,here]
      simp only [passed,Bool.false_eq_true,if_false]
      omega

theorem countP_insert {table next : Table key} {row : ρ} (inserted : table.insert row = some next) (meets : ρ → Bool) :
    next.rows.countP meets = table.rows.countP meets + if meets row then 1 else 0 := by
  unfold insert at inserted
  split at inserted
  · cases Option.some.inj inserted
    simp [List.countP_append,List.countP_singleton]
  · cases inserted

end KeyedTable.Table
