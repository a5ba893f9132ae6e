import OpenModelOps.OrderedDict
import Mathlib.Data.List.Dedup
import Mathlib.Data.List.DropRight

namespace RecentUse
open KeyedTable
variable {κ ι α : Type} {capacity : Nat} {key : κ → ι} {dict : Dict ι α} {k j : κ} {i : ι} {value : α}

inductive Op (κ α : Type) where
  | record (k : κ) (value : α)
  | lookup (k : κ)

def Op.target : Op κ α → κ
  | .record k _ => k
  | .lookup k => k

section Reference
variable [DecidableEq κ] {uses : List κ} {history : List (Op κ α)}

-- Of the distinct keys that were used, the last ones, the latest use at the end.
def held (capacity : Nat) (uses : List κ) : List κ := uses.dedup.rtake capacity

def use (capacity : Nat) (uses : List κ) : Op κ α → List κ
  | .record k _ => uses ++ [k]
  | .lookup k => if k ∈ held capacity uses then uses ++ [k] else uses

def usesOf (capacity : Nat) (history : List (Op κ α)) : List κ := history.foldl (use capacity) []

def rerecord (k : κ) (last : Option α) : Op κ α → Option α
  | .record j value => if j = k then some value else last
  | .lookup _ => last

def lastRecord (history : List (Op κ α)) (k : κ) : Option α := history.foldl (rerecord k) none

def answer (capacity : Nat) (history : List (Op κ α)) (k : κ) : Option α :=
  if k ∈ held capacity (usesOf capacity history) then lastRecord history k else none

theorem usesOf_snoc (history : List (Op κ α)) (op : Op κ α) :
    usesOf capacity (history ++ [op]) = use capacity (usesOf capacity history) op := by
  simp [usesOf]

theorem lastRecord_snoc (history : List (Op κ α)) (op : Op κ α) :
    lastRecord (history ++ [op]) k = rerecord k (lastRecord history k) op := by
  simp [lastRecord]

theorem dedup_snoc (uses : List κ) (k : κ) : (uses ++ [k]).dedup = uses.dedup.filter (fun j => decide (j ≠ k)) ++ [k] := by
  induction uses with
  | nil => simp
  | cons first rest ih =>
    rw [List.cons_append]
    by_cases again : first ∈ rest
    · rw [List.dedup_cons_of_mem (List.mem_append_left _ again),List.dedup_cons_of_mem again,ih]
    · rw [List.dedup_cons_of_notMem again]
      by_cases same : first = k
      · subst same
        rw [List.dedup_cons_of_mem (by simp),ih]
        simp
      · rw [List.dedup_cons_of_notMem (by simp [again,same]),ih]
        simp [same]

omit [DecidableEq κ] in
theorem rtake_of_length_le {n : Nat} {l : List κ} (short : l.length ≤ n) : l.rtake n = l := by
  simp [List.rtake,Nat.sub_eq_zero_of_le short]

omit [DecidableEq κ] in
theorem rtake_length (n : Nat) (l : List κ) : (l.rtake n).length = min n l.length := by
  simp [List.rtake]
  omega

omit [DecidableEq κ] in
theorem map_rtake (f : κ → ι) (n : Nat) (l : List κ) : (l.rtake n).map f = (l.map f).rtake n := by
  simp [List.rtake,List.map_drop]

theorem held_length (capacity : Nat) (uses : List κ) : (held capacity uses).length ≤ capacity := by
  rw [held,rtake_length]
  exact Nat.min_le_left _ _

theorem mem_held (member : k ∈ held capacity uses) : k ∈ uses :=
  List.mem_dedup.mp (List.mem_of_mem_drop member)

theorem without_length {l : List κ} (unique : l.Nodup) (k : κ) :
    l.length ≤ (l.filter fun j => decide (j ≠ k)).length + 1 := by
  have erased : l.erase k = l.filter fun j => decide (j ≠ k) := by
    rw [unique.erase_eq_filter]
    exact List.filter_congr fun j _ => Bool.eq_iff_iff.mpr (by simp)
  rw [← erased,List.length_erase]
  split <;> omega

omit [DecidableEq κ] in
theorem rtake_append {n : Nat} {front back : List κ} (long : n ≤ back.length) :
    (front ++ back).rtake n = back.rtake n := by
  have past : (front ++ back).length - n = front.length + (back.length - n) := by
    rw [List.length_append]
    omega
  rw [List.rtake,past,List.rtake,List.drop_append,List.drop_eq_nil_of_le (by omega),List.nil_append,
    Nat.add_sub_cancel_left]

-- What a use pushes out is the key that was unused the longest, so that key
-- may be forgotten before the use as well as after it.
theorem held_snoc (positive : 1 ≤ capacity) (uses : List κ) (k : κ) :
    held capacity (uses ++ [k]) = ((held capacity uses).filter (fun j => decide (j ≠ k)) ++ [k]).rtake capacity := by
  obtain ⟨fewer,rfl⟩ : ∃ fewer, capacity = fewer + 1 := ⟨capacity - 1,by omega⟩
  rw [held,dedup_snoc,List.rtake_concat_succ,List.rtake_concat_succ,held]
  have unique := List.nodup_dedup uses
  generalize uses.dedup = distinct at unique ⊢
  obtain short | long := Nat.le_total distinct.length (fewer + 1)
  · rw [rtake_of_length_le short]
  have split : distinct = distinct.take (distinct.length - (fewer + 1)) ++ distinct.rtake (fewer + 1) :=
    (List.take_append_drop _ _).symm
  have enough : fewer ≤ ((distinct.rtake (fewer + 1)).filter fun j => decide (j ≠ k)).length := by
    have all := without_length (unique.sublist (List.drop_sublist (distinct.length - (fewer + 1)) distinct)) k
    rw [← List.rtake,rtake_length,Nat.min_eq_left long] at all
    exact Nat.le_of_add_le_add_right all
  conv => lhs; rw [split,List.filter_append,rtake_append enough]

theorem held_again (positive : 1 ≤ capacity) (member : k ∈ held capacity uses) :
    held capacity (uses ++ [k]) = (held capacity uses).filter (fun j => decide (j ≠ k)) ++ [k] := by
  rw [held_snoc positive,rtake_of_length_le]
  have fewer : ((held capacity uses).filter fun j => decide (j ≠ k)).length < (held capacity uses).length :=
    List.length_filter_lt_length_iff_exists.mpr ⟨k,member,by simp⟩
  have bounded := held_length capacity uses
  rw [List.length_append,List.length_singleton]
  omega

theorem dedup_last {before after : List κ} (last : k ∉ after) :
    ∃ front, (before ++ k :: after).dedup = front ++ k :: after.dedup := by
  obtain ⟨front,_,same⟩ := List.sublist_suffix_of_union before (k :: after).dedup
  exact ⟨front,by rw [List.dedup_append,← same,List.dedup_cons_of_notMem last]⟩

theorem mem_held_iff : k ∈ held capacity uses ↔ ∃ before after, uses = before ++ k :: after ∧ k ∉ after ∧
    after.dedup.length < capacity := by
  have placed : ∀ before after, uses = before ++ k :: after → k ∉ after →
      (k ∈ held capacity uses ↔ after.dedup.length < capacity) := by
    intro before after split last
    obtain ⟨front,distinct⟩ := @dedup_last _ k _ before after last
    rw [held,split,distinct]
    by_cases near : after.dedup.length < capacity
    · refine iff_of_true ?_ near
      have short : front.length + (after.dedup.length + 1) - capacity - front.length = 0 := by omega
      rw [List.rtake,List.length_append,List.length_cons,List.drop_append,short,List.drop_zero]
      exact List.mem_append_right _ List.mem_cons_self
    · refine iff_of_false (fun member => ?_) near
      rw [List.append_cons,rtake_append (Nat.not_lt.mp near)] at member
      exact last (List.mem_dedup.mp (List.mem_of_mem_drop member))
  constructor
  · intro member
    obtain ⟨later,earlier,split,last⟩ := List.eq_append_cons_of_mem (List.mem_reverse.mpr (mem_held member))
    have parts : uses = earlier.reverse ++ k :: later.reverse := by
      rw [← List.reverse_reverse uses,split,List.reverse_append,List.reverse_cons,List.append_assoc]
      rfl
    have absent : k ∉ later.reverse := fun again => last (List.mem_reverse.mp again)
    exact ⟨_,_,parts,absent,(placed _ _ parts absent).mp member⟩
  · intro parts
    obtain ⟨before,after,split,last,near⟩ := parts
    exact (placed before after split last).mpr near

theorem usesOf_targets (capacity : Nat) (history : List (Op κ α)) :
    ∀ j ∈ usesOf capacity history, j ∈ history.map Op.target := by
  induction history using List.reverseRecOn with
  | nil => exact List.forall_mem_nil _
  | append_singleton history op ih =>
    intro j member
    rw [List.map_append,List.mem_append]
    rw [usesOf_snoc] at member
    cases op with
    | record k value =>
      rcases List.mem_append.mp member with old | new
      · exact .inl (ih j old)
      · exact .inr new
    | lookup k =>
      simp only [use] at member
      split at member
      · rcases List.mem_append.mp member with old | new
        · exact .inl (ih j old)
        · exact .inr new
      · exact .inl (ih j member)

theorem usesOf_recorded {history : List (Op κ α)} (used : k ∈ usesOf capacity history) :
    ∃ value, Op.record k value ∈ history := by
  induction history using List.reverseRecOn with
  | nil => cases used
  | append_singleton history op ih =>
    have older : k ∈ usesOf capacity history → ∃ value, Op.record k value ∈ history ++ [op] := fun used =>
      (ih used).imp fun value member => List.mem_append_left _ member
    rw [usesOf_snoc] at used
    cases op with
    | record j value =>
      rcases List.mem_append.mp used with old | new
      · exact older old
      · cases List.mem_singleton.mp new
        exact ⟨value,List.mem_append_right _ List.mem_cons_self⟩
    | lookup j =>
      simp only [use] at used
      split at used
      · rename_i present
        rcases List.mem_append.mp used with old | new
        · exact older old
        · cases List.mem_singleton.mp new
          exact older (mem_held present)
      · exact older used

theorem lastRecord_isSome {history : List (Op κ α)} (recorded : Op.record k value ∈ history) :
    (lastRecord history k).isSome = true := by
  induction history using List.reverseRecOn with
  | nil => cases recorded
  | append_singleton history op ih =>
    rw [lastRecord_snoc]
    rcases List.mem_append.mp recorded with old | new
    · cases op with
      | record j other =>
        rw [rerecord]
        split
        · rfl
        · exact ih old
      | lookup j => exact ih old
    · cases List.mem_singleton.mp new
      rw [rerecord,if_pos rfl]
      rfl

theorem answer_isSome {history : List (Op κ α)} :
    (answer capacity history k).isSome = true ↔ k ∈ held capacity (usesOf capacity history) := by
  unfold answer
  split
  · rename_i member
    obtain ⟨value,recorded⟩ := usesOf_recorded (mem_held member)
    exact iff_of_true (lastRecord_isSome recorded) member
  · rename_i absent
    exact iff_of_false nofun absent

end Reference

section Dictionary
variable [DecidableEq ι]

-- entries[key] = value; move_to_end(key); while len(entries) > capacity:
-- popitem(last=False)
def put (capacity : Nat) (dict : Dict ι α) (i : ι) (value : α) : Dict ι α :=
  Dict.evict capacity (Dict.moveToEnd (Dict.set dict i value) i)

omit [DecidableEq ι] in
theorem popWhile_rtake (capacity : Nat) (rows : List (ι × α)) : Dict.popWhile capacity rows = rows.rtake capacity := by
  induction rows with
  | nil => simp [Dict.popWhile]
  | cons row rest ih =>
    unfold Dict.popWhile
    split
    · rename_i full
      rw [ih]
      exact (@rtake_append _ capacity [row] rest (Nat.le_of_lt_succ full)).symm
    · rename_i within
      exact (rtake_of_length_le (Nat.not_lt.mp within)).symm

theorem others_assigned (rows : List (ι × α)) (i : ι) (value : α) :
    (rows.map fun row => if Table.matched Prod.fst i (fun _ => true) row then (Dict.assign value).apply row else row).filter
      (fun row => decide (row.1 ≠ i)) = rows.filter fun row => decide (row.1 ≠ i) := by
  induction rows with
  | nil => rfl
  | cons row rest ih =>
    by_cases here : row.1 = i
    · simpa [Table.matched,Dict.assign,here] using ih
    · simpa [Table.matched,here] using ih

theorem others_set (dict : Dict ι α) (i : ι) (value : α) : Dict.others (Dict.set dict i value) i = Dict.others dict i := by
  unfold Dict.others Dict.set
  cases inserted : dict.insert (i,value) with
  | some extended =>
    unfold Table.insert at inserted
    split at inserted
    · cases Option.some.inj inserted
      simp
    · cases inserted
  | none => exact others_assigned dict.rows i value

theorem moveToEnd_rows (present : Dict.get dict i = some value) :
    (Dict.moveToEnd dict i).rows = Dict.others dict i ++ [(i,value)] := by
  unfold Dict.moveToEnd
  split
  · rename_i found
    rw [present] at found
    cases found
    rfl
  · rename_i absent
    rw [present] at absent
    cases absent

theorem put_rows (capacity : Nat) (dict : Dict ι α) (i : ι) (value : α) :
    (put capacity dict i value).rows = (Dict.others dict i ++ [(i,value)]).rtake capacity := by
  have moved := moveToEnd_rows (Dict.get_set_self dict i value)
  rw [others_set] at moved
  rw [← moved]
  exact popWhile_rtake _ _

theorem others_keys (dict : Dict ι α) (i : ι) :
    (Dict.others dict i).map Prod.fst = (dict.rows.map Prod.fst).filter fun j => decide (j ≠ i) := by
  rw [List.filter_map]
  rfl

theorem get_put {j : ι} (present : j ∈ (put capacity dict i value).rows.map Prod.fst) :
    Dict.get (put capacity dict i value) j = if j = i then some value else Dict.get dict j := by
  obtain ⟨⟨j,stored⟩,member,rfl⟩ := List.mem_map.mp present
  rw [Dict.get_row.mpr member]
  rw [put_rows] at member
  rcases List.mem_append.mp (List.mem_of_mem_drop member) with old | new
  · obtain ⟨inside,other⟩ := List.mem_filter.mp old
    rw [if_neg (of_decide_eq_true other),Dict.get_row.mpr inside]
  · cases List.mem_singleton.mp new
    exact (if_pos rfl).symm

theorem get_present (member : i ∈ dict.rows.map Prod.fst) : ∃ value, Dict.get dict i = some value := by
  obtain ⟨⟨i,value⟩,inside,rfl⟩ := List.mem_map.mp member
  exact ⟨value,Dict.get_row.mpr inside⟩

theorem get_absent (absent : i ∉ dict.rows.map Prod.fst) : Dict.get dict i = none := by
  rw [Dict.get,Table.find_none_iff.mpr absent]
  rfl

end Dictionary

section Simulation
variable [DecidableEq κ] [DecidableEq ι] {history : List (Op κ α)}

structure Tracks (capacity : Nat) (key : κ → ι) (history : List (Op κ α)) (dict : Dict ι α) : Prop where
  order : dict.rows.map Prod.fst = (held capacity (usesOf capacity history)).map key
  entries : ∀ k ∈ held capacity (usesOf capacity history), Dict.get dict (key k) = lastRecord history k

def Apart (key : κ → ι) (targets : List κ) : Prop :=
  ∀ left ∈ targets, ∀ right ∈ targets, key left = key right → left = right

def perform (capacity : Nat) (key : κ → ι) (dict : Dict ι α) : Op κ α → Dict ι α
  | .record k value => put capacity dict (key k) value
  | .lookup k => Dict.moveToEnd dict (key k)

omit [DecidableEq κ] [DecidableEq ι] in
theorem Apart.earlier {op : Op κ α} (apart : Apart key ((history ++ [op]).map Op.target)) :
    Apart key (history.map Op.target) := by
  intro left first right second
  refine apart left ?_ right ?_
  · simp_all
  · simp_all

omit [DecidableEq ι] in
theorem Apart.use {op : Op κ α} (apart : Apart key ((history ++ [op]).map Op.target))
    (used : j ∈ usesOf capacity history) (same : key j = key op.target) : j = op.target := by
  have before := usesOf_targets capacity history j used
  refine apart j ?_ op.target ?_ same
  · rw [List.map_append]
    exact List.mem_append_left _ before
  · simp

theorem others_order {op : Op κ α} (apart : Apart key ((history ++ [op]).map Op.target))
    (tracks : Tracks capacity key history dict) : (Dict.others dict (key op.target)).map Prod.fst =
      ((held capacity (usesOf capacity history)).filter fun j => decide (j ≠ op.target)).map key := by
  rw [others_keys,tracks.order,List.filter_map]
  congr 1
  refine List.filter_congr fun j member => ?_
  have other : key j = key op.target ↔ j = op.target :=
    ⟨apart.use (mem_held member),fun same => congrArg key same⟩
  simp [other]

theorem Tracks.record (positive : 1 ≤ capacity) (apart : Apart key ((history ++ [Op.record k value]).map Op.target))
    (tracks : Tracks capacity key history dict) :
    Tracks capacity key (history ++ [Op.record k value]) (put capacity dict (key k) value) := by
  have uses : usesOf capacity (history ++ [Op.record k value]) = usesOf capacity history ++ [k] :=
    usesOf_snoc history (.record k value)
  have order : (put capacity dict (key k) value).rows.map Prod.fst =
      (held capacity (usesOf capacity (history ++ [Op.record k value]))).map key := by
    rw [uses,held_snoc positive,put_rows,map_rtake,map_rtake,List.map_append,List.map_append]
    exact congrArg (fun keys => (keys ++ [key k]).rtake capacity) (others_order apart tracks)
  refine ⟨order,?_⟩
  intro j member
  have present : key j ∈ (put capacity dict (key k) value).rows.map Prod.fst := by
    rw [order]
    exact List.mem_map_of_mem member
  rw [get_put present,lastRecord_snoc,rerecord]
  rw [uses,held_snoc positive] at member
  rcases List.mem_append.mp (List.mem_of_mem_drop member) with old | new
  · obtain ⟨inside,other⟩ := List.mem_filter.mp old
    have differs : j ≠ k := of_decide_eq_true other
    have keys : key j ≠ key k := fun same => differs (apart.use (mem_held inside) same)
    rw [if_neg keys,if_neg (Ne.symm differs)]
    exact tracks.entries j inside
  · cases List.mem_singleton.mp new
    rw [if_pos rfl,if_pos rfl]

theorem Tracks.answer (apart : Apart key ((history ++ [Op.lookup k]).map Op.target))
    (tracks : Tracks capacity key history dict) : Dict.get dict (key k) = answer capacity history k := by
  unfold RecentUse.answer
  split
  · rename_i member
    exact tracks.entries k member
  · rename_i absent
    refine get_absent ?_
    rw [tracks.order]
    intro present
    obtain ⟨j,member,same⟩ := List.mem_map.mp present
    have named : j = k := apart.use (mem_held member) same
    exact absent (named ▸ member)

theorem Tracks.lookup (positive : 1 ≤ capacity) (apart : Apart key ((history ++ [Op.lookup k]).map Op.target))
    (tracks : Tracks capacity key history dict) :
    Tracks capacity key (history ++ [Op.lookup k]) (Dict.moveToEnd dict (key k)) := by
  have gets : ∀ i, Dict.get (Dict.moveToEnd dict (key k)) i = Dict.get dict i :=
    Dict.rows_perm_iff.mp (Dict.moveToEnd_perm dict (key k))
  have unrecorded : ∀ j, lastRecord (history ++ [Op.lookup k]) j = lastRecord history j := fun j =>
    lastRecord_snoc history (Op.lookup k)
  by_cases member : k ∈ held capacity (usesOf capacity history)
  · have uses : usesOf capacity (history ++ [Op.lookup k]) = usesOf capacity history ++ [k] := by
      rw [usesOf_snoc,use,if_pos member]
    have present : key k ∈ dict.rows.map Prod.fst := by
      rw [tracks.order]
      exact List.mem_map_of_mem member
    obtain ⟨value,found⟩ := get_present present
    constructor
    · rw [uses,held_again positive member,moveToEnd_rows found,List.map_append,List.map_append]
      exact congrArg (· ++ [key k]) (others_order apart tracks)
    · intro j later
      rw [uses,held_again positive member] at later
      rw [gets,unrecorded]
      rcases List.mem_append.mp later with old | new
      · exact tracks.entries j (List.mem_of_mem_filter old)
      · cases List.mem_singleton.mp new
        exact tracks.entries k member
  · have uses : usesOf capacity (history ++ [Op.lookup k]) = usesOf capacity history := by
      rw [usesOf_snoc,use,if_neg member]
    have missing : Dict.get dict (key k) = none := by
      rw [tracks.answer apart,RecentUse.answer,if_neg member]
    have unmoved : Dict.moveToEnd dict (key k) = dict := by
      simp [Dict.moveToEnd,missing]
    rw [unmoved]
    refine ⟨?_,?_⟩
    · rw [uses]
      exact tracks.order
    · intro j later
      rw [uses] at later
      rw [unrecorded]
      exact tracks.entries j later

theorem perform_tracks (positive : 1 ≤ capacity) (history : List (Op κ α)) (apart : Apart key (history.map Op.target)) :
    Tracks capacity key history (history.foldl (perform capacity key) Table.empty) := by
  induction history using List.reverseRecOn with
  | nil =>
    refine ⟨by simp [Table.empty,held,usesOf],?_⟩
    intro k member
    cases mem_held member
  | append_singleton history op ih =>
    have tracks := ih apart.earlier
    rw [List.foldl_append]
    cases op with
    | record k value => exact tracks.record positive apart
    | lookup k => exact tracks.lookup positive apart

theorem Tracks.bounded (tracks : Tracks capacity key history dict) : dict.rows.length ≤ capacity := by
  have keys := congrArg List.length tracks.order
  rw [List.length_map,List.length_map] at keys
  rw [keys]
  exact held_length _ _

end Simulation
end RecentUse
