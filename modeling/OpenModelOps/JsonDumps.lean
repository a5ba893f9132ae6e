import OpenModelOps.AriaIntelligence
import OpenModelOps.JsonRoundtrip

namespace OpenModelOps.AriaIntelligence
open JsonText
variable {ν : Type}

theorem dictionaryFields_keys (fields : List (Text × Json ν)) :
    (∀ key, key ∈ (dictionaryFields fields).map Prod.fst ↔ key ∈ fields.map Prod.fst) ∧
      ((dictionaryFields fields).map Prod.fst).Nodup := by
  induction fields with
  | nil => exact ⟨fun _ => Iff.rfl,.nil⟩
  | cons entry rest ih =>
    obtain ⟨keys,unique⟩ := ih
    rw [dictionaryFields]
    split
    · rename_i repeated
      obtain ⟨other,member,same⟩ := List.any_eq_true.mp repeated
      refine ⟨fun key => ?_,unique⟩
      rw [keys,List.map_cons,List.mem_cons]
      refine ⟨.inr,?_⟩
      rintro (rfl | later)
      · exact List.mem_map.mpr ⟨other,member,of_decide_eq_true same⟩
      · exact later
    · rename_i single
      refine ⟨fun key => ?_,?_⟩
      · rw [List.map_cons,List.map_cons,List.mem_cons,List.mem_cons,keys]
      · rw [List.map_cons]
        refine List.nodup_cons.mpr ⟨fun later => single ?_,unique⟩
        obtain ⟨other,member,same⟩ := List.mem_map.mp ((keys _).mp later)
        exact List.any_eq_true.mpr ⟨other,member,decide_eq_true same⟩

theorem field_dictionary (fields : List (Text × Json ν)) (key : Text) :
    field (dictionaryFields fields) key = (field fields key).map dictionary := by
  induction fields with
  | nil => rfl
  | cons entry rest ih =>
    rw [dictionaryFields,field_cons]
    split
    · rename_i repeated
      rw [ih]
      cases found : field rest key with
      | some v => rfl
      | none =>
        have absent := field_none.mp found
        have other : entry.1 ≠ key := by
          rintro rfl
          obtain ⟨again,member,same⟩ := List.any_eq_true.mp repeated
          exact absent (List.mem_map.mpr ⟨again,member,of_decide_eq_true same⟩)
        rw [if_neg other]
        rfl
    · rw [field_cons,ih]
      cases field rest key with
      | some v => rfl
      | none =>
        simp only [Option.map_none,Option.none_or]
        split <;> rfl

mutual
theorem dictionary_whole (v : Json ν) (whole : WholeTexts v) : WholeTexts (dictionary v) := by
  match v with
  | .null => trivial
  | .bool _ => trivial
  | .num _ => trivial
  | .str _ => exact whole
  | .arr items => exact dictionaryItems_whole items whole
  | .obj fields => exact dictionaryFields_whole fields whole
theorem dictionaryItems_whole (items : List (Json ν)) (whole : WholeItems items) :
    WholeItems (dictionaryItems items) := by
  match items with
  | [] => trivial
  | item :: rest => exact ⟨dictionary_whole item whole.1,dictionaryItems_whole rest whole.2⟩
theorem dictionaryFields_whole (fields : List (Text × Json ν)) (whole : WholeFields fields) :
    WholeFields (dictionaryFields fields) := by
  match fields with
  | [] => trivial
  | (key,value) :: rest =>
    have later := dictionaryFields_whole rest whole.2.2
    rw [dictionaryFields]
    split
    · exact later
    · exact ⟨whole.1,dictionary_whole value whole.2.1,later⟩
end

mutual
theorem dictionary_each {P : ν → Prop} (v : Json ν) (each : EachNumber P v) : EachNumber P (dictionary v) := by
  match v with
  | .null => trivial
  | .bool _ => trivial
  | .num _ => exact each
  | .str _ => trivial
  | .arr items => exact dictionaryItems_each items each
  | .obj fields => exact dictionaryFields_each fields each
theorem dictionaryItems_each {P : ν → Prop} (items : List (Json ν)) (each : EachItem P items) :
    EachItem P (dictionaryItems items) := by
  match items with
  | [] => trivial
  | item :: rest => exact ⟨dictionary_each item each.1,dictionaryItems_each rest each.2⟩
theorem dictionaryFields_each {P : ν → Prop} (fields : List (Text × Json ν)) (each : EachField P fields) :
    EachField P (dictionaryFields fields) := by
  match fields with
  | [] => trivial
  | (_,value) :: rest =>
    have later := dictionaryFields_each rest each.2
    rw [dictionaryFields]
    split
    · exact later
    · exact ⟨dictionary_each value each.1,later⟩
end

variable {number : ν → Text} {reread : ν → Number}

-- What json.loads(json.dumps(value, sort_keys=True)) makes of a value.
def reprinted (reread : ν → Number) (v : Json ν) : Json Number := convert reread (sortKeys (dictionary v))

theorem reprinted_object (reread : ν → Number) (payload : List (Text × Json ν)) :
    ∃ fields, reprinted reread (.obj payload) = .obj fields ∧
      ∀ key, field fields key = (field payload key).map (reprinted reread) := by
  refine ⟨_,rfl,fun key => ?_⟩
  rw [field_convert,field_sorted (dictionaryFields_keys payload).2,field_dictionary]
  cases field payload key <;> rfl

theorem loads_dumps (reading : Reading number reread) {payload : List (Text × Json ν)} (whole : WholeFields payload) :
    ∃ fields, loads (dumps number payload) = some (.obj fields) ∧
      (∀ key, field fields key = (field payload key).map (reprinted reread)) ∧
      ∀ {P : ν → Prop} {Q : Number → Prop}, (∀ n, P n → Q (reread n)) → EachField P payload → EachField Q fields := by
  have kept : WholeTexts (sortKeys (dictionary (.obj payload))) := sortKeys_whole _ (dictionary_whole (.obj payload) whole)
  have loaded := loads_write reading spaced kept
  obtain ⟨fields,shape,found⟩ := reprinted_object reread payload
  rw [reprinted] at shape
  rw [shape] at loaded
  refine ⟨fields,loaded,found,fun {P Q} numbers each => ?_⟩
  have sorted := EachNumber.convert numbers _ (EachNumber.sorted _ (dictionary_each (.obj payload) each))
  rw [shape] at sorted
  exact sorted

theorem loads_redumped (reading : Reading number reread) (payload : List (Text × Json ν)) :
    ∃ fields, loads (dumps number payload) = some (.obj fields) ∧
      ∀ {P : ν → Prop} {Q : Number → Prop}, (∀ n, P n → Q (reread n)) → EachField P payload → EachField Q fields := by
  have loaded := loads_respelled reading spaced (sortKeys (dictionary (.obj payload)))
  refine ⟨_,loaded,fun {P Q} numbers each => ?_⟩
  have sorted := EachNumber.sorted _ (dictionary_each (.obj payload) each)
  exact EachNumber.convert numbers _ (EachNumber.respelled _ sorted)

theorem dumps_printable (reading : Reading number reread) (payload : List (Text × Json ν)) :
    ∀ c ∈ dumps number payload, Printable c :=
  write_printable reading spaced _

end OpenModelOps.AriaIntelligence
