import OpenModelOps.JsonNumbers
import OpenModelOps.OrderedDict

namespace JsonText
open KeyedTable

instance (c : Nat) : Decidable (Scalar c) := inferInstanceAs (Decidable (_ ∨ _))

-- A str without surrogates.
def untext (t : Text) : Option String :=
  if ∀ c ∈ t, Scalar c then some (String.ofList (t.map Char.ofNat)) else none

theorem untext_text (s : String) : untext (text s) = some s := by
  rw [untext,if_pos (text_scalar s),text,List.map_map]
  have same : s.toList.map (Char.ofNat ∘ Char.toNat) = s.toList := by
    conv_rhs => rw [← List.map_id s.toList]
    exact List.map_congr_left fun c _ => Char.ofNat_toNat c
  rw [same,String.ofList_toList]

theorem text_untext {t : Text} {s : String} (plain : untext t = some s) : text s = t := by
  unfold untext at plain
  split at plain
  · rename_i scalar
    rw [← Option.some.inj plain,text,String.toList_ofList,List.map_map]
    conv_rhs => rw [← List.map_id t]
    apply List.map_congr_left
    intro c member
    have valid : c.isValidChar := scalar c member
    have char : Char.ofNat c = Char.ofNatAux c valid := dif_pos valid
    exact congrArg Char.toNat char
  · cases plain

namespace Json
variable {ν : Type}

def asString : Json ν → Option String
  | .str t => untext t
  | _ => none

def asBool : Json ν → Option Bool
  | .bool b => some b
  | _ => none

def asInt : Json Number → Option Int
  | .num (.int n) => some n
  | _ => none

def asObject : Json ν → Option (List (Text × Json ν))
  | .obj fields => some fields
  | _ => none

def asArray : Json ν → Option (List (Json ν))
  | .arr items => some items
  | _ => none

def nullable (read : Json ν → Option α) : Json ν → Option (Option α)
  | .null => some none
  | v => (read v).map some

def ofOption (write : α → Json ν) : Option α → Json ν
  | none => .null
  | some a => write a

end Json

-- fields[key], and fields.get(key, other).
def item (fields : List (Text × Json ν)) (key : String) (read : Json ν → Option α) : Option α :=
  (field fields (text key)).bind read

def itemOr (fields : List (Text × Json ν)) (key : String) (other : α) (read : Json ν → Option α) : Option α :=
  match field fields (text key) with
  | none => some other
  | some v => read v

-- The keyword arguments of a constructor: a TypeError for a name of its own.
def onlyKeys (names : List String) (fields : List (Text × Json ν)) : Bool :=
  fields.all fun entry => (names.map text).contains entry.1

-- The items of a dictionary.
def readItems (name : Text → Option κ) (read : Json ν → Option α) (fields : List (Text × Json ν)) : Option (List (κ × α)) :=
  fields.mapM fun entry => (name entry.1).bind fun k => (read entry.2).map fun a => (k,a)

-- Enum(value).
def enumOf (members : List α) (value : α → String) (s : String) : Option α :=
  members.find? fun member => decide (value member = s)

def str (s : String) : Json ν := .str (text s)

theorem str_read (s : String) : Json.asString (str s : Json ν) = some s := untext_text s

theorem str_whole (s : String) : WholeTexts (str s : Json ν) := text_whole s

theorem nullable_whole (s : Option String) : WholeTexts (Json.ofOption str s : Json ν) := by
  cases s with
  | none => trivial
  | some s => exact text_whole s

theorem nullable_read (s : Option String) : Json.nullable Json.asString (Json.ofOption str s : Json ν) = some s := by
  cases s with
  | none => rfl
  | some s => exact congrArg (Option.map some) (str_read s)

theorem nullable_each {P : ν → Prop} (s : Option String) : EachNumber P (Json.ofOption str s) := by
  cases s <;> trivial

theorem short_int (digits : Nat) (n : Int) : Short digits (.int n) ↔ n.natAbs < 10 ^ digits := decide_eq_true_iff

theorem short_real (digits : Nat) (q : ℚ) : Short digits (.real q) := rfl

theorem bind_read {found : Option α} {next : α → Option β} (read : found = some a) (rest : next a = some b) :
    (found >>= next) = some b := by
  rw [read]
  exact rest

theorem convertItems_eq (f : ν → μ) (items : List (Json ν)) : convertItems f items = items.map (convert f) := by
  induction items with
  | nil => rfl
  | cons item rest ih => rw [convertItems,ih]; rfl

theorem sortItems_eq (items : List (Json ν)) : sortItems items = items.map sortKeys := by
  induction items with
  | nil => rfl
  | cons item rest ih => rw [sortItems,ih]; rfl

-- json.dumps(v, sort_keys=True), and what json.loads makes of it.

def sortedText (v : Json Number) : Text := write Number.text (text ", ") (text ": ") (sortKeys v)

-- none is the ValueError for an integer that has too many digits for a text.
def sortedDumps (v : Json Number) : Option Text :=
  if intsWithin PythonText.maxStrDigits v then some (sortedText v) else none

def sortedRead (v : Json Number) : Json Number := convert Number.reread (sortKeys v)

theorem reread_short (short : Short digits n) : Short digits n.reread := by
  cases n with
  | real q => rfl
  | _ => exact short

theorem dumped {v : Json Number} (short : intsWithin PythonText.maxStrDigits v = true) : sortedDumps v = some (sortedText v) :=
  if_pos short

theorem dumped_parts (done : sortedDumps v = some t) : intsWithin PythonText.maxStrDigits v = true ∧ t = sortedText v := by
  unfold sortedDumps at done
  split at done
  · rename_i short
    exact ⟨short,(Option.some.inj done).symm⟩
  · cases done

theorem loads_sortedText {v : Json Number} (whole : WholeTexts v) (short : intsWithin PythonText.maxStrDigits v = true) :
    loadsText (sortedText v) = some (sortedRead v) := by
  have each := EachNumber.sorted v ((intsWithin_iff _ v).mp short)
  have kept : intsWithin PythonText.maxStrDigits (sortedRead v) = true :=
    (intsWithin_iff _ _).mpr (EachNumber.convert (fun _ => reread_short) _ each)
  have read : loads (sortedText v) = some (sortedRead v) := loads_write number_reading spaced (sortKeys_whole v whole)
  rw [loadsText,read]
  exact if_pos kept

theorem nullable_sortedRead (s : Option String) :
    Json.nullable Json.asString (sortedRead (Json.ofOption str s)) = some s := by
  cases s with
  | none => rfl
  | some s => exact nullable_read (some s)

theorem sortedRead_real (terminating : Terminating q) : sortedRead (.num (.real q)) = .num (.real q) :=
  congrArg Json.num (reread_exact terminating)

theorem sortedRead_arr (items : List (Json Number)) : sortedRead (.arr items) = .arr (items.map sortedRead) := by
  rw [sortedRead,sortKeys,convert,convertItems_eq,sortItems_eq,List.map_map]
  rfl

def sortedFields (fields : List (Text × α)) : List (Text × α) :=
  fields.insertionSort fun a b => textLe a.1 b.1 = true

theorem sortedFields_perm (fields : List (Text × α)) : (sortedFields fields).Perm fields := List.perm_insertionSort _ _

-- The fields of a dictionary that was written and read.
def readFields (fields : List (Text × Json Number)) : List (Text × Json Number) :=
  (sortedFields fields).map fun entry => (entry.1,sortedRead entry.2)

theorem sortedRead_obj (fields : List (Text × Json Number)) : sortedRead (.obj fields) = .obj (readFields fields) := by
  have moved := List.map_insertionSort (fun (a b : Text × Json Number) => textLe a.1 b.1 = true)
    (fun (a b : Text × Json Number) => textLe a.1 b.1 = true) (fun entry => (entry.1,sortKeys entry.2)) fields
    (fun _ _ _ _ => Iff.rfl)
  rw [sortedRead,sortKeys,convert,convertFields_eq,sortFields_eq,← moved,List.map_map]
  rfl

theorem field_readFields {fields : List (Text × Json Number)} (unique : (fields.map Prod.fst).Nodup) (key : Text) :
    field (readFields fields) key = (field fields key).map sortedRead := by
  have keys : (readFields fields).map Prod.fst = (sortedFields fields).map Prod.fst := by
    rw [readFields,List.map_map]
    rfl
  have kept := ((sortedFields_perm fields).map Prod.fst).nodup_iff.mpr unique
  refine Option.ext fun v => ?_
  rw [field_unique (keys ▸ kept),readFields,List.mem_map,Option.map_eq_some_iff]
  constructor
  · rintro ⟨⟨_,w⟩,member,same⟩
    cases same
    exact ⟨w,(field_unique unique).mpr ((sortedFields_perm fields).mem_iff.mp member),rfl⟩
  · rintro ⟨w,found,rfl⟩
    exact ⟨(key,w),(sortedFields_perm fields).mem_iff.mpr (field_member found),rfl⟩

section Fields
variable {fields : List (Text × Json Number)} {key : String} {v : Json Number}

theorem item_readFields (unique : (fields.map Prod.fst).Nodup) (i : Nat) (place : fields[i]? = some (text key,v))
    (read : Json Number → Option α) : item (readFields fields) key read = read (sortedRead v) := by
  rw [item,field_readFields unique,(field_unique unique).mpr (List.mem_of_getElem? place)]
  rfl

theorem itemOr_readFields (unique : (fields.map Prod.fst).Nodup) (i : Nat) (place : fields[i]? = some (text key,v))
    (other : α) (read : Json Number → Option α) : itemOr (readFields fields) key other read = read (sortedRead v) := by
  rw [itemOr,field_readFields unique,(field_unique unique).mpr (List.mem_of_getElem? place)]
  rfl

theorem named_unique {names : List String} (keys : fields.map Prod.fst = names.map text) (distinct : names.Nodup) :
    (fields.map Prod.fst).Nodup := by
  rw [keys]
  exact distinct.map text_injective

theorem onlyKeys_readFields {names : List String} (keys : fields.map Prod.fst = names.map text) :
    onlyKeys names (readFields fields) = true := by
  rw [onlyKeys,readFields,List.all_map,(sortedFields_perm fields).all_eq]
  refine List.all_eq_true.mpr fun entry member => ?_
  have named : entry.1 ∈ names.map text := keys ▸ List.mem_map_of_mem member
  simpa using named

end Fields

-- json.dumps(v, separators=(comma,colon)), which keeps the order of the keys.

def plainText (comma colon : Text) (v : Json Number) : Text := write Number.text comma colon v

def plainDumps (comma colon : Text) (v : Json Number) : Option Text :=
  if intsWithin PythonText.maxStrDigits v then some (plainText comma colon v) else none

def Exact (n : Number) : Prop := n.reread = n

mutual
theorem convert_same {f : ν → ν} (v : Json ν) (same : EachNumber (fun n => f n = n) v) : convert f v = v := by
  match v with
  | .null => rfl
  | .bool _ => rfl
  | .num _ => exact congrArg Json.num same
  | .str _ => rfl
  | .arr items => exact congrArg Json.arr (convertItems_same items same)
  | .obj fields => exact congrArg Json.obj (convertFields_same fields same)
theorem convertItems_same {f : ν → ν} (items : List (Json ν)) (same : EachItem (fun n => f n = n) items) :
    convertItems f items = items := by
  match items with
  | [] => rfl
  | item :: rest => rw [convertItems,convert_same item same.1,convertItems_same rest same.2]
theorem convertFields_same {f : ν → ν} (fields : List (Text × Json ν)) (same : EachField (fun n => f n = n) fields) :
    convertFields f fields = fields := by
  match fields with
  | [] => rfl
  | (_,value) :: rest => rw [convertFields,convert_same value same.1,convertFields_same rest same.2]
end

theorem plainDumped {v : Json Number} (short : intsWithin PythonText.maxStrDigits v = true) :
    plainDumps comma colon v = some (plainText comma colon v) := if_pos short

theorem plainDumped_parts {v : Json Number} (done : plainDumps comma colon v = some t) :
    intsWithin PythonText.maxStrDigits v = true ∧ t = plainText comma colon v := by
  unfold plainDumps at done
  split at done
  · rename_i short
    exact ⟨short,(Option.some.inj done).symm⟩
  · cases done

theorem loads_plainText (separators : Separators comma colon) {v : Json Number} (whole : WholeTexts v)
    (short : intsWithin PythonText.maxStrDigits v = true) (exact_ : EachNumber Exact v) :
    loadsText (plainText comma colon v) = some v := by
  have read : loads (plainText comma colon v) = some (convert Number.reread v) := loads_write number_reading separators whole
  rw [loadsText,read,convert_same v exact_]
  exact if_pos short

section Plain
variable {fields : List (Text × Json Number)} {key : String} {v : Json Number}

theorem item_named (unique : (fields.map Prod.fst).Nodup) (i : Nat) (place : fields[i]? = some (text key,v))
    (read : Json Number → Option α) : item fields key read = read v := by
  rw [item,(field_unique unique).mpr (List.mem_of_getElem? place)]
  rfl

theorem itemOr_named (unique : (fields.map Prod.fst).Nodup) (i : Nat) (place : fields[i]? = some (text key,v)) (other : α)
    (read : Json Number → Option α) : itemOr fields key other read = read v := by
  rw [itemOr,(field_unique unique).mpr (List.mem_of_getElem? place)]

theorem onlyKeys_named {names : List String} (keys : fields.map Prod.fst = names.map text) :
    onlyKeys names fields = true := by
  refine List.all_eq_true.mpr fun entry member => ?_
  have named : entry.1 ∈ names.map text := keys ▸ List.mem_map_of_mem member
  simpa using named

end Plain

theorem mapM_exact {f : α → Option β} {g : β → α} {ys : List β} (inverse : ∀ y ∈ ys, f (g y) = some y) :
    (ys.map g).mapM f = some ys := by
  induction ys with
  | nil => rfl
  | cons y ys ih =>
    rw [List.map_cons,List.mapM_cons,inverse y List.mem_cons_self,ih fun z member => inverse z (List.mem_cons_of_mem _ member)]
    rfl

theorem readItems_sorted {rows : List (String × α)} {write : α → Json Number} {read : Json Number → Option α}
    (inverse : ∀ row ∈ rows, read (sortedRead (write row.2)) = some row.2) :
    ∃ moved, moved.Perm rows ∧
      readItems untext read (readFields (rows.map fun row => (text row.1,write row.2))) = some moved := by
  refine ⟨rows.insertionSort fun a b => textLe (text a.1) (text b.1) = true,List.perm_insertionSort _ _,?_⟩
  have moved := List.map_insertionSort (fun (a b : String × α) => textLe (text a.1) (text b.1) = true)
    (fun (a b : Text × Json Number) => textLe a.1 b.1 = true) (fun row => (text row.1,write row.2)) rows
    (fun _ _ _ _ => Iff.rfl)
  rw [readFields,sortedFields,← moved,List.map_map]
  refine mapM_exact fun row member => ?_
  have back := inverse row ((List.perm_insertionSort _ _).mem_iff.mp member)
  simp [untext_text,back]

theorem textLe_total (a b : Text) : textLe a b = true ∨ textLe b a = true := by
  induction a generalizing b with
  | nil => exact .inl rfl
  | cons c a ih =>
    cases b with
    | nil => exact .inr rfl
    | cons d b =>
      simp only [textLe,Bool.or_eq_true,Bool.and_eq_true,decide_eq_true_eq]
      rcases Nat.lt_trichotomy c d with less | same | more
      · exact .inl (.inl less)
      · rcases ih b with left | right
        · exact .inl (.inr ⟨same,left⟩)
        · exact .inr (.inr ⟨same.symm,right⟩)
      · exact .inr (.inl more)

theorem textLe_trans (left : textLe a b = true) (right : textLe b c = true) : textLe a c = true := by
  induction a generalizing b c with
  | nil => rfl
  | cons x a ih =>
    cases b with
    | nil => cases left
    | cons y b =>
      cases c with
      | nil => cases right
      | cons z c =>
        simp only [textLe,Bool.or_eq_true,Bool.and_eq_true,decide_eq_true_eq] at left right ⊢
        rcases left with less | ⟨rfl,first⟩
        · rcases right with also | ⟨rfl,_⟩
          · exact .inl (Nat.lt_trans less also)
          · exact .inl less
        · rcases right with less | ⟨rfl,second⟩
          · exact .inl less
          · exact .inr ⟨rfl,ih first second⟩

theorem textLe_antisymm (left : textLe a b = true) (right : textLe b a = true) : a = b := by
  induction a generalizing b with
  | nil =>
    cases b with
    | nil => rfl
    | cons _ _ => cases right
  | cons c a ih =>
    cases b with
    | nil => cases left
    | cons d b =>
      simp only [textLe,Bool.or_eq_true,Bool.and_eq_true,decide_eq_true_eq] at left right
      rcases left with less | ⟨rfl,first⟩
      · rcases right with more | ⟨same,_⟩
        · omega
        · omega
      · rcases right with more | ⟨_,second⟩
        · omega
        · rw [ih first second]

theorem sortedFields_pairwise (fields : List (Text × α)) :
    (sortedFields fields).Pairwise fun a b => textLe a.1 b.1 = true := by
  have : Std.Total fun (a b : Text × α) => textLe a.1 b.1 = true := ⟨fun a b => textLe_total a.1 b.1⟩
  have : IsTrans (Text × α) fun a b => textLe a.1 b.1 = true := ⟨fun _ _ _ left right => textLe_trans left right⟩
  exact List.pairwise_insertionSort _ fields

theorem sortedFields_eq {fields others : List (Text × α)} (unique : (fields.map Prod.fst).Nodup)
    (moved : fields.Perm others) : sortedFields fields = sortedFields others := by
  have same : (sortedFields fields).Perm (sortedFields others) :=
    (sortedFields_perm fields).trans (moved.trans (sortedFields_perm others).symm)
  refine same.eq_of_pairwise ?_ (sortedFields_pairwise fields) (sortedFields_pairwise others)
  intro a b left right below above
  have here := (sortedFields_perm fields).mem_iff.mp left
  have there := moved.mem_iff.mpr ((sortedFields_perm others).mem_iff.mp right)
  exact List.inj_on_of_nodup_map unique here there (textLe_antisymm below above)

theorem sortKeys_flat {fields : List (Text × Json ν)} (flat : ∀ entry ∈ fields, sortKeys entry.2 = entry.2) :
    sortKeys (.obj fields) = .obj (sortedFields fields) := by
  have same : sortFields fields = fields := by
    conv_rhs => rw [← List.map_id fields]
    rw [sortFields_eq]
    exact List.map_congr_left fun entry member => Prod.ext rfl (flat entry member)
  rw [sortKeys,same]
  rfl

section Dictionary
variable {ν α : Type} {json : α → Json ν}

def dictFields (json : α → Json ν) (dict : Dict String α) : List (Text × Json ν) :=
  dict.rows.map fun row => (text row.1,json row.2)

theorem dictFields_unique (dict : Dict String α) : ((dictFields json dict).map Prod.fst).Nodup := by
  have keys : (dictFields json dict).map Prod.fst = (dict.rows.map Prod.fst).map text := by
    rw [dictFields,List.map_map,List.map_map]
    rfl
  rw [keys]
  exact dict.unique.map text_injective

theorem dictFields_sorted (flat : ∀ a, sortKeys (json a) = json a) (dict : Dict String α) :
    sortKeys (.obj (dictFields json dict)) = .obj (sortedFields (dictFields json dict)) := by
  refine sortKeys_flat fun entry member => ?_
  obtain ⟨row,_,rfl⟩ := List.mem_map.mp member
  exact flat row.2

theorem dictFields_moved {left right : Dict String α} (moved : left.rows.Perm right.rows) :
    sortKeys (.obj (dictFields json left)) = sortKeys (.obj (dictFields json right)) := by
  have sorted : ∀ dict : Dict String α, sortKeys (.obj (dictFields json dict)) =
      .obj (sortedFields (dictFields (fun a => sortKeys (json a)) dict)) := by
    intro dict
    rw [sortKeys,sortFields_eq,dictFields,List.map_map]
    rfl
  rw [sorted,sorted,sortedFields_eq (dictFields_unique left) (moved.map _)]
  rfl

theorem dictFields_exact (injective : Function.Injective json) (flat : ∀ a, sortKeys (json a) = json a)
    (left right : Dict String α) :
    sortKeys (.obj (dictFields json left)) = sortKeys (.obj (dictFields json right)) ↔
      ∀ name, Dict.get left name = Dict.get right name := by
  have entries : Function.Injective fun row : String × α => (text row.1,json row.2) := text_injective.prodMap injective
  rw [dictFields_sorted flat,dictFields_sorted flat,Json.obj.injEq,← Dict.rows_perm_iff]
  constructor
  · intro same
    have moved := (sortedFields_perm (dictFields json left)).symm.trans (same ▸ sortedFields_perm (dictFields json right))
    exact (List.map_perm_map_iff entries).mp moved
  · exact fun moved => sortedFields_eq (dictFields_unique left) (moved.map _)

end Dictionary

end JsonText
