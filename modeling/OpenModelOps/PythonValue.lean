import OpenModelOps.JsonRecords
import OpenModelOps.JsonRespelling
import OpenModelOps.PythonNumber
import OpenModelOps.PythonText
import OpenModelOps.Raising

namespace PythonValue
open JsonText PythonFloat PythonNumber

abbrev Str := {t : Text // Coded t}

-- A key of a dict. ω is the type of all other objects.
inductive Key (ω : Type) where
  | none
  | bool (b : Bool)
  | int (n : Int)
  | float (x : PyFloat)
  | str (t : Str)
  | other (o : ω)

inductive Value (ω : Type) where
  | none
  | bool (b : Bool)
  | int (n : Int)
  | float (x : PyFloat)
  | str (t : Str)
  | list (items : List (Value ω))
  | tuple (items : List (Value ω))
  | dict (entries : List (Key ω × Value ω))
  | other (o : ω)

variable {ω : Type}

-- A bool is a number.
def Key.number : Key ω → Option PyFloat
  | .bool b => some (.finite (if b then 1 else 0))
  | .int n => some (.finite n)
  | .float x => some x
  | _ => Option.none

def Value.number : Value ω → Option PyFloat
  | .bool b => some (.finite (if b then 1 else 0))
  | .int n => some (.finite n)
  | .float x => some x
  | _ => Option.none

def sameNumber (left right : Option PyFloat) : Bool :=
  match left,right with
  | some x,some y => x.le y && y.le x
  | _,_ => false

-- The operator ==. same is the equality of the other objects.
def Key.equal (same : ω → ω → Bool) (left right : Key ω) : Bool :=
  match left,right with
  | .none,.none => true
  | .str t,.str u => decide (t = u)
  | .other o,.other p => same o p
  | left,right => sameNumber left.number right.number

mutual
def Value.equal (same : ω → ω → Bool) : Value ω → Value ω → Bool
  | .none,.none => true
  | .str t,.str u => decide (t = u)
  | .list items,.list others => equalItems same items others
  | .tuple items,.tuple others => equalItems same items others
  | .dict entries,.dict others => entries.length == others.length && equalEntries same entries others
  | .other o,.other p => same o p
  | left,right => sameNumber left.number right.number
def equalItems (same : ω → ω → Bool) : List (Value ω) → List (Value ω) → Bool
  | [],[] => true
  | item :: rest,other :: others => Value.equal same item other && equalItems same rest others
  | _,_ => false
def equalEntries (same : ω → ω → Bool) : List (Key ω × Value ω) → List (Key ω × Value ω) → Bool
  | [],_ => true
  | (key,value) :: rest,others =>
    (match others.find? fun entry => key.equal same entry.1 with
      | some entry => Value.equal same value entry.2
      | Option.none => false) && equalEntries same rest others
end

-- The operator < on keys of one kind.
def Key.below (left right : Key ω) : Bool :=
  match left,right with
  | .str t,.str u => !textLe u.val t.val
  | left,right => match left.number,right.number with
    | some x,some y => x.lt y
    | _,_ => false

def Key.isStr : Key ω → Bool
  | .str _ => true
  | _ => false

-- Several keys are sorted when all of them are str or all are numbers; otherwise
-- some comparison is a TypeError.
def sortable (keys : List (Key ω)) : Bool :=
  decide (keys.length ≤ 1) || keys.all Key.isStr || keys.all fun key => key.number.isSome

-- sorted(entries.items()). Where a key is nan, its place is not specified.
def arrange (entries : List (Key ω × α)) : Option (List (Key ω × α)) :=
  if sortable (entries.map Prod.fst) then
    some (entries.insertionSort fun left right => right.1.below left.1 = false)
  else Option.none

@[irreducible]
def spelled (n : Int) : Bool := decide (n.natAbs < 10 ^ PythonText.maxStrDigits)

section Dumps
variable {number : PyNumber → Text} {shown : ω → Option Str}

-- A key in json.dumps; none is the TypeError for a key of another type or the
-- ValueError for an int with too many digits.
def Key.spelling (number : PyNumber → Text) : Key ω → Option Text
  | .none => some (text "null")
  | .bool b => some (text (if b then "true" else "false"))
  | .int n => if spelled n then some (number (.int n)) else Option.none
  | .float x => some (number (.float x))
  | .str t => some t.val
  | .other _ => Option.none

def named (number : PyNumber → Text) (entries : List (Key ω × α)) : Option (List (Text × α)) :=
  entries.mapM fun entry => (entry.1.spelling number).map fun key => (key,entry.2)

-- What json.dumps(value, sort_keys=True, default=str) writes. shown is str() of
-- the other objects, which may raise.
mutual
def document (number : PyNumber → Text) (shown : ω → Option Str) : Value ω → Option (Json PyNumber)
  | .none => some .null
  | .bool b => some (.bool b)
  | .int n => if spelled n then some (.num (.int n)) else Option.none
  | .float x => some (.num (.float x))
  | .str t => some (.str t.val)
  | .list items => (documentItems number shown items).map .arr
  | .tuple items => (documentItems number shown items).map .arr
  | .dict entries => (((documentEntries number shown entries).bind arrange).bind (named number)).map .obj
  | .other o => (shown o).map fun t => .str t.val
def documentItems (number : PyNumber → Text) (shown : ω → Option Str) : List (Value ω) → Option (List (Json PyNumber))
  | [] => some []
  | item :: rest => (document number shown item).bind fun first =>
      (documentItems number shown rest).map fun later => first :: later
def documentEntries (number : PyNumber → Text) (shown : ω → Option Str) :
    List (Key ω × Value ω) → Option (List (Key ω × Json PyNumber))
  | [] => some []
  | (key,value) :: rest => (document number shown value).bind fun first =>
      (documentEntries number shown rest).map fun later => (key,first) :: later
end

def canonical (number : PyNumber → Text) (shown : ω → Option Str) (value : Value ω) : Option (Json PyNumber) :=
  (document number shown value).map respelled

theorem spelling_coded (numbering : Numbering number) {key : Key ω} (named : key.spelling number = some t) : Coded t := by
  have ascii : ∀ n, Coded (number n) := fun n c member => Nat.lt_trans (numbering.ascii n c member) (by decide)
  cases key with
  | none =>
    cases Option.some.inj named
    exact text_coded _
  | bool b =>
    cases Option.some.inj named
    exact text_coded _
  | int n =>
    simp only [Key.spelling] at named
    split at named
    · cases Option.some.inj named
      exact ascii _
    · cases named
  | float x =>
    cases Option.some.inj named
    exact ascii _
  | str u =>
    cases Option.some.inj named
    exact u.property
  | other o => cases named

theorem eachTextField_iff {P : Text → Prop} {fields : List (Text × Json PyNumber)} :
    EachTextField P fields ↔ ∀ entry ∈ fields, P entry.1 ∧ EachText P entry.2 := by
  induction fields with
  | nil => simp [EachTextField]
  | cons entry rest ih => simp [EachTextField,ih,and_assoc]

theorem named_coded (numbering : Numbering number) {entries : List (Key ω × Json PyNumber)}
    (values : ∀ entry ∈ entries, EachText Coded entry.2) (made : named number entries = some fields) :
    EachTextField Coded fields := by
  refine eachTextField_iff.mpr fun field member => ?_
  obtain ⟨entry,inside,spelt⟩ := Raising.related_right (Raising.mapM_some made) member
  obtain ⟨t,key,rfl⟩ := Option.map_eq_some_iff.mp spelt
  exact ⟨spelling_coded numbering key,values entry inside⟩

theorem arrange_perm {entries arranged : List (Key ω × α)} (sorted : arrange entries = some arranged) :
    arranged.Perm entries := by
  unfold arrange at sorted
  split at sorted
  · cases Option.some.inj sorted
    exact List.perm_insertionSort _ _
  · cases sorted

mutual
theorem document_coded (numbering : Numbering number) (value : Value ω)
    (made : document number shown value = some v) : EachText Coded v := by
  match value with
  | .none => simp only [document,Option.some.injEq] at made; subst made; trivial
  | .bool _ => simp only [document,Option.some.injEq] at made; subst made; trivial
  | .int n =>
    simp only [document] at made
    split at made
    · simp only [Option.some.injEq] at made; subst made; trivial
    · cases made
  | .float _ => simp only [document,Option.some.injEq] at made; subst made; trivial
  | .str t =>
    simp only [document,Option.some.injEq] at made
    subst made
    exact t.property
  | .list items =>
    rw [document] at made
    obtain ⟨documents,each,rfl⟩ := Option.map_eq_some_iff.mp made
    exact documentItems_coded numbering items each
  | .tuple items =>
    rw [document] at made
    obtain ⟨documents,each,rfl⟩ := Option.map_eq_some_iff.mp made
    exact documentItems_coded numbering items each
  | .dict entries =>
    rw [document] at made
    obtain ⟨fields,renamed,rfl⟩ := Option.map_eq_some_iff.mp made
    obtain ⟨arranged,sorted,spelt⟩ := Option.bind_eq_some_iff.mp renamed
    obtain ⟨documents,each,ordered⟩ := Option.bind_eq_some_iff.mp sorted
    have values := documentEntries_coded numbering entries each
    exact named_coded numbering (fun entry member => values entry ((arrange_perm ordered).mem_iff.mp member)) spelt
  | .other o =>
    rw [document] at made
    obtain ⟨t,_,rfl⟩ := Option.map_eq_some_iff.mp made
    exact t.property
theorem documentItems_coded (numbering : Numbering number) (items : List (Value ω))
    (made : documentItems number shown items = some documents) : EachTextItem Coded documents := by
  match items with
  | [] => cases Option.some.inj made; trivial
  | item :: rest =>
    obtain ⟨first,here,later⟩ := Option.bind_eq_some_iff.mp made
    obtain ⟨others,there,rfl⟩ := Option.map_eq_some_iff.mp later
    exact ⟨document_coded numbering item here,documentItems_coded numbering rest there⟩
theorem documentEntries_coded (numbering : Numbering number) (entries : List (Key ω × Value ω))
    (made : documentEntries number shown entries = some documents) :
    ∀ entry ∈ documents, EachText Coded entry.2 := by
  match entries with
  | [] => cases Option.some.inj made; simp
  | (key,value) :: rest =>
    obtain ⟨first,here,later⟩ := Option.bind_eq_some_iff.mp made
    obtain ⟨others,there,rfl⟩ := Option.map_eq_some_iff.mp later
    exact List.forall_mem_cons.mpr ⟨document_coded numbering value here,documentEntries_coded numbering rest there⟩
end

theorem dumps_exact (numbering : Numbering number) {left right : Value ω} (made : document number shown left = some v)
    (also : document number shown right = some w) :
    write number [0x2c] [0x3a] v = write number [0x2c] [0x3a] w ↔
      canonical number shown left = canonical number shown right := by
  rw [write_exact numbering ⟨[],rfl⟩ (document_coded numbering left made) (document_coded numbering right also),
    canonical,canonical,made,also,Option.map_some,Option.map_some,Option.some.injEq]

end Dumps

mutual
def ofJson : (v : Json PyNumber) → WholeTexts v → Value ω
  | .null,_ => .none
  | .bool b,_ => .bool b
  | .num (.int n),_ => .int n
  | .num (.float x),_ => .float x
  | .str t,whole => .str ⟨t,Whole.code whole⟩
  | .arr items,whole => .list (ofItems items whole)
  | .obj fields,whole => .dict (ofFields fields whole)
def ofItems : (items : List (Json PyNumber)) → WholeItems items → List (Value ω)
  | [],_ => []
  | item :: rest,whole => ofJson item whole.1 :: ofItems rest whole.2
def ofFields : (fields : List (Text × Json PyNumber)) → WholeFields fields → List (Key ω × Value ω)
  | [],_ => []
  | (key,value) :: rest,whole => (.str ⟨key,Whole.code whole.1⟩,ofJson value whole.2.1) :: ofFields rest whole.2.2
end

def Spelled : PyNumber → Prop
  | .int n => spelled n = true
  | .float _ => True

def Key.stripped : Key ω → Text
  | .str t => t.val
  | _ => []

theorem named_strs {entries : List (Key ω × Json PyNumber)} (strs : ∀ entry ∈ entries, entry.1.isStr = true)
    (number : PyNumber → Text) : (arrange entries).bind (named number) =
      some ((entries.map fun entry => (entry.1.stripped,entry.2)).insertionSort fun a b => textLe a.1 b.1 = true) := by
  have sorts : sortable (entries.map Prod.fst) = true := by
    have all : (entries.map Prod.fst).all Key.isStr = true := by
      rw [List.all_map]
      exact List.all_eq_true.mpr strs
    simp [sortable,all]
  rw [arrange,if_pos sorts,Option.bind_some,named]
  rw [Raising.mapM_map fun entry => (entry.1.stripped,entry.2)]
  · congr 1
    refine List.map_insertionSort _ _ _ entries ?_
    intro left member right also
    have first := strs left member
    have second := strs right also
    obtain ⟨k,v⟩ := left
    obtain ⟨l,w⟩ := right
    cases k <;> cases first
    cases l <;> cases second
    simp [Key.below,Key.stripped]
  · intro entry member
    have str := strs entry ((List.perm_insertionSort _ _).mem_iff.mp member)
    obtain ⟨k,v⟩ := entry
    cases k <;> cases str
    rfl

section Embedding
variable {number : PyNumber → Text} {shown : ω → Option Str}

mutual
theorem document_ofJson (v : Json PyNumber) (whole : WholeTexts v) (spelled : EachNumber Spelled v) :
    document number shown (ofJson v whole : Value ω) = some (sortKeys v) := by
  match v with
  | .null => rfl
  | .bool _ => rfl
  | .num (.int n) =>
    have short : PythonValue.spelled n = true := spelled
    rw [ofJson,document,if_pos short]
    rfl
  | .num (.float _) => rfl
  | .str _ => rfl
  | .arr items =>
    rw [ofJson,document,documentItems_ofJson items whole spelled]
    rfl
  | .obj fields =>
    obtain ⟨entries,made,strs,same⟩ := documentEntries_ofJson fields whole spelled
    rw [ofJson,document,made,Option.bind_some,named_strs strs,same]
    rfl
theorem documentItems_ofJson (items : List (Json PyNumber)) (whole : WholeItems items)
    (spelled : EachItem Spelled items) :
    documentItems number shown (ofItems items whole : List (Value ω)) = some (sortItems items) := by
  match items with
  | [] => rfl
  | item :: rest =>
    rw [ofItems,documentItems,document_ofJson item whole.1 spelled.1,documentItems_ofJson rest whole.2 spelled.2]
    rfl
theorem documentEntries_ofJson (fields : List (Text × Json PyNumber)) (whole : WholeFields fields)
    (spelled : EachField Spelled fields) : ∃ entries,
      documentEntries number shown (ofFields fields whole : List (Key ω × Value ω)) = some entries ∧
      (∀ entry ∈ entries, entry.1.isStr = true) ∧
      (entries.map fun entry => (entry.1.stripped,entry.2)) = sortFields fields := by
  match fields with
  | [] => exact ⟨[],rfl,by simp,rfl⟩
  | (key,value) :: rest =>
    obtain ⟨entries,made,strs,same⟩ := documentEntries_ofJson rest whole.2.2 spelled.2
    refine ⟨(.str ⟨key,Whole.code whole.1⟩,sortKeys value) :: entries,?_,?_,?_⟩
    · rw [ofFields,documentEntries,document_ofJson value whole.2.1 spelled.1,made]
      rfl
    · exact List.forall_mem_cons.mpr ⟨rfl,strs⟩
    · rw [List.map_cons,same]
      rfl
end

end Embedding
end PythonValue
