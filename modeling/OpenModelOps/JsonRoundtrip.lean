import OpenModelOps.JsonBytes
import OpenModelOps.JsonWriting

namespace JsonText
variable {ν : Type} {number : ν → Text} {reread : ν → Number} {comma colon : Text}

-- What a reader needs of the text of a number: it starts as a number does and
-- ends where the value ends. A float is read back as the number of its text.
structure Reading (number : ν → Text) (reread : ν → Number) : Prop where
  opens : ∀ n, ∃ c rest, number n = c :: rest ∧ (isDigit c = true ∨ c ∈ [0x2d,0x49,0x4e])
  printable : ∀ n, ∀ c ∈ number n, Printable c
  scanned : ∀ n rest, Delimited rest → scanValue 1 (number n ++ rest) = some (.num (reread n),rest)

structure Separators (comma colon : Text) : Prop where
  comma : ∃ gap, comma = 0x2c :: gap ∧ ∀ c ∈ gap, c = 0x20
  colon : ∃ gap, colon = 0x3a :: gap ∧ ∀ c ∈ gap, c = 0x20

theorem spaced : Separators (text ", ") (text ": ") := ⟨⟨[0x20],rfl,by simp⟩,⟨[0x20],rfl,by simp⟩⟩

theorem unspaced : Separators [0x2c] [0x3a] := ⟨⟨[],rfl,by simp⟩,⟨[],rfl,by simp⟩⟩

def Solid : Text → Prop
  | [] => False
  | c :: _ => isBlank c = false ∧ c ≠ 0x5d

theorem skipBlank_gap {gap : Text} (spaces : ∀ c ∈ gap, c = 0x20) (rest : Text) :
    skipBlank (gap ++ rest) = skipBlank rest := by
  induction gap with
  | nil => rfl
  | cons c gap ih =>
    rw [spaces c List.mem_cons_self,List.cons_append]
    exact ih fun d member => spaces d (List.mem_cons_of_mem _ member)

theorem skipBlank_cons (solid : isBlank c = false) (rest : Text) : skipBlank (c :: rest) = c :: rest := by
  simp [skipBlank,solid]

theorem Solid.skip {rest : Text} (solid : Solid rest) : skipBlank rest = rest := by
  cases rest with
  | nil => rfl
  | cons c more => exact skipBlank_cons solid.1 more

theorem Delimited.skip {rest : Text} (delimited : Delimited rest) : skipBlank rest = rest := by
  cases rest with
  | nil => rfl
  | cons c more =>
    rcases delimited.mark with rfl | rfl | rfl <;> rfl

theorem Reading.head (reading : Reading number reread) (n : ν) :
    ∃ c rest, number n = c :: rest ∧ isBlank c = false ∧ c ∉ [0x22,0x5b,0x5d,0x7b] := by
  obtain ⟨c,rest,shape,digit | sign⟩ := reading.opens n
  · refine ⟨c,rest,shape,?_,?_⟩
    · by_contra blank
      rw [blank_digit (by simpa using blank)] at digit
      cases digit
    · intro mark
      simp only [List.mem_cons,List.not_mem_nil,or_false] at mark
      rcases mark with rfl | rfl | rfl | rfl <;> cases digit
  · refine ⟨c,rest,shape,?_⟩
    simp only [List.mem_cons,List.not_mem_nil,or_false] at sign
    rcases sign with rfl | rfl | rfl <;> decide

theorem Reading.value (reading : Reading number reread) (n : ν) (fuel : Nat) (delimited : Delimited rest) :
    scanValue (fuel + 1) (number n ++ rest) = some (.num (reread n),rest) := by
  have scanned := reading.scanned n rest delimited
  obtain ⟨c,more,shape,_,plain⟩ := reading.head n
  simp only [List.mem_cons,List.not_mem_nil,or_false,not_or] at plain
  rw [shape,List.cons_append] at scanned ⊢
  simp only [scanValue,if_neg plain.1,if_neg plain.2.1,if_neg plain.2.2.2] at scanned ⊢
  exact scanned

theorem write_solid (reading : Reading number reread) (comma colon : Text) (v : Json ν) (rest : Text) :
    Solid (write number comma colon v ++ rest) := by
  cases v with
  | bool value => cases value <;> exact ⟨rfl,by decide⟩
  | num n =>
    obtain ⟨c,more,shape,solid,plain⟩ := reading.head n
    simp only [List.mem_cons,List.not_mem_nil,or_false,not_or] at plain
    rw [write,shape]
    exact ⟨solid,plain.2.2.1⟩
  | _ => exact ⟨rfl,by decide⟩

theorem Solid.cons {rest : Text} (solid : Solid rest) : ∃ c more, rest = c :: more ∧ c ≠ 0x5d := by
  cases rest with
  | nil => exact solid.elim
  | cons c more => exact ⟨c,more,rfl,solid.2⟩

theorem Separators.after (separators : Separators comma colon) :
    ∃ gap, (∀ t, comma ++ t = 0x2c :: (gap ++ t)) ∧ ∀ c ∈ gap, c = 0x20 := by
  obtain ⟨gap,rfl,spaces⟩ := separators.comma
  exact ⟨gap,fun _ => rfl,spaces⟩

theorem Separators.length_pos (separators : Separators comma colon) : 0 < comma.length := by
  obtain ⟨gap,rfl,_⟩ := separators.comma
  exact Nat.succ_pos _

mutual
def respelled : Json ν → Json ν
  | .str t => .str (respell t)
  | .arr items => .arr (respelledItems items)
  | .obj fields => .obj (respelledFields fields)
  | leaf => leaf
def respelledItems : List (Json ν) → List (Json ν)
  | [] => []
  | item :: rest => respelled item :: respelledItems rest
def respelledFields : List (Text × Json ν) → List (Text × Json ν)
  | [] => []
  | (key,value) :: rest => (respell key,respelled value) :: respelledFields rest
end

mutual
theorem respelled_whole (v : Json ν) (whole : WholeTexts v) : respelled v = v := by
  match v with
  | .null => rfl
  | .bool _ => rfl
  | .num _ => rfl
  | .str t => rw [respelled,respell_whole whole]
  | .arr items => rw [respelled,respelledItems_whole items whole]
  | .obj fields => rw [respelled,respelledFields_whole fields whole]
theorem respelledItems_whole (items : List (Json ν)) (whole : WholeItems items) : respelledItems items = items := by
  match items with
  | [] => rfl
  | item :: rest => rw [respelledItems,respelled_whole item whole.1,respelledItems_whole rest whole.2]
theorem respelledFields_whole (fields : List (Text × Json ν)) (whole : WholeFields fields) :
    respelledFields fields = fields := by
  match fields with
  | [] => rfl
  | (key,value) :: rest =>
    rw [respelledFields,respell_whole whole.1,respelled_whole value whole.2.1,respelledFields_whole rest whole.2.2]
end

theorem scanFields_field (separators : Separators comma colon) (key : Text) {value after : Text} {v : Json Number}
    (solid : Solid (value ++ d :: after)) (marked : isBlank d = false)
    (read : scanValue fuel (value ++ d :: after) = some (v,d :: after)) :
    scanFields (fuel + 1) (quoted key ++ (colon ++ (value ++ d :: after))) =
      if d = 0x7d then some ([(respell key,v)],after)
      else if d = 0x2c then (scanFields fuel (skipBlank after)).map (fun (fields,tail) => ((respell key,v) :: fields,tail))
      else none := by
  obtain ⟨gap,rfl,spaces⟩ := separators.colon
  have string := quoted_respelled key (0x3a :: (gap ++ (value ++ d :: after)))
  have opened : quoted key ++ (0x3a :: gap ++ (value ++ d :: after)) =
      0x22 :: ((quoted key).tail ++ 0x3a :: (gap ++ (value ++ d :: after))) := rfl
  rw [opened,scanFields,if_pos rfl,string]
  simp only
  rw [skipBlank_cons rfl]
  simp only [if_true]
  rw [skipBlank_gap spaces,solid.skip,read]
  simp only
  rw [skipBlank_cons marked]

-- A document is read back, with the numbers and the texts that are written: by recursion
-- on the document, where two calls of the reader consume a character.
mutual
theorem scanValue_write (reading : Reading number reread) (separators : Separators comma colon) (v : Json ν)
    (rest : Text) (delimited : Delimited rest) (fuel : Nat)
    (enough : 2 * (write number comma colon v).length ≤ fuel) :
    scanValue fuel (write number comma colon v ++ rest) = some (convert reread (respelled v),rest) := by
  match fuel,v with
  | 0,v =>
    obtain ⟨c,more,shape,_⟩ := (write_solid reading comma colon v []).cons
    rw [List.append_nil] at shape
    simp [shape] at enough
  | fuel + 1,.null => simp [write,text,scanValue,scanLiteral,literals,List.isPrefixOf,respelled,convert]
  | fuel + 1,.bool true => simp [write,text,scanValue,scanLiteral,literals,List.isPrefixOf,respelled,convert]
  | fuel + 1,.bool false => simp [write,text,scanValue,scanLiteral,literals,List.isPrefixOf,respelled,convert]
  | fuel + 1,.num n => exact reading.value n fuel delimited
  | fuel + 1,.str t =>
    have string := quoted_respelled t rest
    have opened : write number comma colon (.str t) ++ rest = 0x22 :: ((quoted t).tail ++ rest) := rfl
    rw [opened,scanValue,if_pos rfl,string]
    rfl
  | fuel + 1,.arr [] => simp [write,writeItems,text,scanValue,skipBlank,isBlank,respelled,respelledItems,convert,convertItems]
  | fuel + 1,.arr (item :: items) =>
    have read := scanItems_write reading separators (item :: items) (by simp) rest fuel (by
      simp only [write,text,List.length_append,List.length_map] at enough
      simp at enough
      omega)
    have opened : write number comma colon (.arr (item :: items)) ++ rest =
        0x5b :: (writeItems number comma colon (item :: items) ++ 0x5d :: rest) := by
      simp [write,text]
    have solid : Solid (writeItems number comma colon (item :: items) ++ 0x5d :: rest) := by
      rw [writeItems,List.append_assoc]
      exact write_solid reading comma colon item _
    obtain ⟨c,more,shape,inside⟩ := solid.cons
    rw [opened,scanValue,if_neg (by decide),if_neg (by decide),if_pos rfl,solid.skip]
    rw [shape] at read ⊢
    simp only [if_neg inside]
    rw [read]
    rfl
  | fuel + 1,.obj [] => simp [write,writeFields,text,scanValue,skipBlank,isBlank,respelled,respelledFields,convert,convertFields]
  | fuel + 1,.obj ((key,value) :: fields) =>
    have read := scanFields_write reading separators ((key,value) :: fields) (by simp) rest fuel (by
      simp only [write,text,List.length_append,List.length_map] at enough
      simp at enough
      omega)
    have opened : write number comma colon (.obj ((key,value) :: fields)) ++ rest =
        0x7b :: (writeFields number comma colon ((key,value) :: fields) ++ 0x7d :: rest) := by
      simp [write,text]
    obtain ⟨more,shape⟩ : ∃ more, writeFields number comma colon ((key,value) :: fields) ++ 0x7d :: rest = 0x22 :: more :=
      ⟨_,rfl⟩
    rw [opened,scanValue,if_neg (by decide),if_pos rfl]
    rw [shape] at read ⊢
    rw [skipBlank_cons rfl]
    simp only [if_neg (by decide : ¬ (0x22 : Nat) = 0x7d)]
    rw [read]
    rfl
theorem scanItems_write (reading : Reading number reread) (separators : Separators comma colon) (items : List (Json ν))
    (nonempty : items ≠ []) (rest : Text) (fuel : Nat)
    (enough : 2 * (writeItems number comma colon items).length + 1 ≤ fuel) :
    scanItems fuel (writeItems number comma colon items ++ 0x5d :: rest) = some (convertItems reread (respelledItems items),rest) := by
  match fuel,items with
  | 0,_ => omega
  | _,[] => exact absurd rfl nonempty
  | fuel + 1,[item] =>
    have read := scanValue_write reading separators item (0x5d :: rest) rfl fuel (by
      simp only [writeItems,List.length_append] at enough
      omega)
    have closed : skipBlank (0x5d :: rest) = 0x5d :: rest := skipBlank_cons rfl rest
    simp only [writeItems,List.isEmpty_nil,if_true,List.append_nil,scanItems,read,closed]
    rfl
  | fuel + 1,item :: next :: items =>
    obtain ⟨gap,mark,spaces⟩ := separators.after
    have lengths : (writeItems number comma colon (item :: next :: items)).length =
        (write number comma colon item).length + (comma.length + (writeItems number comma colon (next :: items)).length) := by
      rw [writeItems]
      simp
    have positive := separators.length_pos
    have read := scanValue_write reading separators item
      (0x2c :: (gap ++ (writeItems number comma colon (next :: items) ++ 0x5d :: rest))) rfl fuel (by omega)
    have later := scanItems_write reading separators (next :: items) (by simp) rest fuel (by omega)
    have solid : Solid (writeItems number comma colon (next :: items) ++ 0x5d :: rest) := by
      rw [writeItems,List.append_assoc]
      exact write_solid reading comma colon next _
    have split : writeItems number comma colon (item :: next :: items) ++ 0x5d :: rest =
        write number comma colon item ++ (comma ++ (writeItems number comma colon (next :: items) ++ 0x5d :: rest)) := by
      rw [writeItems]
      simp
    rw [split,mark,scanItems]
    simp only [read]
    rw [skipBlank_cons rfl]
    simp only [if_neg (by decide : ¬ (0x2c : Nat) = 0x5d),if_true]
    rw [skipBlank_gap spaces,solid.skip,later]
    rfl
theorem scanFields_write (reading : Reading number reread) (separators : Separators comma colon)
    (fields : List (Text × Json ν)) (nonempty : fields ≠ []) (rest : Text) (fuel : Nat)
    (enough : 2 * (writeFields number comma colon fields).length + 1 ≤ fuel) :
    scanFields fuel (writeFields number comma colon fields ++ 0x7d :: rest) =
      some (convertFields reread (respelledFields fields),rest) := by
  match fuel,fields with
  | 0,_ => omega
  | _,[] => exact absurd rfl nonempty
  | fuel + 1,[(key,value)] =>
    have read := scanValue_write reading separators value (0x7d :: rest) rfl fuel (by
      simp only [writeFields,List.length_append] at enough
      omega)
    have field := scanFields_field separators key (write_solid reading comma colon value _) rfl read
    simp only [writeFields,List.isEmpty_nil,if_true,List.append_nil,List.append_assoc]
    rw [field,if_pos rfl]
    rfl
  | fuel + 1,(key,value) :: next :: fields =>
    obtain ⟨gap,mark,spaces⟩ := separators.after
    have lengths : (writeFields number comma colon ((key,value) :: next :: fields)).length =
        (quoted key).length + colon.length + (write number comma colon value).length +
          (comma.length + (writeFields number comma colon (next :: fields)).length) := by
      rw [writeFields]
      simp
      omega
    have positive := separators.length_pos
    have read := scanValue_write reading separators value
      (0x2c :: (gap ++ (writeFields number comma colon (next :: fields) ++ 0x7d :: rest))) rfl fuel (by omega)
    have later := scanFields_write reading separators (next :: fields) (by simp) rest fuel (by omega)
    have field := scanFields_field separators key (write_solid reading comma colon value _) rfl read
    have split : writeFields number comma colon ((key,value) :: next :: fields) ++ 0x7d :: rest =
        quoted key ++ (colon ++ (write number comma colon value ++
          (comma ++ (writeFields number comma colon (next :: fields) ++ 0x7d :: rest)))) := by
      rw [writeFields]
      simp
    have opened : skipBlank (writeFields number comma colon (next :: fields) ++ 0x7d :: rest) =
        writeFields number comma colon (next :: fields) ++ 0x7d :: rest := skipBlank_cons rfl _
    rw [split,mark,field,if_neg (by decide),if_pos rfl,skipBlank_gap spaces,opened,later]
    rfl
end

theorem loads_respelled (reading : Reading number reread) (separators : Separators comma colon) (v : Json ν) :
    loads (write number comma colon v) = some (convert reread (respelled v)) := by
  have read := scanValue_write reading separators v [] trivial
    (2 * (write number comma colon v).length + 2) (Nat.le_add_right _ _)
  have solid := write_solid reading comma colon v []
  rw [List.append_nil] at read solid
  rw [loads,solid.skip,read]
  rfl

theorem loads_write (reading : Reading number reread) (separators : Separators comma colon) {v : Json ν}
    (whole : WholeTexts v) : loads (write number comma colon v) = some (convert reread v) := by
  rw [loads_respelled reading separators,respelled_whole v whole]

theorem write_printable (reading : Reading number reread) (separators : Separators comma colon) (v : Json ν) :
    ∀ c ∈ write number comma colon v, Printable c := by
  obtain ⟨gap,rfl,spaces⟩ := separators.comma
  obtain ⟨space,rfl,spacesToo⟩ := separators.colon
  refine write_chars (fun _ printable => printable) reading.printable ?_ ?_ v
  · intro c member
    rcases List.mem_cons.mp member with rfl | blank
    · decide
    · rw [spaces c blank]; decide
  · intro c member
    rcases List.mem_cons.mp member with rfl | blank
    · decide
    · rw [spacesToo c blank]; decide

theorem decodeUtf8_asciiBytes {t : Text} (ascii : ∀ c ∈ t, c < 0x80) : decodeUtf8 (asciiBytes t) = some t := by
  induction t with
  | nil => rfl
  | cons c rest ih =>
    have deeper := ih fun d member => ascii d (List.mem_cons_of_mem _ member)
    have small : c < 0x80 := ascii c List.mem_cons_self
    have byte : (UInt8.ofNat c).toNat = c := by
      simp only [UInt8.toNat_ofNat']
      omega
    have shape : asciiBytes (c :: rest) = UInt8.ofNat c :: asciiBytes rest := rfl
    rw [shape]
    unfold decodeUtf8
    rw [byte,if_pos small,deeper]
    rfl

theorem detectEncoding_printable {t : Text} (printable : ∀ c ∈ t, Printable c) :
    detectEncoding (asciiBytes t) = .utf8 := by
  have plain : ∀ b ∈ asciiBytes t, b ≠ 0 ∧ b ≠ 0xfe ∧ b ≠ 0xff ∧ b ≠ 0xef := by
    intro b member
    obtain ⟨c,inside,rfl⟩ := List.mem_map.mp member
    have bounds := printable c inside
    refine ⟨?_,?_,?_,?_⟩ <;> intro same <;> have values := congrArg UInt8.toNat same <;>
      simp only [UInt8.toNat_ofNat',Printable] at values bounds <;> revert values <;> simp <;> omega
  generalize asciiBytes t = bytes at plain
  have marks : ∀ mark ∈ [[0,0,0xfe,0xff],[0xff,0xfe,0,0],[0xfe,0xff],[0xff,0xfe],utf8Bom], mark.isPrefixOf bytes = false := by
    cases bytes with
    | nil => decide
    | cons a rest =>
      have first := plain a List.mem_cons_self
      simp [List.isPrefixOf,utf8Bom,first,Ne.symm]
  simp only [List.forall_mem_cons] at marks
  obtain ⟨wideBig,wideLittle,big,little,signed,-⟩ := marks
  simp only [detectEncoding,wideBig,wideLittle,big,little,signed,Bool.or_self,Bool.false_eq_true,if_false]
  split
  · rename_i a b c d rest
    rw [if_neg (plain a (by simp)).1,if_neg (plain b (by simp)).1]
  · rename_i a b
    rw [if_neg (plain a (by simp)).1,if_neg (plain b (by simp)).1]
  · rfl

theorem loadsBytes_write (reading : Reading number reread) (separators : Separators comma colon) {v : Json ν}
    (whole : WholeTexts v) (within : intsWithin PythonText.maxStrDigits (convert reread v) = true) :
    loadsBytes (asciiBytes (write number comma colon v)) = .ok (convert reread v) := by
  have printable := write_printable reading separators v
  have ascii : ∀ c ∈ write number comma colon v, c < 0x80 := fun c member =>
    Nat.lt_of_le_of_lt (printable c member).2 (by decide)
  rw [loadsBytes,detectEncoding_printable printable,decodeBytes,decodeUtf8_asciiBytes ascii]
  simp only [loads_write reading separators whole,within,if_true]

theorem field_cons (entry : Text × Json ν) (rest : List (Text × Json ν)) (key : Text) :
    field (entry :: rest) key = (field rest key).or (if entry.1 = key then some entry.2 else none) := by
  rw [field,List.reverse_cons,List.find?_append,List.find?_singleton,field]
  by_cases same : entry.1 = key
  · cases rest.reverse.find? (fun entry => decide (entry.1 = key)) <;> simp [same]
  · cases rest.reverse.find? (fun entry => decide (entry.1 = key)) <;> simp [same]

theorem field_member {fields : List (Text × Json ν)} (found : field fields key = some v) : (key,v) ∈ fields := by
  induction fields with
  | nil => cases found
  | cons entry rest ih =>
    rw [field_cons,Option.or_eq_some_iff] at found
    rcases found with later | ⟨_,here⟩
    · exact List.mem_cons_of_mem _ (ih later)
    · split at here
      · rename_i named
        cases Option.some.inj here
        rw [← named]
        exact List.mem_cons_self
      · cases here

theorem field_none {fields : List (Text × Json ν)} : field fields key = none ↔ key ∉ fields.map Prod.fst := by
  induction fields with
  | nil => simp [field]
  | cons entry rest ih =>
    rw [field_cons,Option.or_eq_none_iff,ih,List.map_cons,List.mem_cons,not_or,and_comm]
    simp [eq_comm]

theorem field_append (fields more : List (Text × Json ν)) (key : Text) :
    field (fields ++ more) key = (field more key).or (field fields key) := by
  induction fields with
  | nil => simp [field]
  | cons entry rest ih => rw [List.cons_append,field_cons,ih,field_cons,Option.or_assoc]

theorem field_filter (fields : List (Text × Json ν)) (removed key : Text) :
    field (fields.filter fun entry => decide (entry.1 ≠ removed)) key =
      if key = removed then none else field fields key := by
  induction fields with
  | nil => simp [field]
  | cons entry rest ih =>
    by_cases kept : entry.1 = removed
    · rw [List.filter_cons_of_neg (by simpa using kept),ih,field_cons]
      by_cases same : key = removed
      · rw [if_pos same,if_pos same]
      · have other : entry.1 ≠ key := fun equal => same (equal.symm.trans kept)
        rw [if_neg same,if_neg same,if_neg other,Option.or_none]
    · rw [List.filter_cons_of_pos (by simpa using kept),field_cons,ih,field_cons]
      by_cases same : key = removed
      · have other : entry.1 ≠ key := fun equal => kept (equal.trans same)
        rw [if_pos same,if_pos same,if_neg other]
        rfl
      · rw [if_neg same,if_neg same]

theorem field_unique {fields : List (Text × Json ν)} (unique : (fields.map Prod.fst).Nodup) :
    field fields key = some v ↔ (key,v) ∈ fields := by
  refine ⟨field_member,fun member => ?_⟩
  cases found : field fields key with
  | none => exact absurd (List.mem_map_of_mem member) (field_none.mp found)
  | some w =>
    have same := List.inj_on_of_nodup_map unique (field_member found) member rfl
    rw [(Prod.mk.inj same).2]

theorem sortFields_eq (fields : List (Text × Json ν)) :
    sortFields fields = fields.map fun entry => (entry.1,sortKeys entry.2) := by
  induction fields with
  | nil => rfl
  | cons entry rest ih => rw [sortFields,ih]; rfl

theorem field_sorted {fields : List (Text × Json ν)} (unique : (fields.map Prod.fst).Nodup) (key : Text) :
    field ((sortFields fields).insertionSort (fun a b => textLe a.1 b.1 = true)) key =
      (field fields key).map sortKeys := by
  have moved := List.perm_insertionSort (fun (a b : Text × Json ν) => textLe a.1 b.1 = true) (sortFields fields)
  have keys : (sortFields fields).map Prod.fst = fields.map Prod.fst := by
    rw [sortFields_eq,List.map_map]
    rfl
  have kept := (moved.map Prod.fst).nodup_iff.mpr (keys ▸ unique)
  refine Option.ext fun v => ?_
  rw [field_unique kept,moved.mem_iff,sortFields_eq,List.mem_map,Option.map_eq_some_iff]
  constructor
  · rintro ⟨⟨_,w⟩,member,same⟩
    cases same
    exact ⟨w,(field_unique unique).mpr member,rfl⟩
  · rintro ⟨w,found,rfl⟩
    exact ⟨(key,w),field_member found,rfl⟩

theorem sorted_object {fields : List (Text × Json ν)} (unique : (fields.map Prod.fst).Nodup) :
    ∃ sorted, sortKeys (.obj fields) = .obj sorted ∧ ∀ key, field sorted key = (field fields key).map sortKeys :=
  ⟨_,rfl,field_sorted unique⟩

mutual
def EachNumber (P : ν → Prop) : Json ν → Prop
  | .num n => P n
  | .arr items => EachItem P items
  | .obj fields => EachField P fields
  | _ => True
def EachItem (P : ν → Prop) : List (Json ν) → Prop
  | [] => True
  | item :: rest => EachNumber P item ∧ EachItem P rest
def EachField (P : ν → Prop) : List (Text × Json ν) → Prop
  | [] => True
  | (_,value) :: rest => EachNumber P value ∧ EachField P rest
end

theorem eachField_iff {P : ν → Prop} {fields : List (Text × Json ν)} :
    EachField P fields ↔ ∀ entry ∈ fields, EachNumber P entry.2 := by
  induction fields with
  | nil => simp [EachField]
  | cons entry rest ih => simp [EachField,ih]

mutual
theorem eachNumber_of_all {P : ν → Prop} (all : ∀ n, P n) (v : Json ν) : EachNumber P v := by
  match v with
  | .null => trivial
  | .bool _ => trivial
  | .num n => exact all n
  | .str _ => trivial
  | .arr items => exact eachItem_of_all all items
  | .obj fields => exact eachField_of_all all fields
theorem eachItem_of_all {P : ν → Prop} (all : ∀ n, P n) (items : List (Json ν)) : EachItem P items := by
  match items with
  | [] => trivial
  | item :: rest => exact ⟨eachNumber_of_all all item,eachItem_of_all all rest⟩
theorem eachField_of_all {P : ν → Prop} (all : ∀ n, P n) (fields : List (Text × Json ν)) : EachField P fields := by
  match fields with
  | [] => trivial
  | (_,value) :: rest => exact ⟨eachNumber_of_all all value,eachField_of_all all rest⟩
end

mutual
theorem EachNumber.convert {P : ν → Prop} {Q : μ → Prop} {f : ν → μ} (kept : ∀ n, P n → Q (f n)) (v : Json ν)
    (each : EachNumber P v) : EachNumber Q (convert f v) := by
  match v with
  | .null => trivial
  | .bool _ => trivial
  | .num n => exact kept n each
  | .str _ => trivial
  | .arr items => exact EachItem.convert kept items each
  | .obj fields => exact EachField.convert kept fields each
theorem EachItem.convert {P : ν → Prop} {Q : μ → Prop} {f : ν → μ} (kept : ∀ n, P n → Q (f n))
    (items : List (Json ν)) (each : EachItem P items) : EachItem Q (convertItems f items) := by
  match items with
  | [] => trivial
  | item :: rest => exact ⟨EachNumber.convert kept item each.1,EachItem.convert kept rest each.2⟩
theorem EachField.convert {P : ν → Prop} {Q : μ → Prop} {f : ν → μ} (kept : ∀ n, P n → Q (f n))
    (fields : List (Text × Json ν)) (each : EachField P fields) : EachField Q (convertFields f fields) := by
  match fields with
  | [] => trivial
  | (_,value) :: rest => exact ⟨EachNumber.convert kept value each.1,EachField.convert kept rest each.2⟩
end

mutual
theorem EachNumber.respelled {P : ν → Prop} (v : Json ν) (each : EachNumber P v) : EachNumber P (respelled v) := by
  match v with
  | .null => trivial
  | .bool _ => trivial
  | .num _ => exact each
  | .str _ => trivial
  | .arr items => exact EachItem.respelled items each
  | .obj fields => exact EachField.respelled fields each
theorem EachItem.respelled {P : ν → Prop} (items : List (Json ν)) (each : EachItem P items) :
    EachItem P (respelledItems items) := by
  match items with
  | [] => trivial
  | item :: rest => exact ⟨EachNumber.respelled item each.1,EachItem.respelled rest each.2⟩
theorem EachField.respelled {P : ν → Prop} (fields : List (Text × Json ν)) (each : EachField P fields) :
    EachField P (respelledFields fields) := by
  match fields with
  | [] => trivial
  | (_,value) :: rest => exact ⟨EachNumber.respelled value each.1,EachField.respelled rest each.2⟩
end

mutual
theorem EachNumber.sorted {P : ν → Prop} (v : Json ν) (each : EachNumber P v) : EachNumber P (sortKeys v) := by
  match v with
  | .null => trivial
  | .bool _ => trivial
  | .num _ => exact each
  | .str _ => trivial
  | .arr items => exact EachItem.sorted items each
  | .obj fields =>
    have sorted := eachField_iff.mp (EachField.sorted fields each)
    refine eachField_iff.mpr fun entry member => sorted entry ?_
    exact (List.perm_insertionSort _ _).mem_iff.mp member
theorem EachItem.sorted {P : ν → Prop} (items : List (Json ν)) (each : EachItem P items) :
    EachItem P (sortItems items) := by
  match items with
  | [] => trivial
  | item :: rest => exact ⟨EachNumber.sorted item each.1,EachItem.sorted rest each.2⟩
theorem EachField.sorted {P : ν → Prop} (fields : List (Text × Json ν)) (each : EachField P fields) :
    EachField P (sortFields fields) := by
  match fields with
  | [] => trivial
  | (_,value) :: rest => exact ⟨EachNumber.sorted value each.1,EachField.sorted rest each.2⟩
end

mutual
theorem convert_whole (f : ν → μ) (v : Json ν) (whole : WholeTexts v) : WholeTexts (convert f v) := by
  match v with
  | .null => trivial
  | .bool _ => trivial
  | .num _ => trivial
  | .str _ => exact whole
  | .arr items => exact convertItems_whole f items whole
  | .obj fields => exact convertFields_whole f fields whole
theorem convertItems_whole (f : ν → μ) (items : List (Json ν)) (whole : WholeItems items) :
    WholeItems (convertItems f items) := by
  match items with
  | [] => trivial
  | item :: rest => exact ⟨convert_whole f item whole.1,convertItems_whole f rest whole.2⟩
theorem convertFields_whole (f : ν → μ) (fields : List (Text × Json ν)) (whole : WholeFields fields) :
    WholeFields (convertFields f fields) := by
  match fields with
  | [] => trivial
  | (_,value) :: rest =>
    exact ⟨whole.1,convert_whole f value whole.2.1,convertFields_whole f rest whole.2.2⟩
end

def Short (digits : Nat) (n : Number) : Prop := intsWithin digits (.num n) = true

mutual
theorem intsWithin_iff (digits : Nat) (v : Json Number) : intsWithin digits v = true ↔ EachNumber (Short digits) v := by
  match v with
  | .null => exact ⟨fun _ => trivial,fun _ => rfl⟩
  | .bool _ => exact ⟨fun _ => trivial,fun _ => rfl⟩
  | .num _ => exact Iff.rfl
  | .str _ => exact ⟨fun _ => trivial,fun _ => rfl⟩
  | .arr items => exact itemsWithin_iff digits items
  | .obj fields => exact fieldsWithin_iff digits fields
theorem itemsWithin_iff (digits : Nat) (items : List (Json Number)) :
    itemsWithin digits items = true ↔ EachItem (Short digits) items := by
  match items with
  | [] => exact ⟨fun _ => trivial,fun _ => rfl⟩
  | item :: rest => rw [itemsWithin,Bool.and_eq_true,EachItem,intsWithin_iff digits item,itemsWithin_iff digits rest]
theorem fieldsWithin_iff (digits : Nat) (fields : List (Text × Json Number)) :
    fieldsWithin digits fields = true ↔ EachField (Short digits) fields := by
  match fields with
  | [] => exact ⟨fun _ => trivial,fun _ => rfl⟩
  | (_,value) :: rest =>
    rw [fieldsWithin,Bool.and_eq_true,EachField,intsWithin_iff digits value,fieldsWithin_iff digits rest]
end

end JsonText
