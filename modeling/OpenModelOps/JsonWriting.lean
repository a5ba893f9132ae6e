import OpenModelOps.JsonQuoting

namespace JsonText
variable {ν : Type} {number : ν → Text} {comma colon : Text}

mutual
def WholeTexts : Json ν → Prop
  | .str value => Whole value
  | .arr items => WholeItems items
  | .obj fields => WholeFields fields
  | _ => True
def WholeItems : List (Json ν) → Prop
  | [] => True
  | item :: rest => WholeTexts item ∧ WholeItems rest
def WholeFields : List (Text × Json ν) → Prop
  | [] => True
  | (key,value) :: rest => Whole key ∧ WholeTexts value ∧ WholeFields rest
end

-- What a writer of numbers must do for documents to be told apart: a text of
-- its own for each number, without marks and unlike the other values.
structure Numbering (number : ν → Text) : Prop where
  injective : Function.Injective number
  opens : ∀ n, ∃ c rest, number n = c :: rest ∧ c ≠ 0x6e ∧ c ≠ 0x74 ∧ c ≠ 0x66
  unmarked : ∀ n, ∀ c ∈ number n, c ∉ [0x22,0x5b,0x7b,0x2c,0x5d,0x7d]
  ascii : ∀ n, ∀ c ∈ number n, c < 0x80

def closing (c : Nat) : Bool := c == 0x2c || c == 0x5d || c == 0x7d

def Delimited : Text → Prop
  | [] => True
  | c :: _ => closing c = true

theorem Delimited.mark {rest : Text} (delimited : Delimited (c :: rest)) : c = 0x2c ∨ c = 0x5d ∨ c = 0x7d := by
  have closed : closing c = true := delimited
  simpa only [closing,Bool.or_eq_true,beq_iff_eq,or_assoc] using closed

theorem open_span {t rest : Text} (opened : ∀ c ∈ t, closing c = false) (delimited : Delimited rest) :
    (t ++ rest).takeWhile (fun c => !closing c) = t ∧ (t ++ rest).dropWhile (fun c => !closing c) = rest := by
  induction t with
  | nil =>
    cases rest with
    | nil => exact ⟨rfl,rfl⟩
    | cons c rest =>
      have closed : closing c = true := delimited
      simp [closed]
  | cons c t ih =>
    have here := opened c List.mem_cons_self
    obtain ⟨taken,dropped⟩ := ih fun d member => opened d (List.mem_cons_of_mem _ member)
    simp [here,taken,dropped]

theorem Numbering.open (numbering : Numbering number) (n : ν) : ∀ c ∈ number n, closing c = false := by
  intro c member
  have unmarked := numbering.unmarked n c member
  simp only [List.mem_cons,List.not_mem_nil,or_false,not_or] at unmarked
  simp [closing,unmarked]

theorem Numbering.cancel (numbering : Numbering number) {n m : ν} (left : Delimited rest) (right : Delimited more)
    (same : number n ++ rest = number m ++ more) : n = m ∧ rest = more := by
  obtain ⟨taken,dropped⟩ := open_span (numbering.open n) left
  obtain ⟨takenToo,droppedToo⟩ := open_span (numbering.open m) right
  rw [same] at taken dropped
  exact ⟨numbering.injective (taken.symm.trans takenToo),dropped.symm.trans droppedToo⟩

inductive Lead : Json ν → Nat → Prop where
  | null : Lead .null 0x6e
  | yes : Lead (.bool true) 0x74
  | no : Lead (.bool false) 0x66
  | num : c ∉ [0x6e,0x74,0x66,0x22,0x5b,0x7b,0x2c,0x5d,0x7d] → Lead (.num n) c
  | str : Lead (.str value) 0x22
  | arr : Lead (.arr items) 0x5b
  | obj : Lead (.obj fields) 0x7b

theorem write_lead (numbering : Numbering number) (comma colon : Text) (value : Json ν) :
    ∃ c rest, write number comma colon value = c :: rest ∧ Lead value c := by
  cases value with
  | null => exact ⟨0x6e,_,rfl,.null⟩
  | bool value =>
    cases value with
    | false => exact ⟨0x66,_,rfl,.no⟩
    | true => exact ⟨0x74,_,rfl,.yes⟩
  | num n =>
    obtain ⟨c,rest,shape,other⟩ := numbering.opens n
    have unmarked := numbering.unmarked n c (by simp [shape])
    refine ⟨c,rest,by rw [write,shape],.num ?_⟩
    simp only [List.mem_cons,List.not_mem_nil,or_false,not_or] at unmarked ⊢
    exact ⟨other.1,other.2.1,other.2.2,unmarked⟩
  | str value => exact ⟨0x22,_,rfl,.str⟩
  | arr items => exact ⟨0x5b,_,rfl,.arr⟩
  | obj fields => exact ⟨0x7b,_,rfl,.obj⟩

theorem Lead.inside (lead : Lead value c) : closing c = false := by
  cases lead with
  | num other =>
    simp only [List.mem_cons,List.not_mem_nil,or_false,not_or] at other
    simp [closing,other]
  | _ => rfl

def kind : Json ν → Nat
  | .null => 0
  | .bool true => 1
  | .bool false => 2
  | .num _ => 3
  | .str _ => 4
  | .arr _ => 5
  | .obj _ => 6

theorem Lead.kind_eq (left : Lead v c) (right : Lead w c) : kind v = kind w := by
  cases left <;> cases right <;> simp_all [kind]

theorem delimited_tail {tail : Text} (closed : closing mark = true) (separates : ∃ gap, comma = 0x2c :: gap)
    (rest : List α) (later : Text) :
    Delimited ((if rest.isEmpty then [] else comma ++ later) ++ mark :: tail) := by
  obtain ⟨gap,rfl⟩ := separates
  cases rest with
  | nil => exact closed
  | cons _ _ => rfl

theorem write_kind (numbering : Numbering number) {v w : Json ν} {rest more : Text}
    (same : write number comma colon v ++ rest = write number comma colon w ++ more) : kind v = kind w := by
  obtain ⟨c,first,shape,lead⟩ := write_lead numbering comma colon v
  obtain ⟨d,second,shapeToo,leadToo⟩ := write_lead numbering comma colon w
  rw [shape,shapeToo,List.cons_append,List.cons_append] at same
  obtain rfl := (List.cons.inj same).1
  exact lead.kind_eq leadToo

theorem write_unclosed (numbering : Numbering number) (v : Json ν) (closed : closing mark = true) {rest more : Text} :
    write number comma colon v ++ rest ≠ mark :: more := by
  obtain ⟨c,first,shape,lead⟩ := write_lead numbering comma colon v
  rw [shape,List.cons_append]
  intro same
  have inside := lead.inside
  rw [(List.cons.inj same).1,closed] at inside
  cases inside

theorem separated_cancel {xs ys : List α} {later laterToo rest more : Text} (closed : mark ≠ 0x2c)
    (separates : ∃ gap, comma = 0x2c :: gap)
    (same : (if xs.isEmpty then [] else comma ++ later) ++ mark :: rest =
      (if ys.isEmpty then [] else comma ++ laterToo) ++ mark :: more) :
    (xs = [] ∧ ys = [] ∧ rest = more) ∨ (xs ≠ [] ∧ ys ≠ [] ∧ later ++ mark :: rest = laterToo ++ mark :: more) := by
  obtain ⟨gap,rfl⟩ := separates
  cases xs with
  | nil =>
    cases ys with
    | nil => exact .inl ⟨rfl,rfl,(List.cons.inj same).2⟩
    | cons y ys => exact absurd (List.cons.inj same).1 closed
  | cons x xs =>
    cases ys with
    | nil => exact absurd (List.cons.inj same).1.symm closed
    | cons y ys =>
      simp only [List.isEmpty_cons,Bool.false_eq_true,if_false,List.append_assoc] at same
      exact .inr ⟨by simp,by simp,List.append_cancel_left same⟩

-- Equal texts start with equal values: by recursion on the first value, one
-- case for each kind.
mutual
theorem write_cancel (numbering : Numbering number) (separates : ∃ gap, comma = 0x2c :: gap) (v w : Json ν)
    (left : WholeTexts v) (right : WholeTexts w) (rest more : Text) (ends : Delimited rest) (endsToo : Delimited more)
    (same : write number comma colon v ++ rest = write number comma colon w ++ more) : v = w ∧ rest = more := by
  have kinds := write_kind numbering same
  match v,w with
  | .null,.null => exact ⟨rfl,List.append_cancel_left same⟩
  | .bool true,.bool true => exact ⟨rfl,List.append_cancel_left same⟩
  | .bool false,.bool false => exact ⟨rfl,List.append_cancel_left same⟩
  | .num n,.num m =>
    obtain ⟨rfl,tails⟩ := numbering.cancel ends endsToo same
    exact ⟨rfl,tails⟩
  | .str t,.str u =>
    obtain ⟨rfl,tails⟩ := quoted_cancel left right same
    exact ⟨rfl,tails⟩
  | .arr items,.arr others =>
    simp only [write,List.append_assoc] at same
    obtain ⟨rfl,tails⟩ := writeItems_cancel numbering separates items others left right rest more
      (List.append_cancel_left same)
    exact ⟨rfl,tails⟩
  | .obj fields,.obj others =>
    simp only [write,List.append_assoc] at same
    obtain ⟨rfl,tails⟩ := writeFields_cancel numbering separates fields others left right rest more
      (List.append_cancel_left same)
    exact ⟨rfl,tails⟩
theorem writeItems_cancel (numbering : Numbering number) (separates : ∃ gap, comma = 0x2c :: gap)
    (items others : List (Json ν)) (left : WholeItems items) (right : WholeItems others)
    (rest more : Text) (same : writeItems number comma colon items ++ (0x5d :: rest) =
      writeItems number comma colon others ++ (0x5d :: more)) : items = others ∧ rest = more := by
  match items,others with
  | [],[] => exact ⟨rfl,(List.cons.inj same).2⟩
  | [],w :: ws =>
    simp only [writeItems,List.append_assoc] at same
    exact absurd same.symm (write_unclosed numbering w rfl)
  | v :: vs,[] =>
    simp only [writeItems,List.append_assoc] at same
    exact absurd same (write_unclosed numbering v rfl)
  | v :: vs,w :: ws =>
    simp only [writeItems,List.append_assoc] at same
    obtain ⟨rfl,tails⟩ := write_cancel numbering separates v w left.1 right.1 _ _ (delimited_tail rfl separates vs _)
      (delimited_tail rfl separates ws _) same
    rcases separated_cancel (by decide) separates tails with ⟨rfl,rfl,ends⟩ | ⟨_,_,later⟩
    · exact ⟨rfl,ends⟩
    · obtain ⟨rfl,ends⟩ := writeItems_cancel numbering separates vs ws left.2 right.2 rest more later
      exact ⟨rfl,ends⟩
theorem writeFields_cancel (numbering : Numbering number) (separates : ∃ gap, comma = 0x2c :: gap)
    (fields others : List (Text × Json ν)) (left : WholeFields fields)
    (right : WholeFields others) (rest more : Text)
    (same : writeFields number comma colon fields ++ (0x7d :: rest) =
      writeFields number comma colon others ++ (0x7d :: more)) : fields = others ∧ rest = more := by
  match fields,others with
  | [],[] => exact ⟨rfl,(List.cons.inj same).2⟩
  | [],(_,_) :: ws =>
    simp only [writeFields,quoted,List.cons_append] at same
    exact absurd (List.cons.inj same).1 (by decide)
  | (_,_) :: vs,[] =>
    simp only [writeFields,quoted,List.cons_append] at same
    exact absurd (List.cons.inj same).1 (by decide)
  | (key,v) :: vs,(other,w) :: ws =>
    simp only [writeFields,List.append_assoc] at same
    obtain ⟨rfl,values⟩ := quoted_cancel left.1 right.1 same
    obtain ⟨rfl,tails⟩ := write_cancel numbering separates v w left.2.1 right.2.1 _ _ (delimited_tail rfl separates vs _)
      (delimited_tail rfl separates ws _) (List.append_cancel_left values)
    rcases separated_cancel (by decide) separates tails with ⟨rfl,rfl,ends⟩ | ⟨_,_,later⟩
    · exact ⟨rfl,ends⟩
    · obtain ⟨rfl,ends⟩ := writeFields_cancel numbering separates vs ws left.2.2 right.2.2 rest more later
      exact ⟨rfl,ends⟩
end

theorem write_injective (numbering : Numbering number) (separates : ∃ gap, comma = 0x2c :: gap) {v w : Json ν}
    (left : WholeTexts v) (right : WholeTexts w)
    (same : write number comma colon v = write number comma colon w) : v = w := by
  have ended : write number comma colon v ++ [] = write number comma colon w ++ [] := by
    rw [List.append_nil,List.append_nil]
    exact same
  exact (write_cancel numbering separates v w left right [] [] trivial trivial ended).1

theorem wholeFields_iff {fields : List (Text × Json ν)} :
    WholeFields fields ↔ ∀ entry ∈ fields, Whole entry.1 ∧ WholeTexts entry.2 := by
  induction fields with
  | nil => simp [WholeFields]
  | cons entry rest ih => simp [WholeFields,ih,and_assoc]

mutual
theorem sortKeys_whole (v : Json ν) (whole : WholeTexts v) : WholeTexts (sortKeys v) := by
  match v with
  | .null => trivial
  | .bool _ => trivial
  | .num _ => trivial
  | .str _ => exact whole
  | .arr items => exact sortItems_whole items whole
  | .obj fields =>
    have sorted := wholeFields_iff.mp (sortFields_whole fields whole)
    refine wholeFields_iff.mpr fun entry member => sorted entry ?_
    exact (List.perm_insertionSort _ _).mem_iff.mp member
theorem sortItems_whole (items : List (Json ν)) (whole : WholeItems items) : WholeItems (sortItems items) := by
  match items with
  | [] => trivial
  | item :: rest => exact ⟨sortKeys_whole item whole.1,sortItems_whole rest whole.2⟩
theorem sortFields_whole (fields : List (Text × Json ν)) (whole : WholeFields fields) :
    WholeFields (sortFields fields) := by
  match fields with
  | [] => trivial
  | (key,value) :: rest =>
    exact ⟨whole.1,sortKeys_whole value whole.2.1,sortFields_whole rest whole.2.2⟩
end

mutual
theorem write_chars {P : Nat → Prop} (printable : ∀ c, Printable c → P c) (numbers : ∀ n, ∀ c ∈ number n, P c)
    (commas : ∀ c ∈ comma, P c) (colons : ∀ c ∈ colon, P c) (v : Json ν) :
    ∀ c ∈ write number comma colon v, P c := by
  have letters : ∀ {s : Text}, (∀ c ∈ s, Printable c) → ∀ c ∈ s, P c := fun all c member => printable c (all c member)
  match v with
  | .null => exact letters (by decide : ∀ c ∈ text "null", Printable c)
  | .bool true => exact letters (by decide : ∀ c ∈ text "true", Printable c)
  | .bool false => exact letters (by decide : ∀ c ∈ text "false", Printable c)
  | .num n => exact numbers n
  | .str t => exact letters (quoted_printable t)
  | .arr items =>
    intro c member
    simp only [write,List.mem_append] at member
    rcases member with (opened | inside) | closed
    · exact letters (by decide) c opened
    · exact writeItems_chars printable numbers commas colons items c inside
    · exact letters (by decide) c closed
  | .obj fields =>
    intro c member
    simp only [write,List.mem_append] at member
    rcases member with (opened | inside) | closed
    · exact letters (by decide) c opened
    · exact writeFields_chars printable numbers commas colons fields c inside
    · exact letters (by decide) c closed
theorem writeItems_chars {P : Nat → Prop} (printable : ∀ c, Printable c → P c) (numbers : ∀ n, ∀ c ∈ number n, P c)
    (commas : ∀ c ∈ comma, P c) (colons : ∀ c ∈ colon, P c) (items : List (Json ν)) :
    ∀ c ∈ writeItems number comma colon items, P c := by
  match items with
  | [] => simp [writeItems]
  | item :: rest =>
    intro c member
    simp only [writeItems,List.mem_append] at member
    rcases member with here | later
    · exact write_chars printable numbers commas colons item c here
    · split at later
      · cases later
      · rcases List.mem_append.mp later with mark | later
        · exact commas c mark
        · exact writeItems_chars printable numbers commas colons rest c later
theorem writeFields_chars {P : Nat → Prop} (printable : ∀ c, Printable c → P c) (numbers : ∀ n, ∀ c ∈ number n, P c)
    (commas : ∀ c ∈ comma, P c) (colons : ∀ c ∈ colon, P c) (fields : List (Text × Json ν)) :
    ∀ c ∈ writeFields number comma colon fields, P c := by
  match fields with
  | [] => simp [writeFields]
  | (key,value) :: rest =>
    intro c member
    simp only [writeFields,List.mem_append] at member
    rcases member with ((name | mark) | here) | later
    · exact printable c (quoted_printable key c name)
    · exact colons c mark
    · exact write_chars printable numbers commas colons value c here
    · split at later
      · cases later
      · rcases List.mem_append.mp later with mark | later
        · exact commas c mark
        · exact writeFields_chars printable numbers commas colons rest c later
end

theorem write_ascii (numbering : Numbering number) (v : Json ν) : ∀ x ∈ write number [0x2c] [0x3a] v, x < 0x80 :=
  write_chars (fun _ printable => Nat.lt_of_le_of_lt printable.2 (by decide)) numbering.ascii (by decide) (by decide) v

theorem compactDumps_injective (numbering : Numbering number) {v w : Json ν} (left : WholeTexts v) (right : WholeTexts w)
    (same : asciiBytes (compactDumps number v) = asciiBytes (compactDumps number w)) : sortKeys v = sortKeys w := by
  have texts := asciiBytes_injective (write_ascii numbering _) (write_ascii numbering _) same
  exact write_injective numbering ⟨[],rfl⟩ (sortKeys_whole v left) (sortKeys_whole w right) texts

def digit (c : Nat) : Prop := 0x30 ≤ c ∧ c ≤ 0x39

theorem reprText_digits (n : Nat) : ∀ c ∈ text n.repr, digit c := by
  intro c member
  rw [text,Nat.toList_repr] at member
  obtain ⟨char,inside,rfl⟩ := List.mem_map.mp member
  have isDigit := Nat.isDigit_of_mem_toDigits (by decide) (by decide) inside
  simp only [Char.isDigit,Bool.and_eq_true,decide_eq_true_eq] at isDigit
  exact isDigit

theorem reprText_nonempty (n : Nat) : text n.repr ≠ [] := by
  rw [text,Nat.toList_repr]
  simp

theorem reprText_injective {n m : Nat} (same : text n.repr = text m.repr) : n = m := by
  have digits := congrArg String.toList (text_injective same)
  rw [Nat.toList_repr,Nat.toList_repr] at digits
  have values := congrArg (fun cs => Nat.ofDigitChars 10 cs 0) digits
  rwa [Nat.ofDigitChars_toDigits (by decide) (by decide),Nat.ofDigitChars_toDigits (by decide) (by decide)] at values

theorem intText_negative (n : Nat) : intText (.negSucc n) = 0x2d :: text (n + 1).repr := by
  change text ("-" ++ (n + 1).repr) = _
  rw [text,String.toList_append,List.map_append]
  rfl

theorem intText_chars (n : Int) : ∀ c ∈ intText n, c = 0x2d ∨ digit c := by
  intro c member
  cases n with
  | ofNat n => exact .inr (reprText_digits n c member)
  | negSucc n =>
    rw [intText_negative] at member
    rcases List.mem_cons.mp member with sign | inside
    · exact .inl sign
    · exact .inr (reprText_digits (n + 1) c inside)

theorem intText_nonempty (n : Int) : intText n ≠ [] := by
  cases n with
  | ofNat n => exact reprText_nonempty n
  | negSucc n => rw [intText_negative]; exact List.cons_ne_nil _ _

theorem reprText_unsigned (n : Nat) {rest : Text} : text n.repr ≠ 0x2d :: rest := by
  intro same
  have first := reprText_digits n 0x2d (by rw [same]; exact List.mem_cons_self)
  exact absurd first.1 (by decide)

theorem intText_injective : Function.Injective intText := by
  intro n m same
  cases n with
  | ofNat n =>
    cases m with
    | ofNat m => exact congrArg Int.ofNat (reprText_injective same)
    | negSucc m => rw [intText_negative] at same; exact absurd same (reprText_unsigned n)
  | negSucc n =>
    cases m with
    | ofNat m => rw [intText_negative] at same; exact absurd same.symm (reprText_unsigned m)
    | negSucc m =>
      rw [intText_negative,intText_negative] at same
      have successors : n + 1 = m + 1 := reprText_injective (List.cons.inj same).2
      exact congrArg Int.negSucc (Nat.succ.inj successors)

end JsonText
