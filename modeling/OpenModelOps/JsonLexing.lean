import OpenModelOps.JsonText
import Mathlib.Data.List.TakeWhile

namespace JsonText

-- What a reader of the raw text must know of the characters before it: whether
-- a string is open, and whether a decimal point still waits for its digit.
inductive Lexeme where
  | outside
  | dotted
  | inside
  | escaped
  deriving DecidableEq

def lexStep : Lexeme → Nat → Option Lexeme
  | .outside,c =>
    if c = 0x22 then some .inside else if c = 0x5c then none
    else if c = 0x2e then some .dotted else some .outside
  | .dotted,c => if isDigit c then some .outside else none
  | .inside,c => if c = 0x22 then some .outside else if c = 0x5c then some .escaped else some .inside
  | .escaped,_ => some .inside

def lexRun : Lexeme → Text → Option Lexeme
  | state,[] => some state
  | state,c :: rest => (lexStep state c).bind (lexRun · rest)

theorem lexRun_append (state : Lexeme) (left right : Text) :
    lexRun state (left ++ right) = (lexRun state left).bind (lexRun · right) := by
  induction left generalizing state with
  | nil => rfl
  | cons c rest ih => simp [lexRun,ih,Option.bind_assoc]

def Closed (used : Text) : Prop := lexRun .outside used = some .outside

def Plain (c : Nat) : Prop := c ≠ 0x22 ∧ c ≠ 0x5c ∧ c ≠ 0x2e

theorem Closed.append (left : Closed used) (right : Closed more) : Closed (used ++ more) := by
  simp only [Closed] at *
  rw [lexRun_append,left]
  exact right

theorem closed_plain (plain : ∀ c ∈ used, Plain c) : Closed used := by
  induction used with
  | nil => rfl
  | cons c rest ih =>
    obtain ⟨notQuote,notSlash,notDot⟩ := plain c List.mem_cons_self
    have tail := ih fun d member => plain d (List.mem_cons_of_mem _ member)
    simpa [Closed,lexRun,lexStep,notQuote,notSlash,notDot] using tail

theorem digit_plain (digit : isDigit c = true) : Plain c := by
  simp only [isDigit,Bool.and_eq_true,decide_eq_true_eq] at digit
  refine ⟨?_,?_,?_⟩ <;> omega

theorem blank_plain (blank : isBlank c = true) : Plain c := by
  simp only [isBlank,Bool.or_eq_true,beq_iff_eq] at blank
  refine ⟨?_,?_,?_⟩ <;> omega

def Consumes (cs tail : Text) : Prop := ∃ used, cs = used ++ tail ∧ Closed used

theorem Consumes.refl (cs : Text) : Consumes cs cs := ⟨[],rfl,rfl⟩

theorem Consumes.trans (left : Consumes cs middle) (right : Consumes middle tail) : Consumes cs tail := by
  obtain ⟨used,rfl,closed⟩ := left
  obtain ⟨more,rfl,also⟩ := right
  exact ⟨used ++ more,by rw [List.append_assoc],closed.append also⟩

theorem Consumes.cons (plain : Plain c) (rest : Consumes cs tail) : Consumes (c :: cs) tail :=
  Consumes.trans ⟨[c],rfl,closed_plain (by simpa using plain)⟩ rest

theorem consumes_while (choose : Nat → Bool) (plain : ∀ c, choose c = true → Plain c) (cs : Text) :
    Consumes cs (cs.dropWhile choose) :=
  ⟨cs.takeWhile choose,(List.takeWhile_append_dropWhile).symm,
    closed_plain fun c member => plain c (List.all_eq_true.mp List.all_takeWhile c member)⟩

theorem consumes_blank (cs : Text) : Consumes cs (skipBlank cs) :=
  consumes_while isBlank (fun _ => blank_plain) cs

def Spells (cs tail : Text) : Prop := ∃ used, cs = used ++ tail ∧ Closed used ∧ 0x7d ∉ used

theorem Spells.consumes (spells : Spells cs tail) : Consumes cs tail := by
  obtain ⟨used,split,closed,_⟩ := spells
  exact ⟨used,split,closed⟩

theorem Spells.refl (cs : Text) : Spells cs cs := ⟨[],rfl,rfl,by simp⟩

theorem Spells.trans (left : Spells cs middle) (right : Spells middle tail) : Spells cs tail := by
  obtain ⟨used,rfl,closed,braceless⟩ := left
  obtain ⟨more,rfl,also,without⟩ := right
  exact ⟨used ++ more,by rw [List.append_assoc],closed.append also,by simp [braceless,without]⟩

theorem Spells.cons (plain : Plain c) (brace : c ≠ 0x7d) (rest : Spells cs tail) : Spells (c :: cs) tail :=
  Spells.trans ⟨[c],rfl,closed_plain (by simpa using plain),by simpa using brace.symm⟩ rest

theorem digit_brace (digit : isDigit c = true) : c ≠ 0x7d := by
  rintro rfl; cases digit

theorem Spells.digit (digit : isDigit c = true) (rest : Spells cs tail) : Spells (c :: cs) tail :=
  rest.cons (digit_plain digit) (digit_brace digit)

theorem spells_digits (cs : Text) : Spells cs (cs.dropWhile isDigit) := by
  induction cs with
  | nil => exact .refl []
  | cons c rest ih =>
    rw [List.dropWhile_cons]
    split
    · rename_i digit
      exact ih.digit digit
    · exact .refl _

def StringState.lexeme : StringState → Lexeme
  | .plain => .inside
  | .slash => .escaped
  | .hex _ _ => .inside

theorem hexValue_plain (found : hexValue c = some d) : Plain c := by
  unfold hexValue at found
  refine ⟨?_,?_,?_⟩ <;> rintro rfl <;> simp at found

theorem scanString_consumes (scanned : scanString state units cs = some (value,tail)) :
    ∃ used, cs = used ++ tail ∧ lexRun state.lexeme used = some .outside := by
  induction cs generalizing state units with
  | nil => simp [scanString] at scanned
  | cons c rest ih =>
    have push : ∀ {next : StringState} {more}, lexStep state.lexeme c = some next.lexeme →
        scanString next more rest = some (value,tail) →
        ∃ used, c :: rest = used ++ tail ∧ lexRun state.lexeme used = some .outside := by
      intro next more stepped deeper
      obtain ⟨used,split,closed⟩ := ih deeper
      exact ⟨c :: used,by rw [split]; rfl,by simp [lexRun,stepped,closed]⟩
    cases state with
    | plain =>
      simp only [scanString] at scanned
      split at scanned
      · rename_i quote
        cases Option.some.inj scanned
        exact ⟨[c],rfl,by simp [lexRun,lexStep,StringState.lexeme,quote]⟩
      · rename_i notQuote
        split at scanned
        · rename_i slash
          exact push (by simp [lexStep,StringState.lexeme,slash]) scanned
        · rename_i notSlash
          split at scanned
          · cases scanned
          · exact push (by simp [lexStep,StringState.lexeme,notQuote,notSlash]) scanned
    | slash =>
      simp only [scanString] at scanned
      split at scanned
      · exact push rfl scanned
      · split at scanned
        · exact push rfl scanned
        · cases scanned
    | hex left value =>
      simp only [scanString] at scanned
      split at scanned
      · cases scanned
      · rename_i digit found
        obtain ⟨notQuote,notSlash,_⟩ := hexValue_plain found
        have stay : lexStep (StringState.hex left value).lexeme c = some .inside := by
          simp [lexStep,StringState.lexeme,notQuote,notSlash]
        split at scanned
        · exact @push .plain _ stay scanned
        · exact @push (.hex _ _) _ stay scanned

theorem string_consumes (scanned : scanString .plain [] rest = some (value,tail)) :
    Consumes (0x22 :: rest) tail := by
  obtain ⟨used,split,closed⟩ := scanString_consumes scanned
  refine ⟨0x22 :: used,by rw [split]; rfl,?_⟩
  simpa [Closed,lexRun,lexStep,StringState.lexeme] using closed

theorem scanWhole_spells (scanned : scanWhole cs = some (whole,tail)) : Spells cs tail := by
  cases cs with
  | nil => simp [scanWhole] at scanned
  | cons c rest =>
    simp only [scanWhole] at scanned
    split at scanned
    · rename_i zero
      cases Option.some.inj scanned
      exact .digit (by simp [zero,isDigit]) (.refl _)
    · split at scanned
      · rename_i digit
        cases Option.some.inj scanned
        exact .digit digit (spells_digits rest)
      · cases scanned

theorem scanFraction_spells (cs : Text) : Spells cs (scanFraction cs).2 := by
  unfold scanFraction
  split
  · rename_i dot d rest
    split
    · rename_i shape
      obtain ⟨isDot,digit⟩ := shape
      refine Spells.trans ⟨[dot,d],rfl,?_,?_⟩ (spells_digits rest)
      · simp [Closed,lexRun,lexStep,isDot,digit]
      · simp [isDot,(digit_brace digit).symm]
    · exact .refl _
  · exact .refl _

theorem exponentSign_plain (sign : exponentSign c = some negative) : Plain c ∧ c ≠ 0x7d := by
  unfold exponentSign at sign
  refine ⟨⟨?_,?_,?_⟩,?_⟩ <;> rintro rfl <;> simp at sign

theorem scanExponent_spells (cs : Text) : Spells cs (scanExponent cs).2 := by
  unfold scanExponent
  split
  · rename_i e d rest
    split
    · rename_i letter
      have plainLetter : Plain e ∧ e ≠ 0x7d := by
        rcases letter with rfl | rfl <;> exact ⟨⟨by decide,by decide,by decide⟩,by decide⟩
      split
      · rename_i negative f more sign
        obtain ⟨plainSign,brace⟩ := exponentSign_plain sign
        split
        · rename_i digit
          exact .cons plainLetter.1 plainLetter.2 (.cons plainSign brace (.digit digit (spells_digits more)))
        · exact .refl _
      · split
        · rename_i digit
          exact .cons plainLetter.1 plainLetter.2 (.digit digit (spells_digits _))
        · exact .refl _
      · exact .refl _
    · exact .refl _
  · exact .refl _

theorem scanUnsigned_spells (scanned : scanUnsigned negative cs = some (value,tail)) : Spells cs tail := by
  unfold scanUnsigned at scanned
  split at scanned
  · cases scanned
  · rename_i whole afterWhole found
    cases Option.some.inj scanned
    exact ((scanWhole_spells found).trans (scanFraction_spells _)).trans (scanExponent_spells _)

theorem scanNumber_spells (scanned : scanNumber cs = some (value,tail)) : Spells cs tail := by
  cases cs with
  | nil => simp [scanNumber] at scanned
  | cons c rest =>
    simp only [scanNumber] at scanned
    split at scanned
    · rename_i minus
      exact .cons ⟨by omega,by omega,by omega⟩ (by omega) (scanUnsigned_spells scanned)
    · exact scanUnsigned_spells scanned

theorem literals_closed : ∀ entry ∈ literals, Closed entry.1 := by
  simp only [literals,List.forall_mem_cons]
  refine ⟨?_,?_,?_,?_,?_,?_,by simp⟩ <;> rfl

theorem scanLiteral_consumes (scanned : scanLiteral cs = some (value,tail)) : Consumes cs tail := by
  unfold scanLiteral at scanned
  obtain ⟨entry,found,equal⟩ := Option.map_eq_some_iff.mp scanned
  cases equal
  have leads : entry.1.isPrefixOf cs = true := by simpa using List.find?_some found
  obtain ⟨rest,rfl⟩ := List.isPrefixOf_iff_prefix.mp leads
  exact ⟨entry.1,by simp,literals_closed entry (List.mem_of_find?_eq_some found)⟩

theorem scanFields_parts (scanned : scanFields (fuel + 1) cs = some (fields,tail)) :
    ∃ rest key afterKey afterColon value afterValue d after, cs = 0x22 :: rest ∧
      scanString .plain [] rest = some (key,afterKey) ∧ skipBlank afterKey = 0x3a :: afterColon ∧
      scanValue fuel (skipBlank afterColon) = some (value,afterValue) ∧ skipBlank afterValue = d :: after ∧
      ((d = 0x7d ∧ after = tail ∧ fields = [(key,value)]) ∨
        (d = 0x2c ∧ ∃ more, scanFields fuel (skipBlank after) = some (more,tail) ∧ fields = (key,value) :: more)) := by
  cases cs with
  | nil => simp [scanFields] at scanned
  | cons c rest =>
    simp only [scanFields] at scanned
    split at scanned
    swap
    · cases scanned
    rename_i quote
    split at scanned
    · cases scanned
    rename_i key afterKey string
    split at scanned
    · cases scanned
    rename_i colon afterColon blank
    split at scanned
    swap
    · cases scanned
    rename_i isColon
    split at scanned
    · cases scanned
    rename_i value afterValue read
    split at scanned
    · cases scanned
    rename_i d after next
    refine ⟨rest,key,afterKey,afterColon,value,afterValue,d,after,by rw [quote],string,by rw [blank,isColon],read,next,?_⟩
    split at scanned
    · rename_i close
      cases Option.some.inj scanned
      exact .inl ⟨close,rfl,rfl⟩
    · split at scanned
      · rename_i comma
        obtain ⟨⟨more,_⟩,found,equal⟩ := Option.map_eq_some_iff.mp scanned
        cases equal
        exact .inr ⟨comma,more,found,rfl⟩
      · cases scanned

theorem scanItems_parts (scanned : scanItems (fuel + 1) cs = some (items,tail)) :
    ∃ value afterValue d after, scanValue fuel cs = some (value,afterValue) ∧ skipBlank afterValue = d :: after ∧
      ((d = 0x5d ∧ after = tail ∧ items = [value]) ∨
        (d = 0x2c ∧ ∃ more, scanItems fuel (skipBlank after) = some (more,tail) ∧ items = value :: more)) := by
  simp only [scanItems] at scanned
  split at scanned
  · cases scanned
  rename_i value afterValue read
  split at scanned
  · cases scanned
  rename_i d after next
  refine ⟨value,afterValue,d,after,read,next,?_⟩
  split at scanned
  · rename_i close
    cases Option.some.inj scanned
    exact .inl ⟨close,rfl,rfl⟩
  · split at scanned
    · rename_i comma
      obtain ⟨⟨more,_⟩,found,equal⟩ := Option.map_eq_some_iff.mp scanned
      cases equal
      exact .inr ⟨comma,more,found,rfl⟩
    · cases scanned

inductive Scanned (fuel : Nat) (cs tail : Text) : Json Number → Prop where
  | string {rest} : cs = 0x22 :: rest → scanString .plain [] rest = some (value,tail) → Scanned fuel cs tail (.str value)
  | emptyObject {rest} : cs = 0x7b :: rest → skipBlank rest = 0x7d :: tail → Scanned fuel cs tail (.obj [])
  | object {rest} : cs = 0x7b :: rest → scanFields fuel (skipBlank rest) = some (fields,tail) →
      Scanned fuel cs tail (.obj fields)
  | emptyArray {rest} : cs = 0x5b :: rest → skipBlank rest = 0x5d :: tail → Scanned fuel cs tail (.arr [])
  | array {rest} : cs = 0x5b :: rest → scanItems fuel (skipBlank rest) = some (items,tail) →
      Scanned fuel cs tail (.arr items)
  | literal : scanLiteral cs = some (value,tail) → Scanned fuel cs tail value
  | number : scanNumber cs = some (value,tail) → Scanned fuel cs tail (.num value)

theorem scanValue_cases (scanned : scanValue (fuel + 1) cs = some (value,tail)) : Scanned fuel cs tail value := by
  cases cs with
  | nil => simp [scanValue] at scanned
  | cons c rest =>
    simp only [scanValue] at scanned
    split at scanned
    · rename_i quote
      obtain ⟨⟨_,_⟩,string,equal⟩ := Option.map_eq_some_iff.mp scanned
      cases equal
      exact .string (by rw [quote]) string
    split at scanned
    · rename_i brace
      split at scanned
      · cases scanned
      rename_i d after blank
      split at scanned
      · rename_i close
        cases Option.some.inj scanned
        exact .emptyObject (by rw [brace]) (by rw [blank,close])
      · obtain ⟨⟨_,_⟩,read,equal⟩ := Option.map_eq_some_iff.mp scanned
        cases equal
        exact .object (by rw [brace]) (by rw [blank]; exact read)
    split at scanned
    · rename_i bracket
      split at scanned
      · cases scanned
      rename_i d after blank
      split at scanned
      · rename_i close
        cases Option.some.inj scanned
        exact .emptyArray (by rw [bracket]) (by rw [blank,close])
      · obtain ⟨⟨_,_⟩,read,equal⟩ := Option.map_eq_some_iff.mp scanned
        cases equal
        exact .array (by rw [bracket]) (by rw [blank]; exact read)
    split at scanned
    · rename_i found literal
      cases Option.some.inj scanned
      exact .literal literal
    · obtain ⟨⟨_,_⟩,number,equal⟩ := Option.map_eq_some_iff.mp scanned
      cases equal
      exact .number number

theorem mark_plain (mark : c = 0x7b ∨ c = 0x7d ∨ c = 0x5b ∨ c = 0x5d ∨ c = 0x2c ∨ c = 0x3a) : Plain c := by
  rcases mark with rfl | rfl | rfl | rfl | rfl | rfl <;> exact ⟨by decide,by decide,by decide⟩

theorem consumes_opened (mark : c = 0x7b ∨ c = 0x5b) (next : skipBlank rest = middle) : Consumes (c :: rest) middle := by
  subst middle
  exact (consumes_blank rest).cons (mark_plain (by omega))

theorem consumes_last (mark : c = 0x7d ∨ c = 0x5d) (tail : Text) : Consumes (c :: tail) tail :=
  .cons (mark_plain (by omega)) (.refl tail)

theorem consumes_comma (tail : Text) : Consumes (0x2c :: tail) (skipBlank tail) :=
  (consumes_blank tail).cons (mark_plain (by omega))

theorem consumes_field (string : scanString .plain [] rest = some (key,afterKey))
    (colon : skipBlank afterKey = 0x3a :: afterColon) (read : Consumes (skipBlank afterColon) afterValue)
    (next : skipBlank afterValue = d :: after) : Consumes (0x22 :: rest) (d :: after) := by
  have start := (string_consumes string).trans (consumes_blank afterKey)
  rw [colon] at start
  have value := ((consumes_blank afterColon).trans read).trans (consumes_blank afterValue)
  rw [next] at value
  exact start.trans (value.cons (mark_plain (by omega)))

theorem scans_consume (fuel : Nat) :
    (∀ {cs value tail}, scanValue fuel cs = some (value,tail) → Consumes cs tail) ∧
    (∀ {cs items tail}, scanItems fuel cs = some (items,tail) → Consumes cs tail) ∧
    (∀ {cs fields tail}, scanFields fuel cs = some (fields,tail) → Consumes cs tail) := by
  induction fuel with
  | zero => simp [scanValue,scanItems,scanFields]
  | succ fuel ih =>
    obtain ⟨values,items,fields⟩ := ih
    refine ⟨?_,?_,?_⟩
    · intro cs value tail scanned
      cases scanValue_cases scanned with
      | string head string => rw [head]; exact string_consumes string
      | emptyObject head close =>
        rw [head]
        exact (consumes_opened (.inl rfl) close).trans (consumes_last (.inl rfl) tail)
      | object head read => rw [head]; exact (consumes_opened (.inl rfl) rfl).trans (fields read)
      | emptyArray head close =>
        rw [head]
        exact (consumes_opened (.inr rfl) close).trans (consumes_last (.inr rfl) tail)
      | array head read => rw [head]; exact (consumes_opened (.inr rfl) rfl).trans (items read)
      | literal literal => exact scanLiteral_consumes literal
      | number number => exact (scanNumber_spells number).consumes
    · intro cs found tail scanned
      obtain ⟨value,afterValue,d,after,read,next,⟨close,rfl,_⟩ | ⟨rfl,more,deeper,_⟩⟩ := scanItems_parts scanned
      · have start := (values read).trans (consumes_blank afterValue)
        rw [next] at start
        exact start.trans (consumes_last (.inr close) after)
      · have start := (values read).trans (consumes_blank afterValue)
        rw [next] at start
        exact (start.trans (consumes_comma after)).trans (items deeper)
    · intro cs found tail scanned
      obtain ⟨rest,key,afterKey,afterColon,value,afterValue,d,after,rfl,string,colon,read,next,
        ⟨close,rfl,_⟩ | ⟨rfl,more,deeper,_⟩⟩ := scanFields_parts scanned
      · exact (consumes_field string colon (values read) next).trans (consumes_last (.inl close) after)
      · exact ((consumes_field string colon (values read) next).trans (consumes_comma after)).trans (fields deeper)

theorem loads_closed (loaded : loads cs = some value) : Closed cs := by
  unfold loads at loaded
  split at loaded
  · cases loaded
  · rename_i found tail scanned
    split at loaded
    · rename_i spent
      obtain ⟨used,split,closed⟩ := ((consumes_blank cs).trans ((scans_consume _).1 scanned)).trans (consumes_blank tail)
      rw [spent,List.append_nil] at split
      rwa [split]
    · cases loaded

def Braced (cs tail : Text) : Prop := ∃ used, cs = used ++ 0x7d :: tail

theorem Consumes.braced (before : Consumes cs middle) (braced : Braced middle tail) : Braced cs tail := by
  obtain ⟨used,rfl,_⟩ := before
  obtain ⟨more,rfl⟩ := braced
  exact ⟨used ++ more,by rw [List.append_assoc]⟩

theorem braced_last (tail : Text) : Braced (0x7d :: tail) tail := ⟨[],rfl⟩

theorem scanFields_braced (fuel : Nat) (scanned : scanFields fuel cs = some (fields,tail)) : Braced cs tail := by
  induction fuel generalizing cs fields with
  | zero => simp [scanFields] at scanned
  | succ fuel ih =>
    obtain ⟨rest,key,afterKey,afterColon,value,afterValue,d,after,rfl,string,colon,read,next,
      ⟨rfl,rfl,_⟩ | ⟨rfl,more,deeper,_⟩⟩ := scanFields_parts scanned
    · exact (consumes_field string colon ((scans_consume fuel).1 read) next).braced (braced_last after)
    · exact ((consumes_field string colon ((scans_consume fuel).1 read) next).trans (consumes_comma after)).braced
        (ih deeper)

theorem literals_atomic : ∀ entry ∈ literals, ∀ fields, entry.2 ≠ .obj fields := by
  simp [literals]

theorem scanValue_object (scanned : scanValue fuel cs = some (.obj fields,tail)) :
    (∃ rest, cs = 0x7b :: rest) ∧ Braced cs tail := by
  cases fuel with
  | zero => simp [scanValue] at scanned
  | succ fuel =>
    cases scanValue_cases scanned with
    | emptyObject head close =>
      rw [head]
      exact ⟨⟨_,rfl⟩,(consumes_opened (.inl rfl) close).braced (braced_last tail)⟩
    | object head read =>
      rw [head]
      exact ⟨⟨_,rfl⟩,(consumes_opened (.inl rfl) rfl).braced (scanFields_braced fuel read)⟩
    | literal literal =>
      obtain ⟨entry,chosen,equal⟩ := Option.map_eq_some_iff.mp literal
      exact absurd (congrArg Prod.fst equal) (literals_atomic entry (List.mem_of_find?_eq_some chosen) fields)

theorem blank_digit (blank : isBlank c = true) : isDigit c = false := by
  simp only [isBlank,Bool.or_eq_true,beq_iff_eq] at blank
  rcases blank with ((rfl | rfl) | rfl) | rfl <;> rfl

theorem loads_object (loaded : loads cs = some (.obj fields)) :
    (∀ c rest, cs = c :: rest → isDigit c = false) ∧
    ∃ lead blanks, cs = lead ++ 0x7d :: blanks ∧ ∀ c ∈ blanks, isBlank c = true := by
  unfold loads at loaded
  split at loaded
  · cases loaded
  rename_i found tail scanned
  split at loaded
  swap
  · cases loaded
  rename_i spent
  cases Option.some.inj loaded
  obtain ⟨⟨rest,opened⟩,braced⟩ := scanValue_object scanned
  refine ⟨?_,?_⟩
  · rintro c more rfl
    by_cases blank : isBlank c = true
    · exact blank_digit blank
    · have kept : skipBlank (c :: more) = c :: more := by simp [skipBlank,blank]
      rw [kept] at opened
      cases opened; rfl
  · obtain ⟨used,split⟩ := (consumes_blank cs).braced braced
    exact ⟨used,tail,split,List.dropWhile_eq_nil_iff.mp spent⟩

theorem scanLiteral_digit (digit : isDigit c = true) : scanLiteral (c :: rest) = none := by
  have differs : ∀ d, isDigit d = false → (d == c) = false := by
    rintro d other
    rw [beq_eq_false_iff_ne]
    rintro rfl
    rw [digit] at other; cases other
  simp [scanLiteral,literals,text,List.isPrefixOf,differs _ (by rfl : isDigit 0x6e = false),
    differs _ (by rfl : isDigit 0x74 = false),differs _ (by rfl : isDigit 0x66 = false),
    differs _ (by rfl : isDigit 0x4e = false),differs _ (by rfl : isDigit 0x49 = false),
    differs _ (by rfl : isDigit 0x2d = false)]

theorem loads_digit (loaded : loads (c :: rest) = some value) (digit : isDigit c = true) : 0x7d ∉ c :: rest := by
  have kept : skipBlank (c :: rest) = c :: rest := by
    have unblank : isBlank c = false := by
      by_contra blank
      have other := blank_digit (by simpa using blank)
      rw [digit] at other; cases other
    simp [skipBlank,unblank]
  obtain ⟨notQuote,_,_⟩ := digit_plain digit
  have notBrace : c ≠ 0x7b := by rintro rfl; cases digit
  have notBracket : c ≠ 0x5b := by rintro rfl; cases digit
  unfold loads at loaded
  rw [kept] at loaded
  split at loaded
  · cases loaded
  rename_i found tail scanned
  simp only [scanValue,if_neg notQuote,if_neg notBrace,if_neg notBracket,scanLiteral_digit digit] at scanned
  obtain ⟨⟨number,after⟩,spelled,equal⟩ := Option.map_eq_some_iff.mp scanned
  cases equal
  split at loaded
  swap
  · cases loaded
  rename_i spent
  obtain ⟨used,split,_,braceless⟩ := scanNumber_spells spelled
  rw [split,List.mem_append,not_or]
  refine ⟨braceless,fun member => ?_⟩
  have blank := List.dropWhile_eq_nil_iff.mp spent 0x7d member
  cases blank

def Flipped (a b : Lexeme) : Prop :=
  a = .inside ∧ (b = .outside ∨ b = .dotted) ∨ (a = .outside ∨ a = .dotted) ∧ b = .inside

theorem Flipped.symm (flipped : Flipped a b) : Flipped b a := by
  rcases flipped with ⟨inside,out⟩ | ⟨out,inside⟩
  · exact .inr ⟨out,inside⟩
  · exact .inl ⟨inside,out⟩

theorem lexStep_flipped (flipped : Flipped a b) (left : lexStep a c = some a') (right : lexStep b c = some b') :
    Flipped a' b' := by
  have oneSide : ∀ {b a' b'}, (b = .outside ∨ b = .dotted) → lexStep .inside c = some a' →
      lexStep b c = some b' → Flipped a' b' := by
    intro b a' b' out left right
    by_cases quote : c = 0x22
    · rcases out with rfl | rfl <;> simp_all [lexStep,isDigit,Flipped]
    · by_cases slash : c = 0x5c
      · rcases out with rfl | rfl <;> simp_all [lexStep,isDigit]
      · have stays : a' = .inside := by simpa [lexStep,quote,slash] using left.symm
        refine .inl ⟨stays,?_⟩
        rcases out with rfl | rfl <;> simp only [lexStep] at right <;> grind
  rcases flipped with ⟨rfl,out⟩ | ⟨out,rfl⟩
  · exact oneSide out left right
  · exact (oneSide out right left).symm

theorem lexRun_flipped (flipped : Flipped a b) (left : lexRun a cs = some a') (right : lexRun b cs = some b') :
    Flipped a' b' := by
  induction cs generalizing a b with
  | nil =>
    cases Option.some.inj left; cases Option.some.inj right
    exact flipped
  | cons c rest ih =>
    obtain ⟨x,stepLeft,restLeft⟩ := Option.bind_eq_some_iff.mp left
    obtain ⟨y,stepRight,restRight⟩ := Option.bind_eq_some_iff.mp right
    exact ih (lexStep_flipped flipped stepLeft stepRight) restLeft restRight

-- A closed text cannot be cut right after a dot into a closed text that does
-- not start with a digit: the dot would lie inside a string, and from there on
-- the two readings of the tail stay on opposite sides of every quote.
theorem closed_uncuttable (whole : Closed (lead ++ 0x2e :: tail)) (part : Closed tail)
    (head : ∀ c rest, tail = c :: rest → isDigit c = false) (nonempty : tail ≠ []) : False := by
  simp only [Closed,lexRun_append,lexRun] at whole
  obtain ⟨before,_,whole⟩ := Option.bind_eq_some_iff.mp whole
  obtain ⟨atDot,stepped,whole⟩ := Option.bind_eq_some_iff.mp whole
  have inside : atDot = .inside ∨ atDot = .dotted := by
    cases before <;> simp [lexStep,isDigit] at stepped <;> simp [← stepped]
  rcases inside with rfl | rfl
  · have flipped := lexRun_flipped (.inl ⟨rfl,.inl rfl⟩) whole part
    simp [Flipped] at flipped
  · cases tail with
    | nil => exact nonempty rfl
    | cons c rest =>
      have notDigit := head c rest rfl
      simp [lexRun,lexStep,notDigit] at whole

end JsonText
