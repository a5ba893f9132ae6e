import OpenModelOps.JsonLexing
import OpenModelOps.PythonText

namespace JsonText

-- str.encode of a str without surrogates.
def encode (s : String) : List UInt8 := s.toList.flatMap String.utf8EncodeChar

theorem encode_injective : Function.Injective encode := by
  intro left right same
  have bytes : left.toList.utf8Encode = right.toList.utf8Encode := congrArg List.toByteArray same
  rw [String.utf8Encode_toList,String.utf8Encode_toList] at bytes
  exact String.toByteArray_inj.mp bytes

theorem encodeChar_dot (member : 0x2e ∈ String.utf8EncodeChar c) : c = '.' := by
  have byte : ∀ {n : Nat}, 0x80 ≤ n → n < 0x100 → (0x2e : UInt8) ≠ UInt8.ofNat n := by
    intro n lower upper equal
    have values := congrArg UInt8.toNat equal
    simp at values
    omega
  unfold String.utf8EncodeChar at member
  dsimp only at member
  split at member
  · rename_i ascii
    have values := congrArg UInt8.toNat (List.mem_singleton.mp member)
    have same : c.toNat = c.val.toNat := rfl
    simp at values
    exact Char.toNat_inj.mp (by change c.toNat = 0x2e; omega)
  · exfalso
    split at member
    · simp only [List.mem_cons,List.not_mem_nil,or_false] at member
      rcases member with h | h <;> exact byte (by omega) (by omega) h
    · split at member
      · simp only [List.mem_cons,List.not_mem_nil,or_false] at member
        rcases member with h | h | h <;> exact byte (by omega) (by omega) h
      · simp only [List.mem_cons,List.not_mem_nil,or_false] at member
        rcases member with h | h | h | h <;> exact byte (by omega) (by omega) h

theorem encode_dot (member : 0x2e ∈ encode s) : '.' ∈ s.toList := by
  obtain ⟨c,inside,byte⟩ := List.mem_flatMap.mp member
  exact encodeChar_dot byte ▸ inside

-- bytes.decode with surrogatepass.

def continuation (b : UInt8) : Bool := decide (0x80 ≤ b.toNat) && decide (b.toNat < 0xc0)

def threeBytes (a b c : UInt8) : Nat := (a.toNat - 0xe0) * 4096 + (b.toNat - 0x80) * 64 + (c.toNat - 0x80)

def fourBytes (a b c d : UInt8) : Nat :=
  (a.toNat - 0xf0) * 262144 + (b.toNat - 0x80) * 4096 + (c.toNat - 0x80) * 64 + (d.toNat - 0x80)

def decodeUtf8 : List UInt8 → Option Text
  | [] => some []
  | a :: rest =>
    if a.toNat < 0x80 then (decodeUtf8 rest).map (a.toNat :: ·)
    else if a.toNat < 0xc2 then none
    else match rest with
      | [] => none
      | b :: rest =>
        if continuation b = false then none
        else if a.toNat < 0xe0 then
          (decodeUtf8 rest).map (((a.toNat - 0xc0) * 64 + (b.toNat - 0x80)) :: ·)
        else match rest with
          | [] => none
          | c :: rest =>
            if continuation c = false then none
            else if a.toNat < 0xf0 then
              if threeBytes a b c < 0x800 then none else (decodeUtf8 rest).map (threeBytes a b c :: ·)
            else match rest with
              | [] => none
              | d :: rest =>
                if continuation d = false then none
                else if fourBytes a b c d < 0x10000 ∨ 0x110000 ≤ fourBytes a b c d then none
                else (decodeUtf8 rest).map (fourBytes a b c d :: ·)

example : decodeUtf8 (encode "a.é€😀") = some (text "a.é€😀") := by decide +kernel

theorem continuation_high (follows : ¬ continuation b = false) : 0x80 ≤ b.toNat := by
  simp only [continuation,Bool.not_eq_false,Bool.and_eq_true,decide_eq_true_eq] at follows
  exact follows.1

theorem high_shift {a x : UInt8} (split : lead ++ a :: tail = x :: rest) (ascii : a.toNat < 0x80)
    (high : 0x80 ≤ x.toNat) : ∃ more, more ++ a :: tail = rest := by
  cases lead with
  | nil => cases split; omega
  | cons first more => exact ⟨more,(List.cons.inj split).2⟩

theorem decodeUtf8_ascii (decoded : decodeUtf8 (lead ++ a :: tail) = some cs) (ascii : a.toNat < 0x80) :
    ∃ before after, cs = before ++ a.toNat :: after ∧ decodeUtf8 tail = some after := by
  generalize split : lead ++ a :: tail = bytes at decoded
  fun_induction decodeUtf8 bytes generalizing lead cs with
  | case2 x rest small ih =>
    obtain ⟨found,deeper,rfl⟩ := Option.map_eq_some_iff.mp decoded
    cases lead with
    | nil =>
      cases split
      exact ⟨[],found,rfl,deeper⟩
    | cons first more =>
      obtain ⟨before,after,rfl,same⟩ := ih (List.cons.inj split).2 deeper
      exact ⟨x.toNat :: before,after,rfl,same⟩
  | case6 x high _ y rest follows _ ih =>
    obtain ⟨found,deeper,rfl⟩ := Option.map_eq_some_iff.mp decoded
    obtain ⟨_,split⟩ := high_shift split ascii (not_lt.mp high)
    obtain ⟨_,split⟩ := high_shift split ascii (continuation_high follows)
    obtain ⟨before,after,rfl,same⟩ := ih split deeper
    exact ⟨_ :: before,after,rfl,same⟩
  | case10 x high _ y follows _ z rest also _ _ ih =>
    obtain ⟨found,deeper,rfl⟩ := Option.map_eq_some_iff.mp decoded
    obtain ⟨_,split⟩ := high_shift split ascii (not_lt.mp high)
    obtain ⟨_,split⟩ := high_shift split ascii (continuation_high follows)
    obtain ⟨_,split⟩ := high_shift split ascii (continuation_high also)
    obtain ⟨before,after,rfl,same⟩ := ih split deeper
    exact ⟨_ :: before,after,rfl,same⟩
  | case14 x high _ y follows _ z also _ w rest last _ ih =>
    obtain ⟨found,deeper,rfl⟩ := Option.map_eq_some_iff.mp decoded
    obtain ⟨_,split⟩ := high_shift split ascii (not_lt.mp high)
    obtain ⟨_,split⟩ := high_shift split ascii (continuation_high follows)
    obtain ⟨_,split⟩ := high_shift split ascii (continuation_high also)
    obtain ⟨_,split⟩ := high_shift split ascii (continuation_high last)
    obtain ⟨before,after,rfl,same⟩ := ih split deeper
    exact ⟨_ :: before,after,rfl,same⟩
  | case1 => simp at split
  | case3 => cases decoded
  | case4 => cases decoded
  | case5 => cases decoded
  | case7 => cases decoded
  | case8 => cases decoded
  | case9 => cases decoded
  | case11 => cases decoded
  | case12 => cases decoded
  | case13 => cases decoded

def wide (big : Bool) (a b : UInt8) : Nat := if big then a.toNat * 256 + b.toNat else b.toNat * 256 + a.toNat

def units16 (big : Bool) : List UInt8 → Option (List Nat)
  | [] => some []
  | a :: b :: rest => (units16 big rest).map (wide big a b :: ·)
  | [_] => none

def decodeUtf16 (big : Bool) (bytes : List UInt8) : Option Text :=
  (units16 big bytes).map fun units => joined (units.map (·,true))

def decodeUtf32 (big : Bool) : List UInt8 → Option Text
  | [] => some []
  | a :: b :: c :: d :: rest =>
    let code := if big then wide big a b * 65536 + wide big c d else wide big c d * 65536 + wide big a b
    if 0x110000 ≤ code then none else (decodeUtf32 big rest).map (code :: ·)
  | _ => none

inductive Encoding where
  | utf8 | utf8Sig | utf16 | utf16be | utf16le | utf32 | utf32be | utf32le
  deriving DecidableEq

def utf8Bom : List UInt8 := [0xef,0xbb,0xbf]

def detectEncoding (bytes : List UInt8) : Encoding :=
  if [0,0,0xfe,0xff].isPrefixOf bytes || [0xff,0xfe,0,0].isPrefixOf bytes then .utf32
  else if [0xfe,0xff].isPrefixOf bytes || [0xff,0xfe].isPrefixOf bytes then .utf16
  else if utf8Bom.isPrefixOf bytes then .utf8Sig
  else match bytes with
    | a :: b :: c :: d :: _ =>
      if a = 0 then (if b = 0 then .utf32be else .utf16be)
      else if b = 0 then (if c = 0 ∧ d = 0 then .utf32le else .utf16le)
      else .utf8
    | [a,b] => if a = 0 then .utf16be else if b = 0 then .utf16le else .utf8
    | _ => .utf8

-- The codecs utf-16 and utf-32 take their byte order from the mark.
def decodeBytes (bytes : List UInt8) : Encoding → Option Text
  | .utf8 => decodeUtf8 bytes
  | .utf8Sig => decodeUtf8 (bytes.drop 3)
  | .utf16 => decodeUtf16 ([0xfe,0xff].isPrefixOf bytes) (bytes.drop 2)
  | .utf16be => decodeUtf16 true bytes
  | .utf16le => decodeUtf16 false bytes
  | .utf32 => decodeUtf32 ([0,0,0xfe,0xff].isPrefixOf bytes) (bytes.drop 4)
  | .utf32be => decodeUtf32 true bytes
  | .utf32le => decodeUtf32 false bytes

-- The reader calls int(), which refuses more digits than this.
mutual
def intsWithin (digits : Nat) : Json Number → Bool
  | .num (.int n) => decide (n.natAbs < 10 ^ digits)
  | .arr items => itemsWithin digits items
  | .obj fields => fieldsWithin digits fields
  | _ => true
def itemsWithin (digits : Nat) : List (Json Number) → Bool
  | [] => true
  | item :: rest => intsWithin digits item && itemsWithin digits rest
def fieldsWithin (digits : Nat) : List (Text × Json Number) → Bool
  | [] => true
  | (_,value) :: rest => intsWithin digits value && fieldsWithin digits rest
end

inductive LoadError where
  | unicodeDecodeError | jsonDecodeError | valueError
  deriving DecidableEq

-- json.loads of a str.
def loadsText (cs : Text) : Option (Json Number) :=
  match loads cs with
  | none => none
  | some value => if intsWithin PythonText.maxStrDigits value then some value else none

-- json.loads of bytes.
def loadsBytes (bytes : List UInt8) : Except LoadError (Json Number) :=
  match decodeBytes bytes (detectEncoding bytes) with
  | none => .error .unicodeDecodeError
  | some cs => match loads cs with
    | none => .error .jsonDecodeError
    | some value => if intsWithin PythonText.maxStrDigits value then .ok value else .error .valueError

def Utf8 (bytes : List UInt8) : Prop := detectEncoding bytes = .utf8 ∨ detectEncoding bytes = .utf8Sig

instance (bytes : List UInt8) : Decidable (Utf8 bytes) := inferInstanceAs (Decidable (_ ∨ _))

structure Shape (cs : Text) (value : Json Number) : Prop where
  closed : Closed cs
  nonempty : cs ≠ []
  object : ∀ fields, value = .obj fields → (∀ c rest, cs = c :: rest → isDigit c = false) ∧
    ∃ lead blanks, cs = lead ++ 0x7d :: blanks ∧ ∀ c ∈ blanks, isBlank c = true
  number : ∀ c rest, cs = c :: rest → isDigit c = true → 0x7d ∉ cs

theorem loads_shape (loaded : loads cs = some value) : Shape cs value := by
  refine ⟨loads_closed loaded,?_,?_,?_⟩
  · rintro rfl; cases loaded
  · rintro fields rfl; exact loads_object loaded
  · rintro c rest rfl digit; exact loads_digit loaded digit

theorem Shape.marked (shape : Shape cs value) : Shape (0xfeff :: cs) value := by
  refine ⟨?_,by simp,?_,?_⟩
  · exact Closed.append (closed_plain (by simp [Plain]) : Closed [0xfeff]) shape.closed
  · intro fields object
    obtain ⟨_,lead,blanks,split,blank⟩ := shape.object fields object
    refine ⟨?_,0xfeff :: lead,blanks,by rw [split]; rfl,blank⟩
    rintro c rest same
    cases same; rfl
  · rintro c rest same digit
    cases same; cases digit

theorem decodeUtf8_three {a b c : UInt8} (lower : 0xe0 ≤ a.toNat) (upper : a.toNat < 0xf0)
    (second : continuation b = true) (third : continuation c = true) (long : 0x800 ≤ threeBytes a b c)
    (rest : List UInt8) : decodeUtf8 (a :: b :: c :: rest) = (decodeUtf8 rest).map (threeBytes a b c :: ·) := by
  conv => lhs; unfold decodeUtf8
  simp only
  rw [if_neg (by omega),if_neg (by omega),if_neg (by simp [second]),if_neg (by omega),if_neg (by simp [third]),
    if_pos upper,if_neg (by omega)]

theorem decodeUtf8_bom (rest : List UInt8) : decodeUtf8 (utf8Bom ++ rest) = (decodeUtf8 rest).map (0xfeff :: ·) :=
  decodeUtf8_three (by decide) (by decide) (by decide) (by decide) (by decide) rest

theorem detectEncoding_sig (detected : detectEncoding bytes = .utf8Sig) : utf8Bom <+: bytes := by
  unfold detectEncoding at detected
  split at detected
  · cases detected
  split at detected
  · cases detected
  split at detected
  · rename_i marked
    exact List.isPrefixOf_iff_prefix.mp marked
  · grind

theorem loadsBytes_within (loaded : loadsBytes bytes = .ok value) :
    (∃ cs, decodeBytes bytes (detectEncoding bytes) = some cs ∧ loads cs = some value) ∧
      intsWithin PythonText.maxStrDigits value = true := by
  unfold loadsBytes at loaded
  split at loaded
  · cases loaded
  · rename_i cs decoded
    split at loaded
    · cases loaded
    · rename_i found read
      split at loaded
      · rename_i short
        cases Except.ok.inj loaded
        exact ⟨⟨cs,decoded,read⟩,short⟩
      · cases loaded

theorem loadsBytes_parts (loaded : loadsBytes bytes = .ok value) :
    ∃ cs, decodeBytes bytes (detectEncoding bytes) = some cs ∧ loads cs = some value :=
  (loadsBytes_within loaded).1

theorem loadsBytes_shape (utf8 : Utf8 bytes) (loaded : loadsBytes bytes = .ok value) :
    ∃ cs, decodeUtf8 bytes = some cs ∧ Shape cs value := by
  obtain ⟨cs,decoded,read⟩ := loadsBytes_parts loaded
  rcases utf8 with plain | marked
  · rw [plain] at decoded
    exact ⟨cs,decoded,loads_shape read⟩
  · rw [marked] at decoded
    obtain ⟨rest,rfl⟩ := detectEncoding_sig marked
    have stripped : decodeUtf8 rest = some cs := decoded
    exact ⟨0xfeff :: cs,by rw [decodeUtf8_bom,stripped]; rfl,(loads_shape read).marked⟩

-- The only document that starts with a digit is a number, and an object does
-- not end in one.
theorem object_no_number {tail : Text} (object : lead ++ 0x2e :: tail = front ++ 0x7d :: blanks)
    (blank : ∀ c ∈ blanks, isBlank c = true) : 0x7d ∈ tail := by
  rcases List.append_eq_append_iff.mp object with ⟨more,rfl,split⟩ | ⟨more,rfl,split⟩
  · cases more with
    | nil => cases split
    | cons c more =>
      cases split
      simp
  · cases more with
    | nil => cases split
    | cons c more =>
      cases split
      have dot := blank 0x2e (by simp)
      cases dot

-- A document cannot be cut behind a dot into a document, when one of the two
-- is an object.
theorem loadsBytes_uncuttable (wholeUtf8 : Utf8 (lead ++ 0x2e :: cut)) (cutUtf8 : Utf8 cut)
    (whole : loadsBytes (lead ++ 0x2e :: cut) = .ok value) (part : loadsBytes cut = .ok other)
    (object : (∃ fields, value = .obj fields) ∨ ∃ fields, other = .obj fields) : False := by
  obtain ⟨cs,decoded,shape⟩ := loadsBytes_shape wholeUtf8 whole
  obtain ⟨tail,decodedTail,shapeTail⟩ := loadsBytes_shape cutUtf8 part
  obtain ⟨before,after,rfl,same⟩ := decodeUtf8_ascii decoded (by decide)
  rw [decodedTail] at same
  cases Option.some.inj same
  refine closed_uncuttable shape.closed shapeTail.closed ?_ shapeTail.nonempty
  intro c rest head
  rcases object with ⟨fields,object⟩ | ⟨fields,object⟩
  · by_contra digit
    obtain ⟨_,front,blanks,split,blank⟩ := shape.object fields object
    exact shapeTail.number c rest head (by simpa using digit) (object_no_number split blank)
  · exact (shapeTail.object fields object).1 c rest head

end JsonText
