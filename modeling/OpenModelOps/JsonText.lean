import Mathlib.Data.Rat.Defs
import Mathlib.Data.List.Sort

namespace JsonText

-- A str is a sequence of code points; an escaped surrogate may stand alone.
abbrev Text := List Nat

def text (s : String) : Text := s.toList.map Char.toNat

theorem text_injective : Function.Injective text := by
  intro left right same
  exact String.toList_injective (List.map_injective_iff.mpr (fun _ _ => Char.toNat_inj.mp) same)

inductive Json (ν : Type) where
  | null
  | bool (value : Bool)
  | num (value : ν)
  | str (value : Text)
  | arr (items : List (Json ν))
  | obj (fields : List (Text × Json ν))

-- A repeated key keeps its last value.
def field (fields : List (Text × Json ν)) (key : Text) : Option (Json ν) :=
  (fields.reverse.find? (fun entry => decide (entry.1 = key))).map Prod.snd

-- The same document with another type of numbers.
mutual
def convert (f : ν → μ) : Json ν → Json μ
  | .null => .null
  | .bool value => .bool value
  | .num value => .num (f value)
  | .str value => .str value
  | .arr items => .arr (convertItems f items)
  | .obj fields => .obj (convertFields f fields)
def convertItems (f : ν → μ) : List (Json ν) → List (Json μ)
  | [] => []
  | item :: rest => convert f item :: convertItems f rest
def convertFields (f : ν → μ) : List (Text × Json ν) → List (Text × Json μ)
  | [] => []
  | (key,value) :: rest => (key,convert f value) :: convertFields f rest
end

theorem convertFields_eq (f : ν → μ) (fields : List (Text × Json ν)) :
    convertFields f fields = fields.map fun entry => (entry.1,convert f entry.2) := by
  induction fields with
  | nil => rfl
  | cons entry rest ih => rw [convertFields,ih]; rfl

theorem field_convert (f : ν → μ) (fields : List (Text × Json ν)) (key : Text) :
    field (convertFields f fields) key = (field fields key).map (convert f) := by
  rw [convertFields_eq,field,field,← List.map_reverse,List.find?_map,Option.map_map,Option.map_map]
  rfl

-- The numbers of the decoder, before a decimal is rounded to a float.
inductive Number where
  | int (n : Int)
  | real (q : ℚ)
  | nan
  | infinity
  | negInfinity
  deriving DecidableEq

def surrogate (c : Nat) : Bool := decide (0xd800 ≤ c) && decide (c ≤ 0xdfff)
def high (c : Nat) : Bool := decide (0xd800 ≤ c) && decide (c ≤ 0xdbff)
def low (c : Nat) : Bool := decide (0xdc00 ≤ c) && decide (c ≤ 0xdfff)

def Scalar (c : Nat) : Prop := c < 0xd800 ∨ 0xdfff < c ∧ c < 0x110000

theorem text_scalar (s : String) : ∀ c ∈ text s, Scalar c := by
  intro c member
  obtain ⟨char,_,rfl⟩ := List.mem_map.mp member
  exact char.valid

-- Writer with ensure_ascii.

def hexDigit (n : Nat) : Nat := if n < 10 then 0x30 + n else 0x57 + n

def unicodeEscape (n : Nat) : Text :=
  [0x5c,0x75,hexDigit (n / 4096 % 16),hexDigit (n / 256 % 16),hexDigit (n / 16 % 16),hexDigit (n % 16)]

def shortEscape (c : Nat) : Option Nat :=
  if c = 0x22 then some 0x22 else if c = 0x5c then some 0x5c else if c = 0x0a then some 0x6e
  else if c = 0x0d then some 0x72 else if c = 0x09 then some 0x74 else if c = 0x0c then some 0x66
  else if c = 0x08 then some 0x62 else none

def escape (c : Nat) : Text :=
  match shortEscape c with
  | some letter => [0x5c,letter]
  | none =>
    if 0x20 ≤ c ∧ c ≤ 0x7e then [c]
    else if c < 0x10000 then unicodeEscape c
    else unicodeEscape (0xd800 + (c - 0x10000) / 1024) ++ unicodeEscape (0xdc00 + (c - 0x10000) % 1024)

def quoted (t : Text) : Text := 0x22 :: (t.flatMap escape ++ [0x22])

def textLe : Text → Text → Bool
  | [],_ => true
  | _ :: _,[] => false
  | a :: as,b :: bs => decide (a < b) || (decide (a = b) && textLe as bs)

mutual
def sortKeys : Json ν → Json ν
  | .arr items => .arr (sortItems items)
  | .obj fields => .obj ((sortFields fields).insertionSort (fun a b => textLe a.1 b.1 = true))
  | leaf => leaf
def sortItems : List (Json ν) → List (Json ν)
  | [] => []
  | item :: rest => sortKeys item :: sortItems rest
def sortFields : List (Text × Json ν) → List (Text × Json ν)
  | [] => []
  | (key,value) :: rest => (key,sortKeys value) :: sortFields rest
end

-- The separators are those given to json.dumps.
mutual
def write (number : ν → Text) (comma colon : Text) : Json ν → Text
  | .null => text "null"
  | .bool value => text (if value then "true" else "false")
  | .num value => number value
  | .str value => quoted value
  | .arr items => text "[" ++ writeItems number comma colon items ++ text "]"
  | .obj fields => text "\x7b" ++ writeFields number comma colon fields ++ text "\x7d"
def writeItems (number : ν → Text) (comma colon : Text) : List (Json ν) → Text
  | [] => []
  | item :: rest => write number comma colon item ++
      (if rest.isEmpty then [] else comma ++ writeItems number comma colon rest)
def writeFields (number : ν → Text) (comma colon : Text) : List (Text × Json ν) → Text
  | [] => []
  | (key,value) :: rest => quoted key ++ colon ++ write number comma colon value ++
      (if rest.isEmpty then [] else comma ++ writeFields number comma colon rest)
end

-- json.dumps(value, sort_keys=True, separators=(",", ":")).
def compactDumps (number : ν → Text) (value : Json ν) : Text :=
  write number [0x2c] [0x3a] (sortKeys value)

def intText (n : Int) : Text := text (toString n)

-- Reader.

inductive StringState where
  | plain
  | slash
  | hex (left value : Nat)

def hexValue (c : Nat) : Option Nat :=
  if 0x30 ≤ c ∧ c ≤ 0x39 then some (c - 0x30)
  else if 0x61 ≤ c ∧ c ≤ 0x66 then some (c - 0x57)
  else if 0x41 ≤ c ∧ c ≤ 0x46 then some (c - 0x37) else none

def longEscape (c : Nat) : Option Nat :=
  if c = 0x22 then some 0x22 else if c = 0x5c then some 0x5c else if c = 0x2f then some 0x2f
  else if c = 0x6e then some 0x0a else if c = 0x72 then some 0x0d else if c = 0x74 then some 0x09
  else if c = 0x66 then some 0x0c else if c = 0x62 then some 0x08 else none

-- Two adjacent escaped surrogates are one code point; raw ones never join.
def joined : List (Nat × Bool) → Text
  | [] => []
  | (c,escaped) :: rest => match rest with
    | [] => [c]
    | (d,also) :: more =>
      if escaped && also && high c && low d then
        (0x10000 + (c - 0xd800) * 1024 + (d - 0xdc00)) :: joined more
      else c :: joined ((d,also) :: more)

-- The text after an opening quote, with the units read so far in reverse.
def scanString (state : StringState) (units : List (Nat × Bool)) : Text → Option (Text × Text)
  | [] => none
  | c :: rest => match state with
    | .plain =>
      if c = 0x22 then some (joined units.reverse,rest)
      else if c = 0x5c then scanString .slash units rest
      else if c < 0x20 then none
      else scanString .plain ((c,false) :: units) rest
    | .slash =>
      if c = 0x75 then scanString (.hex 4 0) units rest
      else match longEscape c with
        | some value => scanString .plain ((value,false) :: units) rest
        | none => none
    | .hex left value => match hexValue c with
      | none => none
      | some digit =>
        if left ≤ 1 then scanString .plain ((16 * value + digit,true) :: units) rest
        else scanString (.hex (left - 1) (16 * value + digit)) units rest

def isDigit (c : Nat) : Bool := decide (0x30 ≤ c) && decide (c ≤ 0x39)

def isBlank (c : Nat) : Bool := c == 0x20 || c == 0x09 || c == 0x0a || c == 0x0d

def skipBlank (cs : Text) : Text := cs.dropWhile isBlank

def digitsValue (cs : Text) : Nat := cs.foldl (fun n c => 10 * n + (c - 0x30)) 0

-- The integer part: a zero, or digits that do not start with a zero.
def scanWhole : Text → Option (Text × Text)
  | [] => none
  | c :: rest =>
    if c = 0x30 then some ([c],rest)
    else if isDigit c then some (c :: rest.takeWhile isDigit,rest.dropWhile isDigit)
    else none

def scanFraction (cs : Text) : Text × Text :=
  match cs with
  | dot :: d :: rest =>
    if dot = 0x2e ∧ isDigit d then (d :: rest.takeWhile isDigit,rest.dropWhile isDigit) else ([],cs)
  | _ => ([],cs)

def exponentSign (c : Nat) : Option Bool :=
  if c = 0x2d then some true else if c = 0x2b then some false else none

def scanExponent (cs : Text) : Option Int × Text :=
  match cs with
  | e :: d :: rest =>
    if e = 0x65 ∨ e = 0x45 then
      match exponentSign d,rest with
      | some negative,f :: more =>
        if isDigit f then
          let n : Int := digitsValue (f :: more.takeWhile isDigit)
          (some (if negative then -n else n),more.dropWhile isDigit)
        else (none,cs)
      | none,_ =>
        if isDigit d then (some (digitsValue (d :: rest.takeWhile isDigit) : Int),rest.dropWhile isDigit)
        else (none,cs)
      | _,[] => (none,cs)
    else (none,cs)
  | _ => (none,cs)

def numberValue (negative : Bool) (whole fraction : Text) (exponent : Option Int) : Number :=
  let signed (q : ℚ) : ℚ := if negative then -q else q
  if fraction.isEmpty ∧ exponent.isNone then
    .int (if negative then -(digitsValue whole : Int) else digitsValue whole)
  else
    let mantissa : ℚ := (digitsValue (whole ++ fraction) : ℚ) / 10 ^ fraction.length
    .real (signed (mantissa * (10 : ℚ) ^ (exponent.getD 0)))

def scanUnsigned (negative : Bool) (cs : Text) : Option (Number × Text) :=
  match scanWhole cs with
  | none => none
  | some (whole,afterWhole) =>
    let (fraction,afterFraction) := scanFraction afterWhole
    let (exponent,rest) := scanExponent afterFraction
    some (numberValue negative whole fraction exponent,rest)

def scanNumber : Text → Option (Number × Text)
  | [] => none
  | c :: rest => if c = 0x2d then scanUnsigned true rest else scanUnsigned false (c :: rest)

def literals : List (Text × Json Number) :=
  [(text "null",.null),(text "true",.bool true),(text "false",.bool false),(text "NaN",.num .nan),
   (text "Infinity",.num .infinity),(text "-Infinity",.num .negInfinity)]

def scanLiteral (cs : Text) : Option (Json Number × Text) :=
  (literals.find? (fun entry => entry.1.isPrefixOf cs)).map (fun entry => (entry.2,cs.drop entry.1.length))

mutual
def scanValue : Nat → Text → Option (Json Number × Text)
  | 0,_ => none
  | _+1,[] => none
  | fuel+1,c :: rest =>
    if c = 0x22 then (scanString .plain [] rest).map (fun (value,tail) => (.str value,tail))
    else if c = 0x7b then match skipBlank rest with
      | [] => none
      | d :: tail => if d = 0x7d then some (.obj [],tail)
        else (scanFields fuel (d :: tail)).map (fun (fields,tail) => (.obj fields,tail))
    else if c = 0x5b then match skipBlank rest with
      | [] => none
      | d :: tail => if d = 0x5d then some (.arr [],tail)
        else (scanItems fuel (d :: tail)).map (fun (items,tail) => (.arr items,tail))
    else match scanLiteral (c :: rest) with
      | some found => some found
      | none => (scanNumber (c :: rest)).map (fun (value,tail) => (.num value,tail))
def scanItems : Nat → Text → Option (List (Json Number) × Text)
  | 0,_ => none
  | fuel+1,cs => match scanValue fuel cs with
    | none => none
    | some (item,afterItem) => match skipBlank afterItem with
      | [] => none
      | d :: tail =>
        if d = 0x5d then some ([item],tail)
        else if d = 0x2c then (scanItems fuel (skipBlank tail)).map (fun (items,tail) => (item :: items,tail))
        else none
def scanFields : Nat → Text → Option (List (Text × Json Number) × Text)
  | 0,_ => none
  | _+1,[] => none
  | fuel+1,c :: cs =>
    if c = 0x22 then match scanString .plain [] cs with
      | none => none
      | some (key,afterKey) => match skipBlank afterKey with
        | [] => none
        | colon :: afterColon =>
          if colon = 0x3a then match scanValue fuel (skipBlank afterColon) with
            | none => none
            | some (value,afterValue) => match skipBlank afterValue with
              | [] => none
              | d :: tail =>
                if d = 0x7d then some ([(key,value)],tail)
                else if d = 0x2c then
                  (scanFields fuel (skipBlank tail)).map (fun (fields,tail) => ((key,value) :: fields,tail))
                else none
          else none
    else none
end

-- json.loads of a str. A nested call uses up one unit of fuel and at most two
-- calls are made for one consumed character.
def loads (cs : Text) : Option (Json Number) :=
  match scanValue (2 * cs.length + 2) (skipBlank cs) with
  | none => none
  | some (value,tail) => if skipBlank tail = [] then some value else none

end JsonText
