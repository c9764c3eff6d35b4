-- What a scalar stands for when it is not simply a text: nothing, a truth
-- value, an integer or a number with a decimal point. Quoted and block scalars
-- are texts; of a plain one the spelling decides, unless a tag does.
import Verdict.Decimal.Shortest
import Verdict.Text.Quoted
import Verdict.Yaml.Token

namespace Verdict.Yaml

/-- What a scalar stands for. -/
inductive Meaning where
  | unit
  | boolean (b : Bool)
  | integer (n : Int)
  /-- A number with a decimal point, as it is written out. -/
  | decimal (written : String)
  | text (s : String)
  deriving DecidableEq, Repr

namespace Meaning

/-- What messages call it. Integers of more than 64 bits are named with their
width. -/
def display : Meaning → String
  | .unit => "unit value"
  | .boolean b => "boolean `" ++ (if b then "true" else "false") ++ "`"
  | .integer n =>
    let width :=
      match n with
      | .ofNat n => if n < Decimal.twoTo 64 then "" else " as u128"
      | .negSucc n => if n < Decimal.twoTo 63 then "" else " as i128"
    "integer `" ++ toString n ++ "`" ++ width
  | .decimal written => "floating point `" ++ written ++ "`"
  | .text s => "string " ++ Text.quoted s

/-! ## Words -/

/-- A word for nothing. -/
def isNull (cs : List Char) : Bool :=
  cs = "null".toList || cs = "Null".toList || cs = "NULL".toList || cs = "~".toList

def boolean? (cs : List Char) : Option Bool :=
  if cs = "true".toList || cs = "True".toList || cs = "TRUE".toList then some true
  else if cs = "false".toList || cs = "False".toList || cs = "FALSE".toList then some false
  else none

/-! ## Integers -/

/-- The value of at least one digit of a base up to sixteen. -/
def digits? (base : Nat) (cs : List Char) : Option Nat :=
  if cs.isEmpty then none
  else
    cs.foldlM
      (fun n c => do
        let d ← hexValue c
        if d < base then some (n * base + d) else none)
      0

/-- Digits, and the first of several is a zero. -/
def hasLeadingZero : List Char → Bool
  | '0' :: c :: cs => (c :: cs).all Char.isDigit
  | _ => false

/-- A number without a sign: sixteen, eight and two as bases have signs of their
own, and decimal digits have no leading zero. -/
def natural? (cs : List Char) : Option Nat :=
  match cs with
  | '0' :: 'x' :: digits => digits? 16 digits
  | '0' :: 'o' :: digits => digits? 8 digits
  | '0' :: 'b' :: digits => digits? 2 digits
  | digits => if hasLeadingZero digits then none else digits? 10 digits

/-- An integer of at most 128 bits, with a sign or without. -/
def integer? (cs : List Char) : Option Int :=
  let magnitude? (digits : List Char) (limit : Nat) : Option Int :=
    match natural? digits with
    | some n => if n ≤ limit then some n else none
    | none => none
  match cs with
  | '-' :: digits => (magnitude? digits (Decimal.twoTo 127)).map (- ·)
  | '+' :: digits => magnitude? digits (Decimal.twoTo 128 - 1)
  | digits => magnitude? digits (Decimal.twoTo 128 - 1)

/-! ## Numbers with a decimal point -/

/-- The power of ten behind the digits of a number, if nothing else follows. -/
def exponent? (cs : List Char) : Option Int :=
  match cs with
  | [] => some 0
  | e :: rest =>
    if e = 'e' || e = 'E' then
      match rest with
      | '-' :: digits => (digits? 10 digits).map fun n => -(n : Int)
      | '+' :: digits => (digits? 10 digits).map (↑·)
      | digits => (digits? 10 digits).map (↑·)
    else none

/-- Digits with at most one point among them, and a power of ten. -/
def magnitude? (cs : List Char) : Option Decimal.Binary64 :=
  let whole := cs.takeWhile Char.isDigit
  let rest := cs.dropWhile Char.isDigit
  let (fraction, rest) :=
    match rest with
    | '.' :: rest => (rest.takeWhile Char.isDigit, rest.dropWhile Char.isDigit)
    | rest => ([], rest)
  match digits? 10 (whole ++ fraction), exponent? rest with
  | some n, some e => Decimal.Binary64.ofDecimal n (e - fraction.length)
  | _, _ => none

def isInfinity (cs : List Char) : Bool :=
  cs = ".inf".toList || cs = ".Inf".toList || cs = ".INF".toList

def isNotANumber (cs : List Char) : Bool :=
  cs = ".nan".toList || cs = ".NaN".toList || cs = ".NAN".toList

/-- A number of double precision, written out. A number that is too large is
none. -/
def decimal? (cs : List Char) : Option String :=
  let written (sign : String) (cs : List Char) : Option String :=
    if isInfinity cs then some (sign ++ "inf")
    else (magnitude? cs).map fun x => sign ++ x.shortest.positional
  match cs with
  | '-' :: rest => written "-" rest
  | '+' :: rest => written "" rest
  | rest => if isNotANumber rest then some "NaN" else written "" rest

/-! ## Scalars -/

/-- What the spelling of a plain scalar stands for. -/
def ofPlain (s : String) : Meaning :=
  let cs := s.toList
  if cs.isEmpty || isNull cs then .unit
  else
    match boolean? cs, integer? cs with
    | some b, _ => .boolean b
    | none, some n => .integer n
    | none, none =>
      let unsigned :=
        match cs with
        | '-' :: rest | '+' :: rest => rest
        | cs => cs
      if hasLeadingZero unsigned then .text s
      else
        match decimal? cs with
        | some written => .decimal written
        | none => .text s

/-- A tag of YAML's own. -/
def coreTag (name : String) : String := "tag:yaml.org,2002:" ++ name

/-- What a scalar stands for; the error is what its tag asks for in vain. -/
def ofScalar (tag : Option String) (style : Style) (s : String) : Except String Meaning :=
  let plain := if style = .plain then ofPlain s else .text s
  match tag with
  | none => .ok plain
  | some tag =>
    if tag = coreTag "bool" then
      match boolean? s.toList with
      | some b => .ok (.boolean b)
      | none => .error "a boolean"
    else if tag = coreTag "int" then
      match integer? s.toList with
      | some n => .ok (.integer n)
      | none => .error "an integer"
    else if tag = coreTag "float" then
      match decimal? s.toList with
      | some written => .ok (.decimal written)
      | none => .error "a float"
    else if tag = coreTag "null" then
      if isNull s.toList then .ok .unit else .error "null"
    else if tag.toList.head? = some '!' then .ok plain
    else .ok (.text s)

end Meaning

end Verdict.Yaml
