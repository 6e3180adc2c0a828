import LayerMessaging.Toml.Quoted

namespace LayerMessaging.Toml.Reader

/-- The digits of a class that follow one, with single underscores between two of them. An
underscore at their end is a fault. -/
def groupedRest (isDigit : Char → Bool) (cs : List Char) : Option (List Char × List Char) :=
  match cs with
  | '_' :: d :: rest =>
    if isDigit d then do
      let (digits, rest) ← groupedRest isDigit rest
      return (d :: digits, rest)
    else none
  | ['_'] => none
  | d :: rest =>
    if isDigit d then do
      let (digits, rest) ← groupedRest isDigit rest
      return (d :: digits, rest)
    else some ([], d :: rest)
  | [] => some ([], [])

def grouped (isDigit : Char → Bool) (cs : List Char) : Option (List Char × List Char) :=
  match cs with
  | [] => none
  | c :: rest =>
    if isDigit c then do
      let (digits, rest) ← groupedRest isDigit rest
      return (c :: digits, rest)
    else none

/-- The whole part of a decimal number: no zero in front of another digit. -/
def wholePart (cs : List Char) : Option (List Char × List Char) :=
  match cs with
  | '0' :: rest => some (['0'], rest)
  | cs => grouped Char.isDigit cs

def decimalValue (digits : List Char) : Nat :=
  digits.foldl (fun n c => 10 * n + (c.toNat - 48)) 0

def sign (cs : List Char) : Bool × List Char :=
  match cs with
  | '+' :: rest => (false, rest)
  | '-' :: rest => (true, rest)
  | cs => (false, cs)

def exponent? (cs : List Char) : Option (Int × List Char) :=
  match cs with
  | e :: rest =>
    if e = 'e' ∨ e = 'E' then do
      let (negative, rest) := sign rest
      let (digits, rest) ← grouped Char.isDigit rest
      let value : Int := decimalValue digits
      return (if negative then -value else value, rest)
    else none
  | [] => none

/-- A number with a fraction or an exponent. One too large upwards is refused. -/
def decimalFloat : Reader Toml := fun cs => do
  let (negative, rest) := sign cs
  let (whole, rest) ← wholePart rest
  let (fraction, rest) ← match rest with
    | '.' :: rest => do
      let (digits, rest) ← grouped Char.isDigit rest
      pure (some digits, rest)
    | rest => pure (none, rest)
  let (exponent, rest) := match exponent? rest with
    | some (exponent, rest) => (some exponent, rest)
    | none => (none, rest)
  if fraction.isNone ∧ exponent.isNone then none
  let digits := whole ++ fraction.getD []
  let x := Binary64.ofDecimal negative (decimalValue digits)
    (exponent.getD 0 - (fraction.getD []).length)
  if x = Binary64.infinity false then none else some (.float x, rest)

/-- Infinity, or what is no number. -/
def specialFloat : Reader Toml := fun cs =>
  let (negative, rest) := sign cs
  match rest with
  | 'i' :: 'n' :: 'f' :: rest => some (.float (Binary64.infinity negative), rest)
  | 'n' :: 'a' :: 'n' :: rest => some (.float (Binary64.nan negative), rest)
  | _ => none

/-- One more than the greatest integer of 64 bits, one of which is the sign. -/
def integerLimit : Nat := Bytes.limit 8 / 2

def integer : Reader Toml := fun cs =>
  let based (base : Nat) (isDigit : Char → Bool) (rest : List Char) :
      Option (Toml × List Char) := do
    let (digits, rest) ← grouped isDigit rest
    let value := digits.foldl (fun n c => base * n + ((hexValue? [c]).getD 0)) 0
    if value < integerLimit then some (.integer value, rest) else none
  match cs with
  | '0' :: 'x' :: rest => based 16 (fun c => (hexValue? [c]).isSome) rest
  | '0' :: 'o' :: rest => based 8 (fun c => '0' ≤ c && c ≤ '7') rest
  | '0' :: 'b' :: rest => based 2 (fun c => c = '0' || c = '1') rest
  | cs => do
    let (negative, rest) := sign cs
    let (digits, rest) ← wholePart rest
    let value := decimalValue digits
    if negative then if value ≤ integerLimit then some (.integer (-value), rest) else none
    else if value < integerLimit then some (.integer value, rest) else none

def fixedDigits (count : Nat) (cs : List Char) : Option (Nat × List Char) :=
  let digits := cs.take count
  if digits.length = count ∧ digits.all Char.isDigit then
    some (decimalValue digits, cs.drop count)
  else none

def isLeapYear (year : Nat) : Bool :=
  year % 4 = 0 && (year % 100 ≠ 0 || year % 400 = 0)

def daysIn (year month : Nat) : Nat :=
  if month = 2 then (if isLeapYear year then 29 else 28)
  else if [4, 6, 9, 11].contains month then 30
  else 31

def behind? (c : Char) (cs : List Char) : Option (List Char) :=
  match cs with
  | d :: rest => if d = c then some rest else none
  | [] => none

def date? (cs : List Char) : Option (List Char) := do
  let (year, cs) ← fixedDigits 4 cs
  let (month, cs) ← fixedDigits 2 (← behind? '-' cs)
  let (day, cs) ← fixedDigits 2 (← behind? '-' cs)
  if 1 ≤ month ∧ month ≤ 12 ∧ 1 ≤ day ∧ day ≤ daysIn year month then some cs else none

def clock? (cs : List Char) : Option (List Char) := do
  let (hour, cs) ← fixedDigits 2 cs
  let (minute, cs) ← fixedDigits 2 (← behind? ':' cs)
  if hour ≤ 23 ∧ minute ≤ 59 then some cs else none

def time? (cs : List Char) : Option (List Char) := do
  let (second, cs) ← fixedDigits 2 (← behind? ':' (← clock? cs))
  if 60 < second then none
  match cs with
  | '.' :: rest => if rest.head?.any Char.isDigit then some (rest.dropWhile Char.isDigit) else none
  | cs => some cs

def offset? (cs : List Char) : Option (List Char) :=
  match cs with
  | c :: rest =>
    if c = 'Z' ∨ c = 'z' then some rest
    else if c = '+' ∨ c = '-' then clock? rest
    else some (c :: rest)
  | [] => some []

def dateTime : Reader Toml := fun cs =>
  match date? cs with
  | some rest =>
    match rest with
    | c :: after =>
      if c = 'T' ∨ c = 't' ∨ c = ' ' then
        match time? after with
        | some after => (offset? after).map (.dateTime, ·)
        | none => if c = ' ' then some (.dateTime, rest) else none
      else some (.dateTime, rest)
    | [] => some (.dateTime, [])
  | none => (time? cs).map (.dateTime, ·)

def numeral : Reader Toml := fun cs =>
  dateTime cs <|> decimalFloat cs <|> specialFloat cs <|> integer cs

end LayerMessaging.Toml.Reader
