namespace LayerMessaging.Punycode

def base : Nat := 36

def thresholds : Nat × Nat := (1, 26)

/-- Takes delta down to the range of one digit, `base` places at a time. -/
def reduce : (fuel delta k : Nat) → Nat
  | 0, _, k => k
  | fuel + 1, delta, k =>
    if 455 < delta then reduce fuel (delta / 35) (k + base)
    else k + 36 * delta / (delta + 38)

def adapt (delta count : Nat) (first : Bool) : Nat :=
  let delta := if first then delta / 700 else delta / 2
  reduce 64 (delta + delta / count) 0

def digitChar (d : Nat) : Char := if d < 26 then Char.ofNat (97 + d) else Char.ofNat (22 + d)

def digit? (c : Char) : Option Nat :=
  if 'a' ≤ c ∧ c ≤ 'z' then some (c.toNat - 97)
  else if 'A' ≤ c ∧ c ≤ 'Z' then some (c.toNat - 65)
  else if '0' ≤ c ∧ c ≤ '9' then some (c.toNat - 22)
  else none

/-- The threshold of the digit at place `k`. -/
def threshold (k bias : Nat) : Nat := max thresholds.1 (min thresholds.2 (k - bias))

def deltaDigits : (fuel delta bias k : Nat) → List Char
  | 0, _, _, _ => []
  | fuel + 1, delta, bias, k =>
    let t := threshold k bias
    if delta < t then [digitChar delta]
    else digitChar (t + (delta - t) % (base - t))
      :: deltaDigits fuel ((delta - t) / (base - t)) bias (k + base)

/-- One pass over the label for the code point `n`: characters below it advance the delta, and each
occurrence of it writes the delta. -/
def pass (n : Nat) : List Char → (delta bias handled : Nat) → (basic : Nat) → List Char
    → List Char × Nat × Nat × Nat
  | [], delta, bias, handled, _, out => (out, delta, bias, handled)
  | c :: rest, delta, bias, handled, basic, out =>
    if c.toNat < n then pass n rest (delta + 1) bias handled basic out
    else if c.toNat = n then
      pass n rest 0 (adapt delta (handled + 1) (handled = basic)) (handled + 1) basic
        (out ++ deltaDigits 64 delta bias base)
    else pass n rest delta bias handled basic out

def passes (label : List Char) (basic : Nat) : (fuel n delta bias handled : Nat) → List Char
    → List Char
  | 0, _, _, _, _, out => out
  | fuel + 1, n, delta, bias, handled, out =>
    match (label.filter fun c => n ≤ c.toNat).map Char.toNat |>.min? with
    | none => out
    | some next =>
      let (out, delta, bias, handled) :=
        pass next label (delta + (next - n) * (handled + 1)) bias handled basic out
      passes label basic fuel (next + 1) (delta + 1) bias handled out

def encode (label : List Char) : List Char :=
  let basic := label.filter fun c => c.toNat < 128
  let start := if basic.isEmpty then [] else basic ++ ['-']
  passes label basic.length (label.length + 1) 128 0 72 basic.length start

def readDelta : List Char → (value weight k bias : Nat) → Option (Nat × List Char)
  | [], _, _, _, _ => none
  | c :: rest, value, weight, k, bias =>
    match digit? c with
    | none => none
    | some d =>
      let value := value + d * weight
      let t := threshold k bias
      if d < t then some (value, rest)
      else readDelta rest value (weight * (base - t)) (k + base) bias

def insertAll : (fuel : Nat) → List Char → (n i bias : Nat) → List Char → Option (List Char)
  | 0, _, _, _, _, _ => none
  | fuel + 1, input, n, i, bias, out =>
    if input.isEmpty then some out
    else
      match readDelta input i 1 base bias with
      | none => none
      | some (j, rest) =>
        let count := out.length + 1
        let n := n + j / count
        if 0x10ffff < n ∨ (0xd800 ≤ n ∧ n ≤ 0xdfff) then none
        else
          let place := j % count
          insertAll fuel rest n (place + 1) (adapt (j - i) count (i = 0))
            (out.take place ++ Char.ofNat n :: out.drop place)

def decode (text : List Char) : Option (List Char) :=
  let tail := (text.reverse.takeWhile (· ≠ '-')).reverse
  let head := text.take (text.length - tail.length - 1)
  insertAll (text.length + 1) tail 128 0 72 head

end LayerMessaging.Punycode
