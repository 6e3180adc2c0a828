import LayerMessaging.Text.CombiningClass
import LayerMessaging.Text.Composite

namespace LayerMessaging.Text

structure Hangul where
  lead : Nat
  vowel : Nat
  tail : Nat
  syllable : Nat

def hangul : Hangul := ⟨0x1100, 0x1161, 0x11a7, 0xac00⟩

/-- The parts of a Hangul syllable, of which there are 19 × 21 × 28. -/
def syllableParts? (code : Nat) : Option (List Nat) :=
  if hangul.syllable ≤ code ∧ code < hangul.syllable + 11172 then
    let i := code - hangul.syllable
    let opened := [hangul.lead + i / 588, hangul.vowel + i % 588 / 28]
    some (if i % 28 = 0 then opened else opened ++ [hangul.tail + i % 28])
  else none

/-- The characters of which a character consists. No character has more than three marks. -/
def decomposed : (fuel : Nat) → Char → List Char
  | 0, c => [c]
  | fuel + 1, c =>
    match syllableParts? c.toNat with
    | some parts => parts.map Char.ofNat
    | none => match composites.lookup c.toNat with
      | some [first, second] => decomposed fuel (Char.ofNat first) ++ [Char.ofNat second]
      | _ => [c]

/-- The syllable of a leading consonant and a vowel, or of an open syllable and a consonant. -/
def syllable? (first second : Nat) : Option Nat :=
  if hangul.lead ≤ first ∧ first < hangul.lead + 19
      ∧ hangul.vowel ≤ second ∧ second < hangul.vowel + 21 then
    some (hangul.syllable + ((first - hangul.lead) * 21 + (second - hangul.vowel)) * 28)
  else if hangul.syllable ≤ first ∧ first < hangul.syllable + 11172
      ∧ (first - hangul.syllable) % 28 = 0 ∧ hangul.tail < second ∧ second < hangul.tail + 28 then
    some (first + (second - hangul.tail))
  else none

def composite? (first second : Char) : Option Char :=
  match syllable? first.toNat second.toNat with
  | some code => some (Char.ofNat code)
  | none =>
    (composites.find? fun (_, parts) => parts == [first.toNat, second.toNat]).map
      fun (code, _) => Char.ofNat code

abbrev Classified := Nat × Char

/-- Puts a character in front, behind the marks of smaller classes. -/
def placeMark (mark : Classified) : List Classified → List Classified
  | [] => [mark]
  | next :: rest =>
    if 0 < next.1 ∧ next.1 < mark.1 then next :: placeMark mark rest else mark :: next :: rest

/-- Marks in the order of their classes; marks of one class keep their order. -/
def reordered : List Classified → List Classified
  | [] => []
  | c :: rest => placeMark c (reordered rest)

/-- Composes what follows a letter, given the marks behind it that stay on their own, the last one
first. A mark reaches the letter past marks of smaller classes. -/
def composeFrom (letter : Char) (marks : List Classified) : List Classified → List Char
  | [] => letter :: marks.reverse.map Prod.snd
  | (value, c) :: rest =>
    let reaches := match marks with
      | [] => true
      | (last, _) :: _ => last < value
    match if reaches then composite? letter c else none with
    | some letter => composeFrom letter marks rest
    | none =>
      if value = 0 then (letter :: marks.reverse.map Prod.snd) ++ composeFrom c [] rest
      else composeFrom letter ((value, c) :: marks) rest

def compose : List Classified → List Char
  | [] => []
  | (value, c) :: rest => if value = 0 then composeFrom c [] rest else c :: compose rest

/-- The composed form: characters are taken apart, marks are put in the order of their classes, and
what can be one character becomes one. Before U+0300 no character joins another. -/
def composed (cs : List Char) : List Char :=
  if cs.all fun c => c.toNat < 0x300 then cs
  else
    let parts := cs.flatMap (decomposed 4)
    compose (reordered (parts.map fun c => (combiningClass c, c)))

end LayerMessaging.Text
