import Componentry.Text.Normal.Classes
import Componentry.Text.Normal.Compositions
import Componentry.Text.Normal.Decompositions

/-!
# Normal forms of text

Texts that a reader takes for the same may be written with different characters. The normal form of
a text replaces every character by what it stands for, brings the marks behind a letter into the
order of their classes, and then composes letters and marks again as far as single characters exist
for them. Two spellings of a name are the same name if their normal forms agree.

ASCII characters stand for themselves, so a text of ASCII characters is its own normal form.
-/

namespace Componentry.Text

/-! ## Hangul syllables -/

namespace Hangul

/-- The first syllable; the syllables follow each other in the order of their letters. -/
def firstSyllable : Nat := 0xAC00

def firstLead : Nat := 0x1100

def firstVowel : Nat := 0x1161

/-- The code point in front of the first trailing consonant. -/
def beforeTails : Nat := 0x11A7

def leadCount : Nat := 19

def vowelCount : Nat := 21

/-- The number of trailing consonants, with one for none. -/
def tailCount : Nat := 28

/-- The place of a syllable among the syllables. -/
def index? (n : Nat) : Option Nat :=
  if firstSyllable ≤ n && n < firstSyllable + leadCount * vowelCount * tailCount then
    some (n - firstSyllable)
  else none

def letters (i : Nat) : List Nat :=
  let lead := firstLead + i / (vowelCount * tailCount)
  let vowel := firstVowel + i / tailCount % vowelCount
  if i % tailCount = 0 then [lead, vowel] else [lead, vowel, beforeTails + i % tailCount]

/-- The syllable of a leading consonant, a vowel and perhaps a trailing consonant, all by their
places. -/
def syllable (lead vowel tail : Nat) : Nat :=
  firstSyllable + (lead * vowelCount + vowel) * tailCount + tail

/-- The syllable that a consonant and a vowel form, or a syllable and a trailing consonant. -/
def compose? (a b : Nat) : Option Nat :=
  if firstLead ≤ a && a < firstLead + leadCount && firstVowel ≤ b &&
      b < firstVowel + vowelCount then
    some (syllable (a - firstLead) (b - firstVowel) 0)
  else
    match index? a with
    | some i =>
      if i % tailCount = 0 && beforeTails < b && b < beforeTails + tailCount then
        some (a + (b - beforeTails))
      else none
    | none => none

end Hangul

/-! ## Decomposition -/

/-- What a character stands for, if it stands for one other. -/
def simpleImage? (n : Nat) : Option Nat :=
  simpleImages.findSome? fun (first, image, count) =>
    if first ≤ n && n < first + count then some (image + (n - first)) else none

/-- What a character stands for, if it stands for several. -/
def compoundParts? (n : Nat) : Option (List Nat) :=
  compoundParts.findSome? fun (first, parts) => if n = first then some parts else none

/-- The characters that a character stands for in the end; most stand for themselves. -/
def decompose (n : Nat) : List Nat :=
  match Hangul.index? n with
  | some i => Hangul.letters i
  | none =>
    match simpleImage? n with
    | some image => [image]
    | none => (compoundParts? n).getD [n]

/-! ## Order of marks -/

/-- The class of a mark. Letters and all else that is no mark have class zero. -/
def combiningClass (n : Nat) : Nat :=
  (combiningClasses.findSome? fun (first, last, k) =>
    if first ≤ n && n ≤ last then some k else none).getD 0

/-- Moves a mark behind the marks of smaller classes that follow it. -/
def placeMark (n : Nat) : List Nat → List Nat
  | [] => [n]
  | m :: rest =>
    if combiningClass m ≠ 0 && combiningClass m < combiningClass n then m :: placeMark n rest
    else n :: m :: rest

/-- Brings the marks behind every letter into the order of their classes. Marks of one class keep
their order. -/
def orderMarks (ns : List Nat) : List Nat := ns.foldr placeMark []

/-! ## Composition -/

def composePair? (a b : Nat) : Option Nat :=
  match Hangul.compose? a b with
  | some n => some n
  | none =>
    composedPairs.findSome? fun (n, first, second) =>
      if a = first && b = second then some n else none

/-- Composes a letter with what follows it. A character is out of the letter's reach if a mark that
was passed over, the last of which is the first of `passed`, has no smaller class. -/
def composeFrom (letter : Nat) (passed : List Nat) : List Nat → List Nat
  | [] => letter :: passed.reverse
  | n :: rest =>
    let inReach := match passed with
      | [] => true
      | m :: _ => combiningClass m < combiningClass n
    match if inReach then composePair? letter n else none with
    | some composed => composeFrom composed passed rest
    | none =>
      if combiningClass n = 0 then letter :: passed.reverse ++ composeFrom n [] rest
      else composeFrom letter (n :: passed) rest

def composeAll : List Nat → List Nat
  | [] => []
  | n :: rest => if combiningClass n = 0 then composeFrom n [] rest else n :: composeAll rest

/-! ## Normal form -/

def isAscii (s : String) : Bool := s.toList.all (·.toNat < 128)

def normalForm (s : String) : String :=
  if isAscii s then s
  else
    let codes := s.toList.flatMap fun c => decompose c.toNat
    String.ofList ((composeAll (orderMarks codes)).map Char.ofNat)

end Componentry.Text
