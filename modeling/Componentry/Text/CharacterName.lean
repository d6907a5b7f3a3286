import Componentry.Text.CharacterName.Aliases
import Componentry.Text.CharacterName.Alphabets
import Componentry.Text.CharacterName.EastAsian
import Componentry.Text.CharacterName.Historic
import Componentry.Text.CharacterName.Pictures
import Componentry.Text.CharacterName.Symbols
import Componentry.Text.CharacterName.Words
import Componentry.Text.Lines
import Componentry.Text.Normal
import Componentry.Text.Ranges
import Componentry.Text.Rows

/-!
# Characters by name

Every character has a name, and some have further ones. Most names stand in tables. The names of
Hangul syllables are spelled from the letters of the syllable, and ideographs are named by their
code points. Names from the tables may be given in small letters.

A table is a text of entries for characters in the order of their code points. An entry that starts
with an at sign gives the code point of the next name in hexadecimal digits. An entry that starts
with a small letter is a name: the letter tells how many words it shares with the start of the name
before it, none for `a`; a second small letter tells how many it shares with the end of that name;
the words between those follow. An entry that starts with a slash holds a number: so many names
count on from the name before them. In a name, a sign and the capital letter or digit behind it
stand for a frequent word.

The tables are packed: what stands in a table or in one before it need not be written again.
Instead, a small letter from `m` on and two characters behind it, or three if it is `t` or a later
one, stand for a number, which tells how far back a piece starts and how many characters are taken
from there.
-/

namespace Componentry.Text.CharacterName

/-! ## Packed tables -/

/-- A table that is being unpacked: the characters so far, and the reference that has begun, if any.
`number` is what was read of the reference, and `left` counts the characters that it still has. -/
structure Unpacking where
  text : Array Char := #[]
  number : Nat := 0
  left : Nat := 0
  far : Bool := false

/-- The value of a character in a reference. -/
def referenceDigit (c : Char) : Nat := if c < '\\' then c.toNat - '0'.toNat else c.toNat - '1'.toNat

/-- Takes characters again, one after the other, from as far back as `distance`. -/
def repeatFrom (distance : Nat) : Nat → Array Char → Array Char
  | 0, text => text
  | count + 1, text => repeatFrom distance count (text.push (text.getD (text.size - distance) ' '))

/-- Reads a character of a packed table. -/
def Unpacking.next (u : Unpacking) (c : Char) : Unpacking :=
  match u.left with
  | 0 =>
    if 't' ≤ c && c ≤ 'z' then { u with number := c.toNat - 't'.toNat, left := 3, far := true }
    else if 'm' ≤ c && c ≤ 's' then
      { u with number := c.toNat - 'm'.toNat, left := 2, far := false }
    else { u with text := u.text.push c }
  | left + 1 =>
    let number := u.number * 74 + referenceDigit c
    let shortest := if u.far then 5 else 4
    { u with
      number, left
      text :=
        if left = 0 then repeatFrom (number / 16) (shortest + number % 16) u.text else u.text }

/-- The texts of packed tables. Line breaks and the blanks behind them do not count. -/
def unpack (u : Unpacking) : List String → List (List Char)
  | [] => []
  | table :: rest =>
    let packed := (divideAt (· == '\n') table.toList).flatMap (List.dropWhile (· == ' '))
    let u' := packed.foldl Unpacking.next u
    u'.text.toList.drop u.text.size :: unpack u' rest

/-! ## Tables -/

/-- The signs that start an abbreviation. -/
def signs : List Char := "!$%&()*+,.:;<=>?[]^_|~".toList

def marks : List Char := "ABCDEFGHIJKLMNOPQRSTUVWXYZ0123456789".toList

def isDivider (c : Char) : Bool := c == ' ' || c == '\n'

def abbreviated : Array String :=
  (((divideAt isDivider frequentWords.toList).filter (!·.isEmpty)).map String.ofList).toArray

def frequentWord (words : Array String) (sign mark : Char) : String :=
  words.getD (signs.idxOf sign * marks.length + marks.idxOf mark) ""

/-- The word that is spelled by letters, the last of which comes first, if there are any. -/
def spelledWord (letters : List Char) : List String :=
  if letters.isEmpty then [] else [String.ofList letters.reverse]

/-- The words of a text. The letters of the word that has begun stand in `letters`. -/
def wordsOf (words : Array String) (letters : List Char) : List Char → List String
  | [] => spelledWord letters
  | [c] => spelledWord (if isDivider c then letters else c :: letters)
  | c :: d :: rest =>
    if signs.contains c then
      spelledWord letters ++ frequentWord words c d :: wordsOf words [] rest
    else if isDivider c then spelledWord letters ++ wordsOf words [] (d :: rest)
    else wordsOf words (c :: letters) (d :: rest)

/-- The entries of a table. The characters of the entry that has begun stand in `entry`, the last of
them first. -/
def entriesOf (entry : List Char) : List Char → List (List Char)
  | [] => [entry.reverse]
  | c :: rest =>
    if c == '@' || c == '/' || (c.isLower && !(entry.head?.any Char.isLower)) then
      entry.reverse :: entriesOf [c] rest
    else entriesOf (c :: entry) rest

/-- Counts on in decimal digits, the last of which comes first. -/
def countDigits : List Char → List Char
  | [] => []
  | c :: rest => if c == '9' then '0' :: countDigits rest else Char.ofNat (c.toNat + 1) :: rest

/-- The words of the next name after a name that ends in digits. -/
def countOn (words : List String) : List String :=
  words.dropLast ++ (words.getLast?.map fun word =>
    String.ofList (countDigits word.toList.reverse).reverse).toList

/-- The words of the next names after a name that ends in digits. -/
def countedOn : Nat → List String → List (List String)
  | 0, _ => []
  | count + 1, words => countOn words :: countedOn count (countOn words)

/-- The number of words that a small letter tells. -/
def sharedWords (c : Char) : Nat := c.toNat - 'a'.toNat

/-- The words of a name, given by those of the name before it and an entry. -/
def nameOf (words : Array String) (previous : List String) : List Char → List String
  | [] => []
  | c :: rest =>
    let atEnd := (rest.head?.filter Char.isLower).toList
    previous.take (sharedWords c) ++ wordsOf words [] (rest.drop atEnd.length)
      ++ (atEnd.map sharedWords).flatMap fun count => previous.drop (previous.length - count)

/-- The names in a list of entries with their code points. The next name belongs to `code`, and
`previous` holds the words of the name before it. -/
def readEntries (words : Array String) (code : Nat) (previous : List String) :
    List (List Char) → List (String × Nat)
  | [] => []
  | [] :: rest => readEntries words code previous rest
  | ('@' :: digits) :: rest =>
    readEntries words (hexNumber (digits.takeWhile (!isDivider ·))) previous rest
  | ('/' :: digits) :: rest =>
    let count := ((String.ofList (digits.takeWhile (!isDivider ·))).toNat?).getD 0
    let names := countedOn count previous
    (names.map (joinWith " ")).zipIdx code
      ++ readEntries words (code + count) (names.getLast?.getD previous) rest
  | entry :: rest =>
    let name := nameOf words previous entry
    (joinWith " " name, code) :: readEntries words (code + 1) name rest

def ofTable (words : Array String) (table : List Char) : List (String × Nat) :=
  readEntries words 0 [] (entriesOf [] table)

/-- The names of a table whose entries hold a code point and a name each and are divided by
slashes. -/
def ofAliases (table : String) : List (String × Nat) :=
  (divideAt (· == '/') table.toList).map fun entry =>
    let entry := entry.dropWhile isDivider
    let digits := entry.takeWhile (· != ' ')
    (String.ofList (entry.drop (digits.length + 1)), hexNumber digits)

/-- All names that stand in tables. The tables are read when the first name is looked up. -/
def tabulated : Thunk (List (String × Nat)) :=
  Thunk.mk fun _ =>
    let words := abbreviated
    let tables :=
      unpack {} [alphabetNames, symbolNames, eastAsianNames, historicNames, pictureNames]
    tables.flatMap (ofTable words) ++ ofAliases aliasNames ++ ofTable words selectorNames.toList

/-! ## Syllables -/

/-- What follows a given start of a text. -/
def after? (start : String) (cs : List Char) : Option (List Char) :=
  if start.toList.isPrefixOf cs then some (cs.drop start.length) else none

/-- The spellings of leading consonants, in order; one of them is silent. -/
def leads : List String :=
  ["G", "GG", "N", "D", "DD", "R", "M", "B", "BB", "S", "SS", "", "J", "JJ", "C", "K",
    "T", "P", "H"]

def vowels : List String :=
  ["A", "AE", "YA", "YAE", "EO", "E", "YEO", "YE", "O", "WA", "WAE", "OE", "YO", "U", "WEO", "WE",
    "WI", "YU", "EU", "YI", "I"]

def tails : List String :=
  ["", "G", "GG", "GS", "N", "NJ", "NH", "D", "L", "LG", "LM", "LB", "LS", "LT", "LP",
    "LH", "M", "B", "BS", "S", "SS", "NG", "J", "C", "K", "T", "P", "H"]

/-- The Hangul syllable that is spelled by the given letters. -/
def spelled? (cs : List Char) : Option Nat :=
  leads.zipIdx.findSome? fun (lead, l) => do
    let cs ← after? lead cs
    vowels.zipIdx.findSome? fun (vowel, v) => do
      let cs ← after? vowel cs
      (tails.zipIdx.find? (·.1.toList == cs)).map fun (_, t) => Hangul.syllable l v t

def syllable? (name : List Char) : Option Nat := (after? "HANGUL SYLLABLE " name).bind spelled?

/-! ## Code points in names -/

def unifiedIdeographs : List (Nat × Nat) :=
  [(0x3400, 0x4DBF), (0x4E00, 0x9FFF), (0x20000, 0x2A6DF), (0x2A700, 0x2B738), (0x2B740, 0x2B81D),
    (0x2B820, 0x2CEA1), (0x2CEB0, 0x2EBE0), (0x30000, 0x3134A)]

def isLargeHexDigit (c : Char) : Bool := c.isDigit || ('A' ≤ c && c ≤ 'F')

/-- The unified ideograph of a name, which gives its code point in four or five digits. -/
def unified? (name : List Char) : Option Nat := do
  let digits ← after? "CJK UNIFIED IDEOGRAPH-" name
  let n := hexNumber digits
  if (digits.length = 4 || digits.length = 5) && digits.all isLargeHexDigit
      && inRanges n unifiedIdeographs then
    some n
  else none

/-- Other characters that are named by their code points: how their names start, and which they
are. -/
def numbered : List (String × List (Nat × Nat)) :=
  [("CJK COMPATIBILITY IDEOGRAPH-", [(0xF900, 0xFA6D), (0xFA70, 0xFAD9), (0x2F800, 0x2FA1D)]),
    ("KHITAN SMALL SCRIPT CHARACTER-", [(0x18B00, 0x18CD5)]),
    ("NUSHU CHARACTER-", [(0x1B170, 0x1B2FB)])]

def largeHex (n : Nat) : List Char := (Nat.toDigits 16 n).map Char.toUpper

/-- The character whose name ends in its code point. -/
def numbered? (name : List Char) : Option Nat :=
  numbered.findSome? fun (start, ranges) => do
    let digits ← after? start name
    let n := hexNumber digits
    if largeHex n == digits && inRanges n ranges then some n else none

/-! ## Look-up -/

def code? (name : List Char) : Option Nat :=
  let large := name.map Char.toUpper
  syllable? name <|> unified? name <|> numbered? large
    <|> tabulated.get.lookup (String.ofList large)

def find? (name : List Char) : Option Char := (code? name).map Char.ofNat

end Componentry.Text.CharacterName
