/-!
# Tables of characters

A property of many characters is a table of code points. Such a table can be written as text, in
which some characters divide the rows and code points stand as hexadecimal numbers, or as a list of
runs: the first of several code points that follow each other, and what each of them has.
-/

namespace Componentry.Text

/-- The value of a hexadecimal digit. Anything else counts as zero. -/
def hexDigitValue (c : Char) : Nat :=
  if c.isDigit then c.toNat - '0'.toNat
  else if 'a' ≤ c && c ≤ 'f' then c.toNat - 'a'.toNat + 10
  else if 'A' ≤ c && c ≤ 'F' then c.toNat - 'A'.toNat + 10
  else 0

def hexNumber (cs : List Char) : Nat := cs.foldl (fun n c => n * 16 + hexDigitValue c) 0

/-- The parts of a text between the characters that divide it. -/
def divideAt (divides : Char → Bool) (cs : List Char) : List (List Char) :=
  let step (c : Char) (parts : List (List Char)) : List (List Char) :=
    if divides c then [] :: parts
    else
      match parts with
      | [] => [[c]]
      | part :: parts => (c :: part) :: parts
  cs.foldr step [[]]

/-- The rows of a table that is given by runs: each holds a code point and what it has. -/
def rowsOf {α : Type} (runs : List (Nat × List α)) : List (Nat × α) :=
  runs.flatMap fun (first, images) => (images.zipIdx first).map Prod.swap

end Componentry.Text
