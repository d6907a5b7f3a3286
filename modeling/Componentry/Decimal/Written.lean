import Componentry.Decimal.Shortest

/-!
# Writing and reading doubles

The written form of a double takes its shortest digits and sets them positionally for middling
exponents, else with an exponent of at least two digits. Reading accepts the same forms. The same
digits serve the generated code, the exchanged documents and the saved payloads; only the words for
the values that are not finite differ, and those belong to each format.
-/

namespace Componentry.Binary64

/-- Where positional notation begins and ends: exponents of the leading digit from `first` to `last`
are written out. -/
structure Style where
  first : Int
  last : Int
  exponentWidth : Nat

/-- Numbers from 0.0001 up to sixteen digits before the point are written out; an exponent has a
sign and at least two digits. -/
def Style.source : Style := ⟨-4, 15, 2⟩

def padLeft (width : Nat) (cs : List Char) : List Char :=
  List.replicate (width - cs.length) '0' ++ cs

/-- Sets significant digits with the leading one at `leading`. A number without a fraction keeps one
zero after its point. -/
def Style.write (n : Style) (digits : List Char) (leading : Int) : List Char :=
  if n.first ≤ leading ∧ leading ≤ n.last then
    if leading < 0 then
      ['0', '.'] ++ List.replicate ((-leading).toNat - 1) '0' ++ digits
    else
      let whole := leading.toNat + 1
      if digits.length ≤ whole then
        digits ++ List.replicate (whole - digits.length) '0' ++ ['.', '0']
      else digits.take whole ++ ['.'] ++ digits.drop whole
  else
    let mantissa := match digits with
      | d :: e :: rest => d :: '.' :: e :: rest
      | ds => ds
    let sign := if leading < 0 then '-' else '+'
    mantissa ++ ['e', sign] ++ padLeft n.exponentWidth (Nat.toDigits 10 leading.natAbs)

def writeFinite (negative : Bool) (mantissa : Nat) (exponent : Int) : String :=
  let body :=
    if mantissa = 0 then ['0', '.', '0']
    else
      let decimal := shortest mantissa exponent
      Style.source.write decimal.1 decimal.2
  String.ofList (if negative then '-' :: body else body)

/-- The written form with the short words for values that are not finite. -/
def text : Binary64 → String
  | .finite s m e => writeFinite s m e
  | .infinite false => "inf"
  | .infinite true => "-inf"
  | .nan => "nan"

/-- Reads `digits [. digits] [e [±] digits]` with at least one digit before or after the point. -/
def readUnsigned (negative : Bool) (cs : List Char) : Option Binary64 :=
  let whole := cs.takeWhile Char.isDigit
  let (fraction, rest) := match cs.dropWhile Char.isDigit with
    | '.' :: r => (r.takeWhile Char.isDigit, r.dropWhile Char.isDigit)
    | r => ([], r)
  if whole.isEmpty && fraction.isEmpty then none
  else
    match rest with
    | [] => some (ofDecimal negative whole fraction 0)
    | e :: r =>
      if e ≠ 'e' ∧ e ≠ 'E' then none
      else
        let (sign, ds) : Int × List Char := match r with
          | '-' :: ds => (-1, ds)
          | '+' :: ds => (1, ds)
          | ds => (1, ds)
        if ds.isEmpty || !ds.all Char.isDigit then none
        else some (ofDecimal negative whole fraction (sign * natOfDigits ds))

/-- Reads what `text` writes. -/
def ofText? (s : String) : Option Binary64 :=
  match s.toList with
  | ['n', 'a', 'n'] => some .nan
  | ['i', 'n', 'f'] => some (.infinite false)
  | ['-', 'i', 'n', 'f'] => some (.infinite true)
  | '-' :: cs => readUnsigned true cs
  | cs => readUnsigned false cs

end Componentry.Binary64
