/-!
# Combining classes

The classes of the marks that follow a letter. Marks of different classes do not touch each other,
so their order is free (the canonical combining classes of Unicode 14, without class zero).
-/

namespace Componentry.Text

/-- The ranges from a code point on with their classes, given by the length of the gap, that of the
range and its class in turn. -/
def classesFrom (n : Nat) : List Nat → List (Nat × Nat × Nat)
  | gap :: count :: k :: rest =>
    (n + gap, n + gap + count - 1, k) :: classesFrom (n + gap + count) rest
  | _ => []

/-- A row holds the first and the last code point of a range and the class of its members. -/
def combiningClasses : List (Nat × Nat × Nat) := classesFrom 0
  [768,21,230,0,1,232,0,4,220,0,1,232,0,1,216,0,5,220,0,2,202,0,4,220,0,2,202,0,11,220,0,5,1,0,4,
   220,0,8,230,0,1,240,0,1,230,0,3,220,0,3,230,0,2,220,1,3,230,0,4,220,0,1,230,0,1,232,0,2,220,0,1,
   230,0,1,233,0,2,234,0,1,233,0,2,234,0,1,233,0,13,230,275,5,230,265,1,220,0,4,230,0,1,220,0,3,230,
   0,1,222,0,1,220,0,6,230,0,6,220,0,2,230,0,1,220,0,2,230,0,1,222,0,1,228,0,1,230,0,1,10,0,1,11,0,
   1,12,0,1,13,0,1,14,0,1,15,0,1,16,0,1,17,0,1,18,0,2,19,0,1,20,0,1,21,0,1,22,1,1,23,1,1,24,0,1,25,
   1,1,230,0,1,220,1,1,18,72,8,230,0,1,30,0,1,31,0,1,32,48,1,27,0,1,28,0,1,29,0,1,30,0,1,31,0,1,32,
   0,1,33,0,1,34,0,2,230,0,2,220,0,5,230,0,1,220,0,2,230,0,1,220,16,1,35,101,7,230,2,4,230,0,1,220,
   0,1,230,2,2,230,1,1,220,0,2,230,0,1,220,35,1,36,30,1,230,0,1,220,0,2,230,0,1,220,0,2,230,0,3,220,
   0,1,230,0,2,220,0,1,230,0,1,220,0,3,230,0,1,220,0,1,230,0,1,220,0,1,230,0,1,220,0,1,230,0,1,220,
   0,2,230,160,7,230,0,1,220,0,1,230,9,1,220,24,4,230,1,9,230,1,3,230,1,5,230,43,3,220,60,1,230,0,3,
   220,0,4,230,42,5,230,0,5,220,0,14,230,1,1,220,0,2,230,0,1,220,0,2,230,0,1,220,0,3,230,0,3,220,0,
   1,27,0,1,28,0,1,29,0,3,230,0,1,220,0,2,230,0,2,220,0,5,230,60,1,7,16,1,9,3,1,230,0,1,220,0,2,230,
   103,1,7,16,1,9,48,1,230,61,1,7,16,1,9,110,1,7,16,1,9,110,1,7,16,1,9,127,1,9,110,1,7,16,1,9,7,1,
   84,0,1,91,101,1,7,16,1,9,109,2,9,16,1,9,124,1,9,109,2,103,0,1,9,13,4,107,108,2,118,0,1,9,13,4,
   122,76,2,220,27,1,220,1,1,220,1,1,216,55,1,129,0,1,130,1,1,132,5,4,130,2,1,130,1,2,230,0,1,9,1,2,
   230,62,1,220,112,1,7,1,2,9,82,1,220,719,3,230,948,2,9,30,1,9,157,1,9,10,1,230,203,1,228,143,1,
   222,0,1,230,0,1,220,219,1,230,0,1,220,71,1,9,20,8,230,2,1,220,48,5,230,0,6,220,0,2,230,0,1,220,1,
   2,220,0,2,230,0,2,220,0,5,230,0,1,220,0,4,230,101,1,7,15,1,9,38,1,230,0,1,220,0,7,230,54,2,9,58,
   1,7,11,2,9,67,1,7,152,3,230,1,1,1,0,5,220,0,2,230,0,4,220,0,1,230,1,7,1,4,1,220,6,1,230,3,2,230,
   198,2,230,0,1,220,0,7,230,0,1,220,0,2,230,0,1,234,0,1,214,0,1,220,0,1,202,0,37,230,0,1,232,0,2,
   228,0,1,220,0,1,218,0,1,230,0,1,233,0,1,220,0,1,230,0,1,220,720,2,230,0,2,1,0,4,230,0,3,1,0,2,
   230,4,1,230,3,2,1,0,1,230,0,1,220,0,1,230,0,2,1,0,4,220,0,1,230,3070,3,230,141,1,9,96,32,230,554,
   1,218,0,1,228,0,1,232,0,1,222,0,2,224,105,2,8,30164,1,230,4,10,230,32,2,230,80,2,230,276,1,9,37,
   1,9,151,1,9,27,18,230,57,3,220,37,1,9,95,1,7,12,1,9,239,1,230,1,2,230,0,1,220,2,2,230,5,2,230,1,
   1,230,52,1,9,246,1,9,20272,1,26,769,7,230,0,7,220,0,2,230,973,1,220,226,1,220,149,5,230,1682,1,
   220,1,1,230,40,1,230,0,1,1,0,1,220,4,1,9,165,1,230,0,1,220,573,4,230,387,2,230,153,2,220,0,3,230,
   0,1,220,0,1,230,0,4,220,49,1,230,0,1,220,0,1,230,0,1,220,192,1,9,41,1,9,14,1,9,57,1,9,0,1,7,69,3,
   230,48,2,9,62,1,7,76,1,9,9,1,7,106,1,9,0,1,7,178,1,7,0,1,9,80,2,7,16,1,9,24,7,230,3,5,230,205,1,
   9,3,1,7,23,1,230,99,1,9,0,1,7,251,1,9,0,1,7,126,1,9,118,1,9,0,1,7,115,1,9,269,1,9,0,1,7,258,2,9,
   4,1,7,156,1,9,83,1,9,18,1,9,81,1,9,421,1,9,258,1,7,1,2,9,81,1,9,19800,5,1,59,7,230,1209,2,6,
   19628,1,1,5318,2,216,0,3,1,3,1,226,0,5,216,8,8,220,2,5,230,0,2,220,30,4,230,148,3,230,3515,7,230,
   1,17,230,2,7,230,1,2,230,1,5,230,261,7,230,375,1,230,61,4,230,1504,7,220,109,6,230,0,1,7]

end Componentry.Text
