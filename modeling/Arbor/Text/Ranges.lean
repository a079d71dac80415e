/-!
Look-up in sorted tables of code points.
-/

namespace Arbor.Text

def inRangesBetween (r : Array Nat) (n : Nat) (lo hi : Nat) : Bool :=
  if lo < hi then
    let mid := (lo + hi) / 2
    if n < r.getD (2 * mid) 0 then inRangesBetween r n lo mid
    else if r.getD (2 * mid + 1) 0 < n then inRangesBetween r n (mid + 1) hi
    else true
  else false
termination_by hi - lo

def inRanges (r : Array Nat) (n : Nat) : Bool := inRangesBetween r n 0 (r.size / 2)

def lookupPairBetween (t : Array Nat) (n : Nat) (lo hi : Nat) : Option Nat :=
  if lo < hi then
    let mid := (lo + hi) / 2
    let key := t.getD (2 * mid) 0
    if n < key then lookupPairBetween t n lo mid
    else if key < n then lookupPairBetween t n (mid + 1) hi
    else some (t.getD (2 * mid + 1) 0)
  else none
termination_by hi - lo

def lookupPair (t : Array Nat) (n : Nat) : Option Nat := lookupPairBetween t n 0 (t.size / 2)

/-- The position of the first pair of `t`, among those numbered `lo` to `hi - 1`, whose key
is at least `n`; `hi` if there is none. -/
def lowerBound (t : Array Nat) (n : Nat) (lo hi : Nat) : Nat :=
  if lo < hi then
    let mid := (lo + hi) / 2
    if t.getD (2 * mid) 0 < n then lowerBound t n (mid + 1) hi else lowerBound t n lo mid
  else lo
termination_by hi - lo

def valuesFrom (t : Array Nat) (n : Nat) : Nat → Nat → List Nat
  | 0, _ => []
  | fuel + 1, i =>
    if 2 * i + 1 < t.size && t.getD (2 * i) 0 == n then t.getD (2 * i + 1) 0 :: valuesFrom t n fuel (i + 1)
    else []

/-- The values of every pair of the pair table `t` whose key is `n`, in table order. -/
def valuesOf (t : Array Nat) (n : Nat) : List Nat :=
  valuesFrom t n (t.size / 2) (lowerBound t n 0 (t.size / 2))

def hexNumber (digits : String) : Nat :=
  digits.foldl (fun n c => n * 16 + (if c ≤ '9' then c.toNat - '0'.toNat else c.toNat - 'A'.toNat + 10)) 0

/-- The range table a range text describes. A range text is a list of lines of hexadecimal
code points separated by spaces, each item one code point or a range `lo-hi`, sorted and
disjoint across the lines. -/
def rangesOfText (text : List String) : Array Nat :=
  text.foldl (fun acc line =>
    ((line.splitOn " ").filter (!·.isEmpty)).foldl (fun acc item =>
      match item.splitOn "-" with
      | [lo, hi] => (acc.push (hexNumber lo)).push (hexNumber hi)
      | _ => (acc.push (hexNumber item)).push (hexNumber item)) acc) #[]

abbrev RangeTable := List (String × List String)

/-- The value a key is paired with in a list of pairs, the first such pair if several are. -/
def lookupName? {α : Type} (table : List (String × α)) (key : String) : Option α :=
  (table.find? (·.1 == key)).map (·.2)

end Arbor.Text
