import Arbor.Regex.CharSet
/-!
Character sets as lists of intervals.
-/

namespace Arbor.Regex

open Arbor.Text

def maxCodePoint : Nat := 0x10FFFF

abbrev Intervals := List (Nat × Nat)

namespace Intervals

def coalesce : Intervals → Intervals
  | (a, b) :: (c, d) :: rest =>
    if c ≤ b + 1 then coalesce ((a, max b d) :: rest) else (a, b) :: coalesce ((c, d) :: rest)
  | xs => xs
termination_by xs => xs.length

/-- Sort intervals and merge those that overlap or touch. -/
def normalize (xs : Intervals) : Intervals :=
  coalesce ((xs.filter fun (a, b) => a ≤ b).mergeSort fun x y => x.1 ≤ y.1)

def gapsFrom (start : Nat) : Intervals → Intervals
  | [] => if start ≤ maxCodePoint then [(start, maxCodePoint)] else []
  | (a, b) :: rest =>
    if start < a then (start, a - 1) :: gapsFrom (b + 1) rest else gapsFrom (b + 1) rest

def complement (xs : Intervals) : Intervals := gapsFrom 0 xs

def union (xs ys : Intervals) : Intervals := normalize (xs ++ ys)

/-- The intersection of two normalized interval lists. -/
def inter (xs ys : Intervals) : Intervals :=
  complement (union (complement xs) (complement ys))

def diff (xs ys : Intervals) : Intervals := inter xs (complement ys)

def mem (xs : Intervals) (n : Nat) : Bool := xs.any fun (a, b) => a ≤ n && n ≤ b

def ofTable (r : Array Nat) : Intervals :=
  normalize ((List.range (r.size / 2)).map fun i => (r.getD (2 * i) 0, r.getD (2 * i + 1) 0))

def withoutSurrogates (xs : Intervals) : Intervals :=
  xs.flatMap fun (a, b) =>
    (if a ≤ 0xD7FF then [(a, min b 0xD7FF)] else []) ++
      (if 0xE000 ≤ b then [(max a 0xE000, b)] else [])

end Intervals

def caseGroups : List (List Nat) :=
  let pairs := (List.range (foldMembers.size / 2)).map fun i =>
    (foldMembers.getD (2 * i) 0, foldMembers.getD (2 * i + 1) 0)
  let grouped := pairs.splitBy fun x y => x.1 == y.1
  grouped.filterMap fun g => g.head?.map fun (k, _) => k :: g.map (·.2)

/-- The ASCII white space: tab to carriage return, and the space. -/
def asciiBlankIntervals : Intervals := [(0x09, 0x0D), (0x20, 0x20)]

def blankIntervals : Intervals :=
  [(0x09, 0x0D), (0x20, 0x20), (0x85, 0x85), (0xA0, 0xA0), (0x1680, 0x1680), (0x2000, 0x200A),
    (0x2028, 0x2029), (0x202F, 0x202F), (0x205F, 0x205F), (0x3000, 0x3000)]

def asciiWordIntervals : Intervals := [(0x30, 0x39), (0x41, 0x5A), (0x5F, 0x5F), (0x61, 0x7A)]

namespace CharSet

/-- The code points of a set as normalized intervals, surrogates included where a
complement lets them in. -/
def codeIntervals : CharSet → Intervals
  | range lo hi => if lo ≤ hi then [(lo, hi)] else []
  | table r => Intervals.ofTable r
  | word u => if u then Intervals.ofTable wordRanges else asciiWordIntervals
  | digit u => if u then Intervals.ofTable digitRanges else [(0x30, 0x39)]
  | blank u => if u then blankIntervals else asciiBlankIntervals
  | union a b => Intervals.union a.codeIntervals b.codeIntervals
  | inter a b => Intervals.inter a.codeIntervals b.codeIntervals
  | diff a b => Intervals.diff a.codeIntervals b.codeIntervals
  | symmDiff a b =>
    let x := a.codeIntervals
    let y := b.codeIntervals
    Intervals.union (Intervals.diff x y) (Intervals.diff y x)
  | compl a => Intervals.complement a.codeIntervals
  | folded a =>
    let x := a.codeIntervals
    let more := caseGroups.flatMap fun g =>
      if g.any (Intervals.mem x) then g.map fun n => (n, n) else []
    Intervals.union x more
  | asciiFolded a =>
    let x := a.codeIntervals
    let pairs := (List.range 26).flatMap fun i => [(0x41 + i, 0x61 + i), (0x61 + i, 0x41 + i)]
    let more := pairs.filter fun (_, d) => Intervals.mem x d
    Intervals.union x (more.map fun (c, _) => (c, c))

def intervals (s : CharSet) : Intervals := Intervals.withoutSurrogates s.codeIntervals

end CharSet

end Arbor.Regex
