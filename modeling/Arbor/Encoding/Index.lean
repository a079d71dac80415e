/-!
Looking characters up in an index, and pointers up by character.
-/

namespace Arbor.Encoding

/-- The characters of an index text by pointer, with NUL for each `_`: a pointer that stands for
no character. -/
def indexOfText (text : String) : Array Char :=
  (text.toList.map fun c => if c = '_' then '\x00' else c).toArray

/-- The character of a pointer, if the pointer stands for one. -/
def pointerChar? (index : Array Char) (p : Nat) : Option Char :=
  match index[p]? with
  | some c => if c.toNat = 0 then none else some c
  | none => none

/-- The first pointer of a character among those `keep` lets through. -/
def pointerWhere? (index : Array Char) (keep : Nat → Bool) (c : Char) : Option Nat :=
  let rec go : List Char → Nat → Option Nat
    | [], _ => none
    | d :: rest, i => if d == c && keep i then some i else go rest (i + 1)
  go index.toList 0

def firstPointer? (index : Array Char) (c : Char) : Option Nat := pointerWhere? index (fun _ => true) c

def inByteRange (b : UInt8) (lo hi : Nat) : Bool := lo ≤ b.toNat && b.toNat ≤ hi

def bytesOf (ns : List Nat) : List UInt8 := ns.map Nat.toUInt8

end Arbor.Encoding
