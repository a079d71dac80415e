import Arbor.Regex.Program
/-!
Running a program over a text without backtracking.
-/

namespace Arbor.Regex

open Arbor.Text

/-- A thread: an instruction and the capture slots recorded on the way there. -/
structure Thread where
  pc : Nat
  caps : Array (Option Nat)
  deriving Inhabited

def wordAt (unicode : Bool) : Option Char → Bool
  | some c => (CharSet.word unicode).mem c
  | none => false

/-- Whether a condition holds between the characters `prev` and `next` (none at the ends of
the text). -/
def Look.holds (prev next : Option Char) : Look → Bool
  | .textStart => prev.isNone
  | .textEnd => next.isNone
  | .lineStart => prev.isNone || prev == some '\n'
  | .lineEnd => next.isNone || next == some '\n'
  | .lineStartCrlf => prev.isNone || prev == some '\n' || (prev == some '\r' && next != some '\n')
  | .lineEndCrlf => next.isNone || next == some '\r' || (next == some '\n' && prev != some '\r')
  | .wordBoundary u => wordAt u prev != wordAt u next
  | .notWordBoundary u => wordAt u prev == wordAt u next
  | .wordStart u => !wordAt u prev && wordAt u next
  | .wordEnd u => wordAt u prev && !wordAt u next
  | .wordStartHalf u => !wordAt u prev
  | .wordEndHalf u => !wordAt u next

/-- Follow forks, jumps, saves and conditions from the pending entries, in order of
preference, at position `pos` between `prev` and `next`; threads that wait at a step or an
accept join the list. At most `fuel` entries are taken. -/
def closure (prog : Program) (prev next : Option Char) (pos : Nat) :
    Nat → List (Nat × Array (Option Nat)) → Array Bool → Array Thread → Array Bool × Array Thread
  | 0, _, seen, list => (seen, list)
  | _, [], seen, list => (seen, list)
  | fuel + 1, (pc, caps) :: work, seen, list =>
    if seen.getD pc true then closure prog prev next pos fuel work seen list
    else
      let seen := seen.modify pc fun _ => true
      match prog.insts[pc]? with
      | some (.jump x) => closure prog prev next pos fuel ((x, caps) :: work) seen list
      | some (.fork x y) => closure prog prev next pos fuel ((x, caps) :: (y, caps) :: work) seen list
      | some (.save s x) =>
        closure prog prev next pos fuel ((x, caps.modify s fun _ => some pos) :: work) seen list
      | some (.look l x) =>
        if l.holds prev next then closure prog prev next pos fuel ((x, caps) :: work) seen list
        else closure prog prev next pos fuel work seen list
      | some _ => closure prog prev next pos fuel work seen (list.push ⟨pc, caps⟩)
      | none => closure prog prev next pos fuel work seen list

def addThread (prog : Program) (text : Array Char) (pos : Nat) (seen : Array Bool)
    (list : Array Thread) (pc : Nat) (caps : Array (Option Nat)) : Array Bool × Array Thread :=
  let prev := if pos = 0 then none else text[pos - 1]?
  closure prog prev text[pos]? pos (2 * prog.insts.size + 2) [(pc, caps)] seen list

/-- Advance the threads waiting at position `pos` over the character there, in order; a
thread at `accept` records the match and cancels the rest. -/
def advance (prog : Program) (text : Array Char) (pos : Nat) :
    List Thread → Array Bool × Array Thread → Option (Array (Option Nat)) →
      (Array Bool × Array Thread) × Option (Array (Option Nat))
  | [], acc, found => (acc, found)
  | t :: rest, acc, found =>
    match prog.insts[t.pc]? with
    | some .accept => (acc, some t.caps)
    | some (.step s next) =>
      match text[pos]? with
      | some c =>
        if s.mem c then
          advance prog text pos rest (addThread prog text (pos + 1) acc.1 acc.2 next t.caps) found
        else advance prog text pos rest acc found
      | none => advance prog text pos rest acc found
    | _ => advance prog text pos rest acc found

/-- Run from position `pos` with the given threads, at most `fuel` positions on. -/
def scan (prog : Program) (text : Array Char) :
    Nat → Nat → Array Bool × Array Thread → Option (Array (Option Nat)) → Option (Array (Option Nat))
  | 0, _, _, found => found
  | fuel + 1, pos, (seen, list), found =>
    let list :=
      if found.isNone then (addThread prog text pos seen list prog.start (Array.replicate prog.slots none)).2
      else list
    if list.isEmpty && found.isSome then found
    else
      let fresh := Array.replicate prog.insts.size false
      let (next, found) := advance prog text pos list.toList (fresh, #[]) found
      if pos < text.size then scan prog text fuel (pos + 1) next found
      else found

/-- The capture slots of the leftmost-first match that starts at or after position `origin`,
the characters before `origin` still counting for conditions. -/
def Program.search (prog : Program) (text : Array Char) (origin : Nat) : Option (Array (Option Nat)) :=
  scan prog text (text.size + 2 - origin) origin (Array.replicate prog.insts.size false, #[]) none

def wholeMatch (caps : Array (Option Nat)) : Option (Nat × Nat) :=
  match caps[0]?, caps[1]? with
  | some (some s), some (some e) => some (s, e)
  | _, _ => none

/-- The successive matches of a program in a text, as character positions: each search
starts where the last match ended, and an empty match right where the last one ended is
skipped by starting one character further on. At most `fuel` searches are made. -/
def Program.matchesFrom (prog : Program) (text : Array Char) :
    Nat → Nat → Option Nat → List (Nat × Nat)
  | 0, _, _ => []
  | fuel + 1, origin, lastEnd =>
    match (prog.search text origin).bind wholeMatch with
    | none => []
    | some (s, e) =>
      if s == e && lastEnd == some e then
        if origin < text.size then prog.matchesFrom text fuel (origin + 1) lastEnd else []
      else (s, e) :: prog.matchesFrom text fuel e (some e)

/-- Every match of a program in a text, as character positions, empty ones included. -/
def Program.matches (prog : Program) (text : Array Char) : List (Nat × Nat) :=
  prog.matchesFrom text (2 * text.size + 4) 0 none

end Arbor.Regex
