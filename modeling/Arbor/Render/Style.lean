/-!
How results are shown: a colour scheme and whether line numbers appear.
-/

namespace Arbor.Render

/-- The two ways of painting results. -/
inductive Scheme where
  | dark
  | noColor
  deriving DecidableEq, Repr, Inhabited

/-- How to show results. -/
structure Style where
  scheme : Scheme := .dark
  lineNumbers : Bool := true
  ansi : Bool := true
  deriving DecidableEq, Repr, Inhabited

/-- Dark colours with line numbers: the default. -/
def Style.dark : Style := {}

def Style.plain : Style := { scheme := .noColor }

def resetCode : String := "\x1b[0m"

/-- A text wrapped in the ANSI escape sequence with the given parameters and a reset, when
escape sequences are on. A reset inside the text is followed by the sequence again, so the
paint holds over the whole text. -/
def paint (on : Bool) (params : String) (s : String) : String :=
  let code := "\x1b[" ++ params ++ "m"
  if on then code ++ (resetCode ++ code).intercalate (s.splitOn resetCode) ++ resetCode else s

def cyan (on : Bool) (s : String) : String := paint on "36" s
def dimmed (on : Bool) (s : String) : String := paint on "2" s
def blue (on : Bool) (s : String) : String := paint on "34" s
def green (on : Bool) (s : String) : String := paint on "32" s
def yellow (on : Bool) (s : String) : String := paint on "33" s
def bold (on : Bool) (s : String) : String := paint on "1" s
def italic (on : Bool) (s : String) : String := paint on "3" s
def highlighted (on : Bool) (s : String) : String := paint on "107;30" s
def struck (on : Bool) (s : String) : String := paint on "9;31" s
def red (on : Bool) (s : String) : String := paint on "31" s

end Arbor.Render
