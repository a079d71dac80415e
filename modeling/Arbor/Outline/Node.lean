import Arbor.Outline.Span
/-!
Nodes of an outline.
-/

namespace Arbor.Outline

/-- What a node of a tree stands for. -/
inductive Kind where
  | directory
  | file
  | classDef
  | function
  | property
  | content
  deriving DecidableEq, Repr, Inhabited

namespace Kind

/-- Classes, functions and properties: the kinds made from a header line. -/
def isStructural : Kind → Bool
  | classDef | function | property => true
  | _ => false

/-- Functions and properties. -/
def isCallable : Kind → Bool
  | function | property => true
  | _ => false

/-- The short label of a kind, as outlines print it. -/
def label : Kind → String
  | directory => "dir"
  | file => "file"
  | classDef => "class"
  | function => "def"
  | property => "property"
  | content => "content"

/-- The full name of a kind. -/
def fullName : Kind → String
  | directory => "directory"
  | file => "file"
  | classDef => "class"
  | function => "function"
  | property => "property"
  | content => "content"

end Kind

/-- A node of a file's outline. -/
structure Node where
  kind : Kind
  name : String
  span : Span
  indent : Nat
  children : Array Nat := #[]
  parent : Option Nat
  deriving Repr, Inhabited

end Arbor.Outline
