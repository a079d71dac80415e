import Arbor.Regex.CharSet
import Arbor.Text.Category
import Arbor.Text.Script
import Arbor.Text.ScriptExtension
import Arbor.Text.Property
import Arbor.Text.Age
import Arbor.Text.Boundary
import Arbor.Text.PropertyName
/-!
Unicode classes named in patterns: `\p{Greek}`, `\pL`, `\p{gc=Lu}`, `\p{scx:Hira}`, `\p{age=6.0}`.
-/

namespace Arbor.Regex

open Arbor.Text

def propertyKey (name : String) : String :=
  let cs := name.toList
  let prefixed := match cs with
    | a :: b :: _ => (a == 'i' || a == 'I') && (b == 's' || b == 'S')
    | _ => false
  let body := if prefixed then cs.drop 2 else cs
  let kept := (body.filter fun c => c != ' ' && c != '_' && c != '-' && c.toNat < 0x80).map Char.toLower
  if prefixed && kept == ['c'] then "isc" else String.ofList kept

def ofRangeText (text : List String) : CharSet := .table (rangesOfText text)

def tableClass? (table : RangeTable) (name : String) : Option CharSet :=
  (lookupName? table name).map ofRangeText

def canonicalProperty? (key : String) : Option String := lookupName? propertyNames key

/-- The canonical name of a value of a property, by the property's canonical name and the
value's reduced name. -/
def canonicalValue? (property key : String) : Option String :=
  (lookupName? propertyValueNames property).bind (lookupName? · key)

/-- The canonical name of a general category, by reduced name; besides the categories of the
character database, `any`, `assigned` and `ascii` name every character, every character some
category other than Unassigned holds, and the first 128. -/
def canonicalCategory? (key : String) : Option String :=
  match key with
  | "any" => some "Any"
  | "assigned" => some "Assigned"
  | "ascii" => some "ASCII"
  | _ => canonicalValue? "General_Category" key

def categoryClass? (name : String) : Option CharSet :=
  match name with
  | "ASCII" => some (.range 0 0x7F)
  | "Any" => some CharSet.any
  | "Assigned" => (tableClass? categoryTable "Unassigned").map .compl
  | _ => tableClass? categoryTable name

/-- The characters of an age, by canonical name: those of its version and of every version
before it. -/
def ageClass? (name : String) : Option CharSet :=
  match ageTable.findIdx? (·.1 == name) with
  | some i =>
    match (ageTable.take (i + 1)).map (ofRangeText ·.2) with
    | [] => none
    | s :: rest => some (rest.foldl .union s)
  | none => none

/-- The characters a single name gives. -/
def namedClass? (name : String) : Option CharSet :=
  let key := propertyKey name
  let property := if key == "cf" || key == "sc" || key == "lc" then none else canonicalProperty? key
  match property with
  | some p => tableClass? binaryPropertyTable p
  | none =>
    match canonicalCategory? key with
    | some c => categoryClass? c
    | none => (canonicalValue? "Script" key).bind (tableClass? scriptTable)

/-- The characters a name with a value gives. -/
def valueClass? (name value : String) : Option CharSet :=
  let v := propertyKey value
  match canonicalProperty? (propertyKey name) with
  | some "General_Category" => (canonicalCategory? v).bind categoryClass?
  | some "Script" => (canonicalValue? "Script" v).bind (tableClass? scriptTable)
  | some p =>
    (canonicalValue? p v).bind fun value =>
      match p with
      | "Age" => ageClass? value
      | "Script_Extensions" => tableClass? scriptExtensionTable value
      | "Grapheme_Cluster_Break" => tableClass? graphemeBreakTable value
      | "Word_Break" => tableClass? wordBreakTable value
      | "Sentence_Break" => tableClass? sentenceBreakTable value
      | _ => none
  | none => none

end Arbor.Regex
