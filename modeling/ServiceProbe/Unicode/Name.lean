import ServiceProbe.Unicode.Age
import ServiceProbe.Unicode.Segmentation

/-! # Sets of characters by name

A set of characters is named by a property, a general category or a script, or by a value of one of
the properties that have values. Case, blanks, hyphens, underscores and what is not ASCII do not
matter in names, nor does `is` in front of them. -/

namespace ServiceProbe.Unicode
set_option autoImplicit false

def isNamePart (c : Char) : Bool := c.toNat < 128 && c != ' ' && c != '_' && c != '-'

def plainName (name : Text) : String := String.ofList ((name.filter isNamePart).map Char.toLower)

/-- The name without what does not matter. With `is` in front the letter `c` keeps it: it names a
property and not a category. -/
def normalName : Text → String
  | i :: s :: rest =>
    if i.toLower == 'i' && s.toLower == 's' then
      let name := plainName rest
      if name = "c" then "isc" else name
    else plainName (i :: s :: rest)
  | name => plainName name

/-- The set that one name stands for. -/
def byName? (name : Text) : Option CodeSet :=
  let name := normalName name
  (property? name).or ((category? name).or (script? name))

/-- The properties with values, each with the sets of its values. -/
def valuesBy? (property : String) : Option (String → Option CodeSet) :=
  if property = "gc" || property = "generalcategory" then some category?
  else if property = "sc" || property = "script" then some script?
  else if property = "scx" || property = "scriptextensions" then some scriptExtension?
  else if property = "age" then some age?
  else if property = "gcb" || property = "graphemeclusterbreak" then
    some (valueBy? GraphemeCluster.values)
  else if property = "wb" || property = "wordbreak" then some (valueBy? Word.values)
  else if property = "sb" || property = "sentencebreak" then some (valueBy? Sentence.values)
  else none

/-- The set of the characters whose property has a value. -/
def byValue? (property value : Text) : Option CodeSet :=
  (valuesBy? (normalName property)).bind fun values => values (normalName value)

end ServiceProbe.Unicode
