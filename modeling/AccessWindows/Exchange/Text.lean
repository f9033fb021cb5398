import AccessWindows.Exchange.Values
import AccessWindows.Json.Write
import AccessWindows.Log.Traced
import AccessWindows.Template.Builtin

/-!
# From text to text

What other programs ask of the library: a schedule as JSON text goes in, and the converted schedule
comes out as JSON text, or else the reason why the text was refused. The conversions come with their
events; `mergeText`, `splitText` and `normalizeText` are their compact results alone.
-/

set_option autoImplicit false

namespace AccessWindows.Exchange

open Json (ReadError Reader Style Writer)
open Log (Traced)

/-- Read a list of selections. -/
def readSelections (text : String) : Except ReadError (List Selection) :=
  (Reader.array Selection.reader).readAll text.toList

/-- Read a list of grants. -/
def readGrants (text : String) : Except ReadError (List Grant) :=
  (Reader.array Grant.reader).readAll text.toList

/-- Write a value as a string. -/
def write (style : Style) (w : Writer) : String := String.ofList (w.text style)

/-- Write a list of selections. -/
def writeSelections (style : Style) (sels : List Selection) : String :=
  write style (.array (sels.map Selection.toJson))

/-- Write a list of grants. -/
def writeGrants (style : Style) (grants : List Grant) : String :=
  write style (.array (grants.map Grant.toJson))

/-- Write a list of templates. -/
def writeTemplates (style : Style) (templates : List Template) : String :=
  write style (.array (templates.map Template.toJson))

/-- Write the layout of the week grid. -/
def weekText (style : Style) : String := write style (.array (weekRows.map Row.toJson))

/-- Selections to grants. -/
def merge (style : Style) (text : String) : Except ReadError (Traced String) := do
  return writeGrants style <$> Log.merge (← readSelections text)

/-- Grants to selections. -/
def split (style : Style) (text : String) : Except ReadError (Traced String) := do
  return writeSelections style <$> Log.split (← readGrants text)

/-- Grants to normal form. -/
def normalize (style : Style) (text : String) : Except ReadError (Traced String) := do
  return writeGrants style <$> Log.normalize (← readGrants text)

/-- Selections to grants, compact and without events. -/
def mergeText (text : String) : Except ReadError String := (merge .compact text).map (·.value)

/-- Grants to selections, compact and without events. -/
def splitText (text : String) : Except ReadError String := (split .compact text).map (·.value)

/-- Grants to normal form, compact and without events. -/
def normalizeText (text : String) : Except ReadError String :=
  (normalize .compact text).map (·.value)

/-- The built-in templates, compact. -/
def builtinText : String := writeTemplates .compact Template.builtins

end AccessWindows.Exchange
