import AccessWindows.Json.Reader
import AccessWindows.Json.Skip

/-!
# Records

A record has named fields. In a text it is an object, with its members in any order, each field at
most once, and members of other names left out; or it is an array of the fields in order. A draft
collects the fields as they are read, and is checked for missing ones at the end.
-/

set_option autoImplicit false

namespace AccessWindows.Json

/-- A field of a record that is collected in drafts of type `σ`. -/
structure Field (σ : Type) where
  name : String
  /-- Whether the field may be absent. -/
  optional : Bool
  /-- Whether a draft has the field. -/
  isSet : σ → Bool
  /-- Read the field into a draft. -/
  read : σ → Reader σ

/-- A record of type `α`, collected in drafts of type `σ`. -/
structure Record (σ α : Type) where
  name : String
  blank : σ
  fields : List (Field σ)
  /-- The record of a complete draft, or the first field that is missing. -/
  finish : σ → Except Mismatch α

/-- The value of a field that has to be there. -/
def required {α : Type} (field : String) : Option α → Except Mismatch α
  | some a => .ok a
  | none => .error (.missing field)

namespace Record

variable {σ α : Type}

/-- Whether another member follows in an object. A comma is read, the key and the closing brace are
not. -/
def hasMember (first : Bool) : Reader Bool := do
  match ← Reader.peek with
  | none => throw (.eof .object)
  | some c =>
      if c = '}' then return false
      else if first then
        if c = '"' then return true else throw (.malformed .keyNotString)
      else if c = ',' then
        Reader.advance
        match ← Reader.peek with
        | none => throw (.eof .value)
        | some c =>
            if c = '"' then return true
            else if c = '}' then throw (.malformed .trailingComma)
            else throw (.malformed .keyNotString)
      else throw (.malformed .commaOrBrace)

/-- Read the colon behind a key. -/
def colon : Reader Unit := do
  match ← Reader.peek with
  | none => throw (.eof .object)
  | some c => if c = ':' then Reader.advance else throw (.malformed .colon)

/-- Leave out a value. -/
def skipValue : Reader Unit := fun s => (Skip.value s).map fun rest => ((), rest)

/-- Read the value of a key into a draft, or leave it out if no field has that name. -/
def member (fields : List (Field σ)) (key : List Char) (draft : σ) : Reader σ :=
  match fields.find? fun f => f.name.toList = key with
  | none => do
      colon
      skipValue
      return draft
  | some f => do
      if f.isSet draft then throw (.mismatch (.duplicate f.name))
      colon
      f.read draft

/-- Read members up to the closing brace; `steps` bounds their number. -/
def members (fields : List (Field σ)) : Nat → Bool → σ → Reader σ
  | 0, _, _ => throw (.eof .object)
  | steps + 1, first, draft => do
      if ← hasMember first then
        Reader.advance
        let key ← Reader.lexeme stringRest
        members fields steps false (← member fields key draft)
      else return draft

/-- Read fields in order from an array, of which `index` elements have been read. -/
def positions (r : Record σ α) : Nat → List (Field σ) → σ → Reader σ
  | _, [], draft => return draft
  | index, f :: fs, draft => do
      if ← Reader.hasElement (index = 0) then
        positions r (index + 1) fs (← f.read draft)
      else if f.optional then positions r (index + 1) fs draft
      else throw (.mismatch (.length index r.name r.fields.length))

/-- The record of a draft. -/
def complete (r : Record σ α) (draft : σ) : Reader α :=
  match r.finish draft with
  | .ok a => return a
  | .error m => throw (.mismatch m)

/-- Read a record, in either form. -/
def read (r : Record σ α) : Reader α := do
  let c ← Reader.start
  if c = '[' then
    Reader.advance
    let draft ← r.positions 0 r.fields r.blank
    Reader.closeList
    r.complete draft
  else if c = '{' then
    Reader.advance
    let draft ← members r.fields ((← get).length + 1) true r.blank
    let a ← r.complete draft
    Reader.advance
    return a
  else Reader.unexpected (.record r.name)

end Record

end AccessWindows.Json
