import AccessWindows.Decimal.Binary64
import AccessWindows.Fault
import AccessWindows.Text.Quoted

/-!
# Why a JSON text is refused

There are three ways to fail: the text ends too early, it is not JSON, or it is JSON of another
shape than wanted. Reading goes through the text once, and what is wrong first is what is reported.
-/

set_option autoImplicit false

namespace AccessWindows.Json

/-- What was unfinished where the text ended. -/
inductive Unfinished where
  | value
  | list
  | object
  | string
deriving DecidableEq, Repr

/-- What makes a text no JSON. -/
inductive Malformation where
  /-- After an element there is neither a comma nor a closing bracket. -/
  | commaOrBracket
  /-- After a member there is neither a comma nor a closing brace. -/
  | commaOrBrace
  /-- After a key there is no colon. -/
  | colon
  /-- A word begins like `null`, `true` or `false` and goes on differently. -/
  | keyword
  /-- No value begins with this character. -/
  | value
  /-- A comma is followed by the closing bracket or brace. -/
  | trailingComma
  /-- Something follows the value, or the last element that is wanted. -/
  | trailingText
  /-- A member does not begin with a string. -/
  | keyNotString
  /-- A number is not written as a number. -/
  | number
  /-- A number is beyond the greatest floating-point number. -/
  | numberTooLarge
  /-- A backslash is followed by something unknown. -/
  | escape
  /-- A trailing surrogate stands alone, or a leading one is followed by another escape. -/
  | lonelySurrogate
  /-- A leading surrogate is not followed by an escape. -/
  | unpairedSurrogate
  /-- A control character stands in a string. -/
  | controlCharacter
deriving DecidableEq, Repr

/-- What stands in the text where something else was wanted. -/
inductive Found where
  | null
  | boolean (b : Bool)
  | integer (n : Int)
  | floating (negative : Bool) (magnitude : Binary64)
  | string (s : List Char)
  | sequence
  | map
deriving DecidableEq

/-- What was wanted. -/
inductive Expected where
  /-- A whole number from 0 through 255. -/
  | byte
  | string
  | sequence
  /-- A record of this name, as an object or as an array. -/
  | record (name : String)
  /-- The name of a category. -/
  | variant
  /-- `null`, behind the name of a category. -/
  | unit
deriving DecidableEq

/-- What makes a JSON value one of another shape than wanted. -/
inductive Mismatch where
  /-- The value is of another kind. -/
  | kind (found : Found) (expected : Expected)
  /-- The value is of the right kind, but out of bounds. -/
  | bounds (found : Found) (expected : Expected)
  /-- The array form of a record has too few elements. -/
  | length (count : Nat) (record : String) (size : Nat)
  /-- The object form of a record lacks a field. -/
  | missing (field : String)
  /-- The object form of a record has a field twice. -/
  | duplicate (field : String)
  /-- No category has this name. -/
  | unknownVariant (text : String) (known : List String)
  /-- The library has no such value. -/
  | refused (fault : Fault)
deriving DecidableEq

/-- Why a JSON text is refused. -/
inductive ReadError where
  | eof (unfinished : Unfinished)
  | malformed (cause : Malformation)
  | mismatch (cause : Mismatch)
deriving DecidableEq

/-- The message about an unfinished text. -/
def Unfinished.message : Unfinished → String
  | value => "EOF while parsing a value"
  | list => "EOF while parsing a list"
  | object => "EOF while parsing an object"
  | string => "EOF while parsing a string"

/-- The message about a text that is no JSON. -/
def Malformation.message : Malformation → String
  | commaOrBracket => "expected `,` or `]`"
  | commaOrBrace => "expected `,` or `\x7d`"
  | colon => "expected `:`"
  | keyword => "expected ident"
  | value => "expected value"
  | trailingComma => "trailing comma"
  | trailingText => "trailing characters"
  | keyNotString => "key must be a string"
  | number => "invalid number"
  | numberTooLarge => "number out of range"
  | escape => "invalid escape"
  | lonelySurrogate => "lone leading surrogate in hex escape"
  | unpairedSurrogate => "unexpected end of hex escape"
  | controlCharacter => "control character (\\u0000-\\u001F) found while parsing a string"

/-- Text between backticks. -/
def ticked (s : String) : String := "`" ++ s ++ "`"

/-- Floating-point numbers in messages: an exponent is written for sizes below 0.00001 and from
10000000000000000 on. -/
def messageFormat : DecimalFormat := ⟨-5, 15⟩

/-- How a value is named in messages. -/
def Found.text : Found → String
  | null => "null"
  | boolean b => "boolean " ++ ticked (if b then "true" else "false")
  | integer n => "integer " ++ ticked (toString n)
  | floating negative x =>
      let sign := if negative then ['-'] else []
      "floating point " ++ ticked (String.ofList (sign ++ messageFormat.text x.shortest))
  | string s => "string " ++ String.ofList (Quoted.text s)
  | sequence => "sequence"
  | map => "map"

/-- How a wanted value is named in messages. -/
def Expected.text : Expected → String
  | byte => "u8"
  | string => "a string"
  | sequence => "a sequence"
  | record name => "struct " ++ name
  | variant => "variant identifier"
  | unit => "unit"

/-- The message about a value of another shape than wanted. -/
def Mismatch.message : Mismatch → String
  | kind found expected => "invalid type: " ++ found.text ++ ", expected " ++ expected.text
  | bounds found expected => "invalid value: " ++ found.text ++ ", expected " ++ expected.text
  | length count record size =>
      "invalid length " ++ toString count ++ ", expected struct " ++ record ++ " with " ++
        toString size ++ " elements"
  | missing field => "missing field " ++ ticked field
  | duplicate field => "duplicate field " ++ ticked field
  | unknownVariant text known =>
      "unknown variant " ++ ticked text ++ ", expected one of " ++
        String.intercalate ", " (known.map ticked)
  | refused fault => fault.message

namespace ReadError

/-- What is wrong with the text. -/
def message : ReadError → String
  | eof unfinished => unfinished.message
  | malformed cause => cause.message
  | mismatch cause => cause.message

/-- The message under the heading of JSON. -/
def report (e : ReadError) : String := "Malformed JSON: " ++ e.message

end ReadError

end AccessWindows.Json
