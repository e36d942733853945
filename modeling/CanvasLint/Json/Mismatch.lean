import CanvasLint.Json.Value
import CanvasLint.Text.Quote

/-!
How a value can fail to be what is expected of it, and the words for it. The words name what was
found, with its value where that is short, and what was expected.
-/
namespace CanvasLint.Json

/-- What a complaint tells of a value: lists and objects by their kind only. -/
inductive Found where
  | null
  | bool (b : Bool)
  | number (n : Number)
  | string (s : String)
  | list
  | object
deriving DecidableEq

def Value.found : Value → Found
  | .null => .null
  | .bool b => .bool b
  | .number n => .number n
  | .string s => .string s
  | .array _ => .list
  | .object _ => .object

def Found.text : Found → String
  | null => "null"
  | bool b => if b then "boolean `true`" else "boolean `false`"
  | number (.natural n) => s!"integer `{n}`"
  | number (.negative n) => s!"integer `-{n}`"
  | number (.real x) => "floating point `" ++ (Number.json? x).getD "null" ++ "`"
  | string s => "string " ++ Text.quote s
  | list => "sequence"
  | object => "map"

/-- What a value should have been. A record is also accepted as the list of its fields. -/
inductive Expected where
  | text
  | number
  | boolean
  | list
  | record (title : String)
  | fields (title : String) (count : Nat)
  | fewerElements
  | nothing
  | variantName
  | variant
  | singleMember
deriving DecidableEq

def Expected.phrase : Expected → String
  | text => "a string"
  | number => "f64"
  | boolean => "a boolean"
  | list => "a sequence"
  | record title => "struct " ++ title
  | fields title count =>
    s!"struct {title} with {count} element" ++ (if count = 1 then "" else "s")
  | fewerElements => "fewer elements in array"
  | nothing => "unit"
  | variantName => "variant identifier"
  | variant => "string or map"
  | singleMember => "map with a single key"

/-- The ways in which a value does not fit. -/
inductive Mismatch where
  | wrongType (found : Found) (expected : Expected)
  | wrongValue (found : Found) (expected : Expected)
  | wrongLength (length : Nat) (expected : Expected)
  | unknownName (name : String) (known : List String)
  | missingField (name : String)
  | duplicateField (name : String)
  | noAlternative (title : String)
deriving DecidableEq

/-- Names in back quotes, as a choice. -/
def choice (names : List String) : String :=
  match names with
  | [] => "there are no variants"
  | [a] => s!"expected `{a}`"
  | [a, b] => s!"expected `{a}` or `{b}`"
  | many => "expected one of " ++ ", ".intercalate (many.map fun name => s!"`{name}`")

def Mismatch.message : Mismatch → String
  | wrongType found expected => s!"invalid type: {found.text}, expected {expected.phrase}"
  | wrongValue found expected => s!"invalid value: {found.text}, expected {expected.phrase}"
  | wrongLength length expected => s!"invalid length {length}, expected {expected.phrase}"
  | unknownName name known => s!"unknown variant `{name}`, {choice known}"
  | missingField name => s!"missing field `{name}`"
  | duplicateField name => s!"duplicate field `{name}`"
  | noAlternative title => s!"data did not match any variant of untagged enum {title}"

end CanvasLint.Json
