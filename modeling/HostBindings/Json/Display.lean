import HostBindings.Json.Basic
import HostBindings.Number.Shortest
import HostBindings.Text.Quoted

/-!
# Values as text

The text that stands for a JSON value where a text is wanted: a string is its own text; any other
value is written out, with strings inside it displayed between quotation marks.
-/

namespace HostBindings.Json

mutual
/-- A value written out, strings between quotation marks. -/
def display : Json → String
  | .null => "None"
  | .bool value => if value then "True" else "False"
  | .int value => toString value
  | .float value => value.text
  | .string value => Text.display value
  | .array items => "[" ++ ", ".intercalate (displayItems items) ++ "]"
  | .object members => "\x7b" ++ ", ".intercalate (displayMembers members) ++ "\x7d"

/-- The items of an array written out. -/
def displayItems : List Json → List String
  | [] => []
  | item :: rest => display item :: displayItems rest

/-- The members of an object written out. -/
def displayMembers : Members → List String
  | [] => []
  | (key, value) :: rest => (Text.display key ++ ": " ++ display value) :: displayMembers rest
end

/-- The text that stands for a value. -/
def text : Json → String
  | .string value => value
  | value => value.display

@[simp] theorem text_string (value : String) : (Json.string value).text = value := rfl

end HostBindings.Json
