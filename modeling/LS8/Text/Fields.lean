namespace LS8

/-!
# Field lists

The diagnostic text of a composite value: its name and, in braces, its fields
with their values. A field list is written on one line or with one indented
line for each field.
-/

/-- A named list of fields with the texts of their values. -/
structure FieldList where
  title : String
  fields : List (String × String)

namespace FieldList

/-- All fields on one line, separated by commas. -/
def inline (list : FieldList) : String :=
  let fields := list.fields.map fun (name, value) => name ++ ": " ++ value
  list.title ++ " \x7b " ++ ", ".intercalate fields ++ " \x7d"

/-- One line for each field, indented by four blanks and ended by a comma. -/
def stacked (list : FieldList) : String :=
  let fields :=
    list.fields.map fun (name, value) =>
      "    " ++ name ++ ": " ++ value ++ ",\n"
  list.title ++ " \x7b\n" ++ String.join fields ++ "\x7d"

end FieldList

/-- Values in brackets, separated by commas. -/
def bracketed (values : List String) : String :=
  "[" ++ ", ".intercalate values ++ "]"

end LS8
