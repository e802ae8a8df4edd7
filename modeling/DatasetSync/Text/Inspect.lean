import DatasetSync.Text.Printable

/-!
# Inspection text

One-line text of nested values, for someone who looks into a running system.  A record names its
fields in order, a list stands in brackets, an optional value is `None` or `Some(..)`, and text is
quoted with everything escaped that does not print.
-/

namespace DatasetSync.Inspect

def hex (number : Nat) : String :=
  String.ofList (Nat.toDigits 16 number)

def character (c : Char) : String :=
  match c with
  | '\x00' => "\\0"
  | '\t' => "\\t"
  | '\n' => "\\n"
  | '\r' => "\\r"
  | '"' => "\\\""
  | '\\' => "\\\\"
  | _ => if Text.prints c then String.singleton c else "\\u\x7b" ++ hex c.toNat ++ "\x7d"

def quoted (text : String) : String :=
  "\"" ++ String.join (text.toList.map character) ++ "\""

def list (items : List String) : String :=
  "[" ++ ", ".intercalate items ++ "]"

def option (item : Option String) : String :=
  match item with
  | none => "None"
  | some text => "Some(" ++ text ++ ")"

def fields (entries : List (String × String)) : String :=
  ", ".intercalate (entries.map fun (name, text) => name ++ ": " ++ text)

def record (name : String) (entries : List (String × String)) : String :=
  name ++ " \x7b " ++ fields entries ++ " \x7d"

def openRecord (name : String) (entries : List (String × String)) : String :=
  name ++ " \x7b " ++ fields entries ++ ", .. \x7d"

end DatasetSync.Inspect
