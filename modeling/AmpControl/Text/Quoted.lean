import AmpControl.Text.Hidden

/-!
# Quoted names

Messages show a name between quotation marks. A mark, a backslash and every character that has no
mark of its own on paper is written as an escape, so that two different names never look alike.
-/

namespace AmpControl.Text.Quoted

/-- The form of one character inside a quoted name. -/
def escape (character : Char) : String :=
  match character with
  | '"' => "\\\""
  | '\\' => "\\\\"
  | '\n' => "\\n"
  | '\t' => "\\t"
  | '\r' => "\\r"
  | '\x00' => "\\0"
  | other =>
      if isHidden other then
        "\\u\x7b" ++ String.ofList (Nat.toDigits 16 other.toNat) ++ "\x7d"
      else String.singleton other

def quote (name : String) : String :=
  "\"" ++ String.join (name.toList.map escape) ++ "\""

end AmpControl.Text.Quoted
