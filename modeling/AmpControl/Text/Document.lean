import AmpControl.Text.Layout

/-!
# Structured documents

A document is a tree of lists and records over texts, numbers, truth values and the empty value.
Reports are written as documents with two columns of indentation per level, and configurations are
read from them. A record is written in the order of its entries.
-/

namespace AmpControl.Text

/-- A structured document. -/
inductive Document where
  | empty
  | truth (value : Bool)
  | integer (value : Int)
  /-- A number with a fraction, whose value nothing here asks for. -/
  | fraction
  | text (value : String)
  | list (items : List Document)
  | record (entries : List (String × Document))
  deriving Inhabited, Repr

namespace Document

/-- The form of one character inside a text: control characters have escapes, all else stands. -/
def escape (character : Char) : String :=
  match character with
  | '"' => "\\\""
  | '\\' => "\\\\"
  | '\n' => "\\n"
  | '\t' => "\\t"
  | '\r' => "\\r"
  | '\x08' => "\\b"
  | '\x0c' => "\\f"
  | other =>
      if other.toNat < 0x20 then
        "\\u" ++ String.ofList ((Nat.toDigits 16 other.toNat).leftpad 4 '0')
      else String.singleton other

def quote (value : String) : String :=
  "\"" ++ String.join (value.toList.map escape) ++ "\""

/-- The line break before an entry at some depth. -/
def lineBreak (depth : Nat) : String := "\n" ++ String.ofList (List.replicate (2 * depth) ' ')

/-- Entries between two brackets, each on a line of its own. -/
def enclose (opening closing : String) (depth : Nat) (entries : List String) : String :=
  if entries.isEmpty then opening ++ closing
  else
    opening ++ ",".intercalate (entries.map fun entry => lineBreak (depth + 1) ++ entry) ++
      lineBreak depth ++ closing

mutual

/-- The lines of a document that stands at some depth. -/
def renderAt (depth : Nat) : Document → String
  | empty => "null"
  | truth value => if value then "true" else "false"
  | integer value => toString value
  | fraction => "0.0"
  | text value => quote value
  | list items => enclose "[" "]" depth (renderItems (depth + 1) items)
  | record entries => enclose "\x7b" "\x7d" depth (renderEntries (depth + 1) entries)

def renderItems (depth : Nat) : List Document → List String
  | [] => []
  | item :: others => renderAt depth item :: renderItems depth others

def renderEntries (depth : Nat) : List (String × Document) → List String
  | [] => []
  | (name, value) :: others =>
      (quote name ++ ": " ++ renderAt depth value) :: renderEntries depth others

end

def render (document : Document) : String := renderAt 0 document

def entry? (entries : List (String × Document)) (name : String) : Option Document :=
  (entries.find? fun entry => entry.1 == name).map (·.2)

end Document

end AmpControl.Text
