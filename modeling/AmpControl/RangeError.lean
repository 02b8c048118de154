import AmpControl.Text.Quoted

/-!
# Range errors

A request may name a profile or a control that there is not, or a value that a control does not
have. Such a request is refused before anything is changed.
-/

namespace AmpControl

/-- A place or a value outside of what there is. -/
inductive RangeError where
  | profile (index count : Nat)
  | unknownControl (id : Nat)
  | unknownControlName (name : String)
  | controlValue (name : String) (value : Int)
  deriving DecidableEq, Repr

def RangeError.message : RangeError → String
  | profile index count => s!"profile index {index} out of range (count {count})"
  | unknownControl id => s!"no control with id {id}"
  | unknownControlName name =>
      let quoted := Text.Quoted.quote name
      s!"no control named {quoted}"
  | controlValue name value =>
      let quoted := Text.Quoted.quote name
      s!"value {value} rejected by control {quoted}"

end AmpControl
