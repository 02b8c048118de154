import AmpControl.Bytes

/-!
# Section kinds

A tuning payload is a row of tagged sections. Eight kinds exist. The header, the controls and the
algorithm parameters occur once for the whole payload; the others belong to one channel each.
-/

namespace AmpControl.Tuning

/-- What a section holds. -/
inductive Kind where
  | header
  | initialisation
  | audioInterface
  | profiles
  | interrupts
  | power
  | controls
  | algorithm
  deriving DecidableEq, Repr

namespace Kind

/-- Every kind, in the order in which an authored payload holds them. -/
def all : List Kind :=
  [header, initialisation, audioInterface, profiles, interrupts, power, controls, algorithm]

def label : Kind → String
  | header => "HEADR"
  | initialisation => "INITP"
  | audioInterface => "HWPRM"
  | profiles => "PROFP"
  | interrupts => "INTRP"
  | power => "BLKOP"
  | controls => "KCNTR"
  | algorithm => "ALGOP"

/-- The five bytes in front of a section: the letters of its label. -/
def tag : Kind → Bytes
  | header => [0x48, 0x45, 0x41, 0x44, 0x52]
  | initialisation => [0x49, 0x4E, 0x49, 0x54, 0x50]
  | audioInterface => [0x48, 0x57, 0x50, 0x52, 0x4D]
  | profiles => [0x50, 0x52, 0x4F, 0x46, 0x50]
  | interrupts => [0x49, 0x4E, 0x54, 0x52, 0x50]
  | power => [0x42, 0x4C, 0x4B, 0x4F, 0x50]
  | controls => [0x4B, 0x43, 0x4E, 0x54, 0x52]
  | algorithm => [0x41, 0x4C, 0x47, 0x4F, 0x50]

def ofTag? (bytes : Bytes) : Option Kind := all.find? fun kind => kind.tag == bytes

/-- Kinds that occur once per payload and not once per channel. -/
def isGlobal : Kind → Bool
  | header | controls | algorithm => true
  | initialisation | audioInterface | profiles | interrupts | power => false

@[simp] theorem length_tag (kind : Kind) : kind.tag.length = 5 := by cases kind <;> rfl

@[simp] theorem ofTag?_tag (kind : Kind) : ofTag? kind.tag = some kind := by cases kind <;> rfl

theorem tag_of_ofTag? {bytes : Bytes} {kind : Kind} (found : ofTag? bytes = some kind) :
    kind.tag = bytes := by
  simpa using List.find?_some found

end Kind

end AmpControl.Tuning
