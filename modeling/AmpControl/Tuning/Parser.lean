import AmpControl.Tuning.Payload

/-!
# Parsers

A parser reads one payload after the other. It counts the sections that it reads, and when a payload
is refused the count stays: it says how far reading got.
-/

namespace AmpControl.Tuning

/-- What a parser keeps: how many sections of the last payload were read. -/
structure Parser where
  sections : Nat
  deriving DecidableEq, Repr

namespace Parser

def new : Parser := ⟨0⟩

/-- Sets the count. -/
def count {ε : Type} (sections : Nat) : EStateM ε Parser Unit :=
  modify fun parser => { parser with sections }

/-- Counts one more section. -/
def countOne {ε : Type} : EStateM ε Parser Unit := do
  count ((← get).sections + 1)

/-- The header with which the sections of a payload begin. -/
def readHeader (bytes : Bytes) : Walk → EStateM FormatError Parser Header
  | ⟨[], some error⟩ =>
      throw (if bytes.take 5 == Kind.header.tag then error else .missingHeader)
  | ⟨[], none⟩ => throw .missingHeader
  | ⟨first :: _, _⟩ =>
      if first.kind = .header then
        match Header.read first.reader with
        | .error error _ => throw error
        | .ok header _ => do
            count 1
            return header
      else throw .missingHeader

/-- Adds sections one by one. A section counts once it has been added. -/
def addAll (declared : Nat) : Assembly → List Section → EStateM FormatError Parser Assembly
  | assembly, [] => return assembly
  | assembly, part :: others => do
      let grown ← MonadExcept.ofExcept (assembly.add declared part)
      countOne
      addAll declared grown others

def parse (bytes : Bytes) : EStateM FormatError Parser Payload := do
  count 0
  let walk := Walk.ofBytes bytes
  let header ← readHeader bytes walk
  let assembly ← addAll header.channels.length Assembly.empty walk.sections.tail
  match walk.stopped with
  | some error => throw error
  | none => MonadExcept.ofExcept (assembly.finish bytes header)

/-- Takes the payload of a revision out of an image and parses it. -/
def parseImage (image : Bytes) (revision : UInt32) : EStateM ImageError Parser Payload := do
  count 0
  let bytes ← MonadExcept.ofExcept ((Container.select image revision).mapError .container)
  EStateM.adaptExcept .format (parse bytes)

end Parser

end AmpControl.Tuning
