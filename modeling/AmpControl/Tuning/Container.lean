import AmpControl.Tuning.Reader

/-!
# Revision containers

An image may hold several payloads, one per device revision, behind a table of revision records:

    MDATA  count
    count records of revision id, payload size and twelve reserved bytes
    the payloads, in the order of the records

An image that does not begin with the container tag is a payload by itself. What is wrong with a
container may be gone at the next attempt to load it; what is wrong with a payload is not.
-/

namespace AmpControl.Tuning

/-- Why no payload could be taken out of an image. -/
inductive ContainerError where
  | empty
  | noRevisions
  | revisionNotFound (revision : UInt32)
  | truncated
  deriving DecidableEq, Repr

def ContainerError.message : ContainerError → String
  | empty => "firmware image is empty"
  | noRevisions => "container holds no revisions"
  | revisionNotFound revision => s!"revision {revision} not present in container"
  | truncated => "container truncated"

/-- A record of the revision table. -/
structure Revision where
  id : UInt32
  size : UInt32
  deriving DecidableEq, Repr

namespace Container

def tag : Bytes := [0x4D, 0x44, 0x41, 0x54, 0x41]

def recordLength : Nat := 20

/-- The length of everything in front of the payloads. -/
def tableEnd (records : Nat) : Nat := 9 + recordLength * records

def isContainer (image : Bytes) : Bool := image.take 5 == tag

def readRecord : Read Revision := do
  let id ← Read.word
  let size ← Read.word
  Read.skip 12
  return ⟨id, size⟩

/-- The records of an image. The tag is passed over and not looked at. -/
def revisions (image : Bytes) : Except ContainerError (List Revision) :=
  match (do Read.skip 5; Read.word : Read UInt32) (Reader.start image 0) with
  | .error _ _ => .error .truncated
  | .ok count after =>
      if count = 0 then .error .noRevisions
      else if after.remaining < recordLength * count.toNat then .error .truncated
      else
        match Read.records readRecord count.toNat after with
        | .ok records _ => .ok records
        | .error _ _ => .error .truncated

/-- The payload of a revision among records whose payloads begin at `offset`. -/
def pick (image : Bytes) (revision : UInt32) :
    List Revision → (offset : Nat) → Except ContainerError Bytes
  | [], _ => .error (.revisionNotFound revision)
  | record :: others, offset =>
      let ending := offset + record.size.toNat
      if record.id = revision then
        if ending ≤ image.length then .ok ((image.drop offset).take record.size.toNat)
        else .error .truncated
      else pick image revision others ending

/-- The payload of a revision. An image without a container is the payload of every revision. -/
def select (image : Bytes) (revision : UInt32) : Except ContainerError Bytes :=
  if image.isEmpty then .error .empty
  else if isContainer image then
    match revisions image with
    | .error error => .error error
    | .ok records => pick image revision records (tableEnd records.length)
  else .ok image

def encodeRecord (entry : UInt32 × Bytes) : Bytes :=
  LittleEndian.word entry.1 ++ LittleEndian.count entry.2.length ++ LittleEndian.zeros 12

/-- The image that holds the given payloads under their revision ids. -/
def wrap (entries : List (UInt32 × Bytes)) : Bytes :=
  tag ++ LittleEndian.count entries.length ++ entries.flatMap encodeRecord ++
    entries.flatMap (·.2)

end Container

end AmpControl.Tuning
