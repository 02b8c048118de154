import AmpControl.Bytes

/-!
# Firmware provision

A source is asked for an image by name and answers at once, from a queue of prepared answers and,
when that is empty, with its fallback. An answer without an image says that there is none. Answers
are handed over through a completion, which holds the latest one until somebody takes it.
-/

namespace AmpControl

/-- A source of images. -/
structure FirmwareSource where
  /-- The answers to the next requests. -/
  queued : List (Option Bytes)
  /-- The answer to every request after those. -/
  fallback : Option Bytes
  /-- The names that were asked for, the latest first. -/
  requests : List String
  deriving DecidableEq, Repr

namespace FirmwareSource

/-- The source that always answers with `image`. -/
def new (image : Option Bytes) : FirmwareSource := ⟨[], image, []⟩

def push (answer : Option Bytes) (source : FirmwareSource) : FirmwareSource :=
  { source with queued := source.queued ++ [answer] }

def request (name : String) (source : FirmwareSource) : FirmwareSource × Option Bytes :=
  match source.queued with
  | answer :: others =>
      ({ source with queued := others, requests := name :: source.requests }, answer)
  | [] => ({ source with requests := name :: source.requests }, source.fallback)

/-- The names that were asked for, oldest first. -/
def requestedNames (source : FirmwareSource) : List String := source.requests.reverse

end FirmwareSource

/-- The latest answer that nobody took yet. -/
structure Completion where
  answer : Option (Option Bytes)
  deriving DecidableEq, Repr

namespace Completion

def pending : Completion := ⟨none⟩

/-- Hands an answer over, in place of one that nobody took. -/
def complete (answer : Option Bytes) : Completion := ⟨some answer⟩

def isComplete (completion : Completion) : Bool := completion.answer.isSome

end Completion

end AmpControl
