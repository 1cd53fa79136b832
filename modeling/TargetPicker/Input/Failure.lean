import TargetPicker.Text.Basic

/-!
# Failures of input and output

A failure has a kind, on which decisions are made, and a text, which is shown.  A `SourceError`
says which named source of lines failed and how: it could not be opened, or it could be opened and
not be read to its end.
-/

namespace TargetPicker

/-- What went wrong.  Only `interrupted` makes a difference to readers. -/
inductive FailureKind where
  | notFound
  | permissionDenied
  | connectionReset
  | brokenPipe
  | wouldBlock
  | timedOut
  /-- The operation was interrupted and can be tried again. -/
  | interrupted
  | unexpectedEndOfFile
  | invalidInput
  | invalidData
  | notADirectory
  | isADirectory
  /-- A name or a whole path is too long. -/
  | invalidFilename
  /-- Symbolic links lead in a circle, or too far. -/
  | filesystemLoop
  | other
  /-- Any kind that is not listed, by its name. -/
  | further (name : Text)
  deriving DecidableEq, Repr, Inhabited

/-- A failed operation. -/
structure Failure where
  kind : FailureKind
  /-- The text by which the failure is shown. -/
  text : Text
  deriving DecidableEq, Repr, Inhabited

/-- Why a named source of lines could not be read. -/
inductive SourceError where
  | opening (identifier : Text) (cause : Failure)
  | reading (identifier : Text) (cause : Failure)
  deriving DecidableEq, Repr, Inhabited

namespace SourceError

/-- The name of the source that failed. -/
def identifier : SourceError → Text
  | opening identifier _ => identifier
  | reading identifier _ => identifier

/-- The failure behind the error. -/
def cause : SourceError → Failure
  | opening _ cause => cause
  | reading _ cause => cause

/-- The error as it is shown. -/
def message : SourceError → Text
  | opening identifier cause =>
    "Error opening the provided filepath '".toList ++ identifier ++ "': ".toList ++ cause.text
  | reading identifier cause =>
    "Error reading '".toList ++ identifier ++ "': ".toList ++ cause.text

end SourceError

end TargetPicker
