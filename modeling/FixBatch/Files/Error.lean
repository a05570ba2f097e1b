import FixBatch.Path

/-!
# FixBatch.Files.Error

What goes wrong with files: a cause, and the operation on a path that it stopped.
-/

namespace FixBatch.Files

/-- Why an operation on files fails. -/
inductive Cause where
  | notFound
  | permissionDenied
  | notADirectory
  | isADirectory
  | nameTooLong
  | tooManyLinks
  | occupied
  | notEmpty
  | invalid
  | noProgram
  | nulInName
  | notText
  | other (text : String)
deriving DecidableEq, Repr

namespace Cause

/-- What a cause says. -/
def text : Cause → String
  | notFound => "No such file or directory"
  | permissionDenied => "Permission denied"
  | notADirectory => "Not a directory"
  | isADirectory => "Is a directory"
  | nameTooLong => "File name too long"
  | tooManyLinks => "Too many levels of symbolic links"
  | occupied => "File exists"
  | notEmpty => "Directory not empty"
  | invalid => "Invalid argument"
  | noProgram => "Exec format error"
  | nulInName => "file name contained an unexpected NUL byte"
  | notText => "stream did not contain valid UTF-8"
  | other text => text

/-- The number of a cause, if it has one. -/
def code? : Cause → Option Nat
  | notFound => some 2
  | noProgram => some 8
  | permissionDenied => some 13
  | occupied => some 17
  | notADirectory => some 20
  | isADirectory => some 21
  | invalid => some 22
  | nameTooLong => some 36
  | notEmpty => some 39
  | tooManyLinks => some 40
  | nulInName | notText | other _ => none

/-- The text of a cause, with its number. -/
def message (c : Cause) : String :=
  c.text ++ (c.code?.map fun n => " (os error " ++ toString n ++ ")").getD ""

end Cause

/-- What is done with a file. -/
inductive Operation where
  | opening
  | reading
  | creating
  | writing
  | removing
deriving DecidableEq, Repr

/-- An operation as a message names it. -/
def Operation.phrase : Operation → String
  | opening => "open file"
  | reading => "read from file"
  | creating => "create file"
  | writing => "write to file"
  | removing => "remove file"

/-- An operation that failed. -/
structure Error where
  operation : Operation
  path : Path
  cause : Cause
deriving DecidableEq, Repr

/-- The text of an error about a file. -/
def Error.message (e : Error) : String :=
  "failed to " ++ e.operation.phrase ++ " `" ++ e.path.text ++ "`: " ++ e.cause.message

end FixBatch.Files
