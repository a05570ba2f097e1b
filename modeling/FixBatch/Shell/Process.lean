/-!
# FixBatch.Shell.Process

How processes end, and the signals that end them.
-/

namespace FixBatch.Shell

/-- A signal that ends a process. -/
structure Signal where
  number : Nat
  name : String
deriving DecidableEq, Repr

namespace Signal

def terminate : Signal := ⟨15, "TERM"⟩

/-- The signals that end a process which does nothing about them. -/
def known : List Signal :=
  [⟨1, "HUP"⟩, ⟨2, "INT"⟩, ⟨3, "QUIT"⟩, ⟨4, "ILL"⟩, ⟨5, "TRAP"⟩, ⟨6, "ABRT"⟩, ⟨7, "BUS"⟩,
    ⟨8, "FPE"⟩, ⟨9, "KILL"⟩, ⟨10, "USR1"⟩, ⟨11, "SEGV"⟩, ⟨12, "USR2"⟩, ⟨13, "PIPE"⟩,
    ⟨14, "ALRM"⟩, terminate]

def segmentation : Signal := ⟨11, "SEGV"⟩

/-- The signal of a number. -/
def ofNumber? (n : Nat) : Option Signal := known.find? fun signal => signal.number == n

/-- The signal of a name, with or without the letters that all names start with. -/
def ofName? (name : String) : Option Signal :=
  let name := name.map Char.toUpper
  known.find? fun signal => signal.name == name || "SIG" ++ signal.name == name

/-- What is said of a process that a signal has ended. -/
def report (signal : Signal) : Option String :=
  List.lookup signal.name
    [("HUP", "Hangup"), ("QUIT", "Quit"), ("ILL", "Illegal instruction"),
      ("TRAP", "Trace/breakpoint trap"), ("ABRT", "Aborted"), ("BUS", "Bus error"),
      ("FPE", "Floating point exception"), ("KILL", "Killed"), ("USR1", "User defined signal 1"),
      ("SEGV", "Segmentation fault"), ("USR2", "User defined signal 2"), ("ALRM", "Alarm clock"),
      ("TERM", "Terminated")]

end Signal

/-- How a process ended. -/
inductive Ending where
  | exited (status : UInt8)
  | killed (signal : Signal)
deriving DecidableEq, Repr

/-- The end of a process that left a status. -/
def Ending.ofStatus (status : Nat) : Ending := .exited status.toUInt8

/-- How a process ended, in words. -/
def Ending.text : Ending → String
  | exited status => "exit status: " ++ toString status.toNat
  | killed signal => "signal: " ++ toString signal.number ++ " (SIG" ++ signal.name ++ ")"

end FixBatch.Shell
