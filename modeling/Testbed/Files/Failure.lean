import Testbed.Text.Decimal

/-!
# Failures of the operating system

Why the system refuses an operation on files, ports or processes.
-/

namespace Testbed

inductive SystemFailure where
  | notFound
  | alreadyExists
  | notADirectory
  | isADirectory
  /-- The place is in use as a way to others. -/
  | busy
  | nameTooLong
  /-- No path holds the character with code zero. -/
  | zeroInName
  /-- No text handed to a new process holds it either. -/
  | zeroInCommand
  | permissionDenied
  | addressInUse
  /-- A file that was to be read as text is not. -/
  | invalidText
  | other (text : String)
  deriving DecidableEq, Repr

namespace SystemFailure

def coded (text : String) (code : Nat) : String :=
  text ++ " (os error " ++ Text.ofNat code ++ ")"

def message : SystemFailure → String
  | notFound => coded "No such file or directory" 2
  | alreadyExists => coded "File exists" 17
  | notADirectory => coded "Not a directory" 20
  | isADirectory => coded "Is a directory" 21
  | busy => coded "Device or resource busy" 16
  | nameTooLong => coded "File name too long" 36
  | zeroInName => "file name contained an unexpected NUL byte"
  | zeroInCommand => "nul byte found in provided data"
  | permissionDenied => coded "Permission denied" 13
  | addressInUse => coded "Address already in use" 98
  | invalidText => "stream did not contain valid UTF-8"
  | other text => text

end SystemFailure

end Testbed
