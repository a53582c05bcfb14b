/-!
# Faults reported by the operating system

A fault is known by its number; its class and its text belong to the number.
-/

namespace RadioGateway.Link

/-- A fault with the number that the operating system gave for it. -/
structure OsFault where
  number : Nat
  deriving DecidableEq, Repr

namespace OsFault

def notFound : OsFault := ⟨2⟩

def notADirectory : OsFault := ⟨20⟩

def isADirectory : OsFault := ⟨21⟩

def nameTooLong : OsFault := ⟨36⟩

def kind (fault : OsFault) : String :=
  match fault.number with
  | 1 => "permission denied"
  | 2 => "entity not found"
  | 4 => "operation interrupted"
  | 5 => "input/output error"
  | 11 => "operation would block"
  | 13 => "permission denied"
  | 16 => "resource busy"
  | 20 => "not a directory"
  | 21 => "is a directory"
  | 22 => "invalid input parameter"
  | 32 => "broken pipe"
  | 36 => "invalid filename"
  | 104 => "connection reset"
  | 110 => "timed out"
  | _ => "uncategorized error"

def description (fault : OsFault) : String :=
  match fault.number with
  | 1 => "Operation not permitted"
  | 2 => "No such file or directory"
  | 4 => "Interrupted system call"
  | 5 => "Input/output error"
  | 6 => "No such device or address"
  | 9 => "Bad file descriptor"
  | 11 => "Resource temporarily unavailable"
  | 13 => "Permission denied"
  | 16 => "Device or resource busy"
  | 19 => "No such device"
  | 20 => "Not a directory"
  | 21 => "Is a directory"
  | 22 => "Invalid argument"
  | 32 => "Broken pipe"
  | 36 => "File name too long"
  | 104 => "Connection reset by peer"
  | 110 => "Connection timed out"
  | number => "Unknown error " ++ toString number

def message (fault : OsFault) : String :=
  fault.description ++ " (os error " ++ toString fault.number ++ ")"

end OsFault

end RadioGateway.Link
