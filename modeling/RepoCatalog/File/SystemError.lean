import RepoCatalog.Text.Quoted

/-!
# System errors

Errors reported by the operating system, with the file or program they are about.
-/

namespace RepoCatalog

/-- An error of the operating system. -/
structure SystemError where
  /-- Number of the error. -/
  code : Int
  /-- Words for the error. -/
  reason : String
  /-- File or program it is about. -/
  subject : Option String
  deriving DecidableEq, Repr

namespace SystemError

/-- Text of an error. -/
def message (error : SystemError) : String :=
  let start := "[Errno " ++ toString error.code ++ "] " ++ error.reason
  match error.subject with
  | some subject => start ++ ": " ++ Text.quoted subject
  | none => start

end SystemError

/-- Errors that files and programs give rise to. -/
inductive FileFault
  | notPermitted
  | noEntry
  | noDevice
  | tooManyArguments
  | execFormat
  | badDescriptor
  | accessDenied
  | entryExists
  | notDirectory
  | isDirectory
  | noSpace
  | nameTooLong
  | notEmpty
  | tooManyLinks
  | other (code : Int) (reason : String)
  deriving DecidableEq, Repr

namespace FileFault

/-- Number of a fault. -/
def code : FileFault → Int
  | notPermitted => 1
  | noEntry => 2
  | noDevice => 6
  | tooManyArguments => 7
  | execFormat => 8
  | badDescriptor => 9
  | accessDenied => 13
  | entryExists => 17
  | notDirectory => 20
  | isDirectory => 21
  | noSpace => 28
  | nameTooLong => 36
  | notEmpty => 39
  | tooManyLinks => 40
  | other code _ => code

/-- Words for a fault. -/
def reason : FileFault → String
  | notPermitted => "Operation not permitted"
  | noEntry => "No such file or directory"
  | noDevice => "No such device or address"
  | tooManyArguments => "Argument list too long"
  | execFormat => "Exec format error"
  | badDescriptor => "Bad file descriptor"
  | accessDenied => "Permission denied"
  | entryExists => "File exists"
  | notDirectory => "Not a directory"
  | isDirectory => "Is a directory"
  | noSpace => "No space left on device"
  | nameTooLong => "File name too long"
  | notEmpty => "Directory not empty"
  | tooManyLinks => "Too many levels of symbolic links"
  | other _ reason => reason

/-- The error a fault is reported as, with the path that was used. -/
def about (fault : FileFault) (subject : String) : SystemError :=
  ⟨fault.code, fault.reason, some subject⟩

/-- The error a fault is reported as where a file is used that was opened before. -/
def bare (fault : FileFault) : SystemError :=
  ⟨fault.code, fault.reason, none⟩

/-- Whether a file that cannot be inspected for this reason counts as missing. -/
def meansMissing : FileFault → Bool
  | noEntry => true
  | notDirectory => true
  | tooManyLinks => true
  | _ => false

end FileFault

end RepoCatalog
