/-!
# Errors of the system
-/

namespace Shakedown.Host

/-- Why an operation of the system fails. -/
inductive OsError where
  | noEntry
  | permission
  | alreadyExists
  | notDirectory
  | isDirectory
  | notEmpty
  | execFormat
  | nameTooLong
  | badDescriptor
  | brokenPipe
  | tooManyLinks
  | noChild
  | unreachable
  | noPort
  | badPort
  | unknownHost
  | nulInData
  | nulInPath
  | notUtf8
deriving DecidableEq, Repr

/-- The number and the words of an error. -/
def OsError.parts : OsError → Option Nat × String
  | .noEntry => (some 2, "No such file or directory")
  | .permission => (some 13, "Permission denied")
  | .alreadyExists => (some 17, "File exists")
  | .notDirectory => (some 20, "Not a directory")
  | .isDirectory => (some 21, "Is a directory")
  | .notEmpty => (some 39, "Directory not empty")
  | .execFormat => (some 8, "Exec format error")
  | .nameTooLong => (some 36, "File name too long")
  | .badDescriptor => (some 9, "Bad file descriptor")
  | .brokenPipe => (some 32, "Broken pipe")
  | .tooManyLinks => (some 40, "Too many levels of symbolic links")
  | .noChild => (some 10, "No child processes")
  | .unreachable => (some 101, "Network is unreachable")
  | .noPort => (none, "invalid socket address")
  | .badPort => (none, "invalid port value")
  | .unknownHost => (none, "failed to lookup address information: Name or service not known")
  | .nulInData => (none, "nul byte found in provided data")
  | .nulInPath => (none, "file name contained an unexpected NUL byte")
  | .notUtf8 => (none, "stream did not contain valid UTF-8")

/-- The words of an error without its number. -/
def OsError.words (e : OsError) : String := e.parts.2

/-- An error in words, with its number. -/
def OsError.message (e : OsError) : String :=
  match e.parts with
  | (some n, words) => s!"{words} (os error {n})"
  | (none, words) => words

end Shakedown.Host
