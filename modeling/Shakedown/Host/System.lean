import Shakedown.Host.Files

/-!
# The files of the system

The directories and programs that every host has. Only the system may change them, apart from the
directory for temporary files.
-/

namespace Shakedown.Host

/-- The names of the programs of the system. -/
def systemPrograms : List String :=
  ["[", "basename", "cat", "chmod", "cmp", "cp", "cut", "dash", "date", "dirname", "echo", "env", "expr",
    "false", "fold", "grep", "head", "id", "kill", "ls", "mkdir", "mv", "nice", "nl", "nohup", "paste", "printenv",
    "printf", "pwd", "realpath", "rev", "rm", "rmdir", "script", "sed", "seq", "setsid", "sh", "sleep", "sort",
    "stdbuf", "tac", "tail", "tee", "test", "touch", "tr", "true", "uname", "uniq", "wc", "which", "whoami",
    "xargs", "yes"]

/-- The directories that hold them. -/
def programDirectories : List String := ["/usr/bin", "/bin"]

/-- The search path of the system. -/
def systemPath : String := "/usr/local/sbin:/usr/local/bin:/usr/sbin:/usr/bin:/sbin:/bin"

/-- Directories without entries that every host has. -/
def systemDirectories : List String :=
  ["/usr/local/sbin", "/usr/local/bin", "/usr/sbin", "/sbin", "/etc", "/home", "/root", "/srv", "/opt",
    "/proc", "/var/tmp", "/usr/lib", "/dev"]

/-- A tree with an operation applied, or as it was if that fails. -/
def Files.attempt (f : Files) (op : Files → Except OsError Files) : Files :=
  match op f with
  | .ok changed => changed
  | .error _ => f

/-- The tree with programs in a directory. -/
def Files.addPrograms (f : Files) (dir : String) : Files :=
  match f.find [0] dir with
  | .ok place => systemPrograms.foldl (fun f name => (f.addEntry (place.headD 0) name ⟨.program name, 0o555⟩).1) f
  | .error _ => f

/-- The tree with a device. -/
def Files.addDevice (f : Files) (name : String) : Files :=
  match f.find [0] "/dev" with
  | .ok place => (f.addEntry (place.headD 0) name ⟨.null, 0o666⟩).1
  | .error _ => f

/-- The number of the first process, which is a runner. -/
def firstNumber : Nat := 4000

/-- The home directory of the user's account. -/
def accountHome : String := "/root"

/-- The name of the program that a runner runs. -/
def runnerProgram : String := "smoke"

/-- The tree with the program of a runner told below `/proc`. -/
def Files.addRunner (f : Files) (number : Nat) : Files :=
  let dir := s!"/proc/{number}"
  let f := f.attempt fun f => f.makeDirectories [0] dir 0o555
  match f.find [0] dir with
  | .ok place => (f.addEntry (place.headD 0) "exe" ⟨.program runnerProgram, 0o755⟩).1
  | .error _ => f

/-- The files of the system. -/
def systemFiles : Files :=
  let dirs := (programDirectories ++ systemDirectories).foldl
    (fun f d => f.attempt fun f => f.makeDirectories [0] d 0o555) Files.empty
  let tmp := dirs.attempt fun f => f.makeDirectories [0] "/tmp" 0o555
  let open_ := tmp.attempt fun f => f.setMode [0] "/tmp" 0o777
  ((programDirectories.foldl Files.addPrograms open_).addDevice "null").addRunner firstNumber

end Shakedown.Host
