import Testbed.Files

/-!
# An ordinary machine

What a process finds on a machine before it has made any files: the usual directories, some files
that are no programs, and the commands, which are.
-/

namespace Testbed.Rehearsal.Machine

def directories : List String :=
  ["/bin", "/boot", "/dev", "/etc", "/home", "/lib", "/media", "/mnt", "/opt", "/proc", "/root",
    "/run", "/sbin", "/srv", "/sys", "/tmp", "/usr", "/usr/bin", "/usr/lib", "/usr/local",
    "/usr/local/bin", "/usr/sbin", "/usr/share", "/var", "/var/log", "/var/tmp", "/work"]

def documents : List String :=
  ["/dev/full", "/dev/null", "/dev/random", "/dev/urandom", "/dev/zero", "/etc/group",
    "/etc/hostname", "/etc/hosts", "/etc/passwd"]

def commands : List String := ["cat", "date", "echo", "env", "false", "ls", "pwd", "sh", "sleep", "true"]

/-- The paths of the commands. -/
def commandFiles : List String := ["/bin/", "/usr/bin/"].flatMap fun place => commands.map (place ++ ·)

def runs (program : Path) : Bool := program.text ∈ commands ++ commandFiles

def addFile (f : Files) (path : String) : Files := (f.write ⟨path⟩ []).toOption.getD f

/-- All of these files, with an empty directory to work in. -/
def files : Files :=
  let made := directories.foldl (fun f d => (f.makeDirectories ⟨d⟩).toOption.getD f) {}
  { (documents ++ commandFiles).foldl addFile made with workingDirectory := ["work"] }

end Testbed.Rehearsal.Machine
