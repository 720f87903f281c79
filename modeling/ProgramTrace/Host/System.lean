import ProgramTrace.Host.Shell.Run
import ProgramTrace.Launch

/-!
# `ProgramTrace.Host.System` — a small system as a machine.

The system has the usual directories, a few programs, devices and an empty working directory.  The tool
itself is there as the process that has started the first program.
-/

namespace ProgramTrace.Host

open Files (Device Fault Node Store)

/-! ## Files -/

def programNames : List Octets := shellName :: launcherName :: Utility.all.map (·.1)

def workingDirectory : Octets := "/tmp/work".toList

def directoryPaths : List Octets :=
  ["/boot", "/dev", "/dev/pts", "/dev/shm", "/etc", "/home", "/lib", "/lib64", "/media", "/mnt", "/opt",
    "/dev/fd", "/proc", "/proc/1000", "/root", "/run", "/sbin", "/srv", "/sys", "/tmp", "/tmp/work",
    "/usr", "/usr/bin", "/usr/lib", "/usr/local", "/usr/local/bin", "/usr/sbin", "/usr/share", "/var",
    "/var/log", "/var/tmp"].map String.toList

def devicePaths : List (Octets × Device) :=
  [("/dev/null", .null), ("/dev/zero", .null), ("/dev/random", .null), ("/dev/urandom", .null),
    ("/dev/full", .full), ("/dev/tty", .terminal), ("/dev/stdout", .stdout), ("/dev/stderr", .stderr),
    ("/dev/fd/1", .stdout), ("/dev/fd/2", .stderr)].map fun (p, d) => (p.toList, d)

/-- The paths of the files that belong to the system and are no programs. -/
def filePaths : List Octets :=
  ["/etc/group", "/etc/hostname", "/etc/hosts", "/etc/passwd", "/etc/profile", "/etc/shadow",
    "/proc/version"].map String.toList

def emptyStore : Store :=
  let empty : Store := { nodes := [.directory 0 []], here := 0 }
  let add (s : Store) (path : Octets) (node : Nat → Node) : Store :=
    match (World.initial s false).siteOf path with
    | .ok (directory, name) => (s.insert directory name (node directory)).2
    | .error _ => s
  let s := directoryPaths.foldl (fun s p => add s p fun above => .directory above []) empty
  let s := add s "/bin".toList fun _ => .link "usr/bin".toList
  let s := devicePaths.foldl (fun s d => add s d.1 fun _ => .device d.2) s
  let s := filePaths.foldl (fun s p => add s p fun _ => .file (Text.toUtf8 ['\n']) false) s
  let s := programNames.foldl (fun s n => add s ("/usr/bin/".toList ++ n) fun _ => .program n) s
  let tool := "/proc/".toList ++ Decimal.ofNat firstProcess ++ "/exe".toList
  let s := add s tool fun _ => .program CommandLine.toolName
  { s with here := (s.find workingDirectory).toOption.getD 0 }

/-! ## Starting -/

def budget : Nat := 1000000

/-- The system as a machine, with a clock and an environment; its programs have no input.  With `lingers`,
what a program leaves running comes to its end too before the machine is done. -/
def machine (clock : Instant) (environment : List (Text × Text)) (lingers : Bool) : Machine where
  clock := clock
  start c :=
    let environment := environment.map fun v => (Octets.ofText v.1, Octets.ofText v.2)
    Shell.answer budget clock environment lingers c

end ProgramTrace.Host
