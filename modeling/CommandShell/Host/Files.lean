import CommandShell.Failure

/-!
The part of the host's file system that every host has: directories, links to directories, documents
that are no programs, and programs. It decides whether a program starts.
-/

namespace CommandShell.Host

/-- What a path can name. -/
inductive Entry where
  | directory
  /-- A document that can be read but not started. -/
  | document
  /-- A device that takes what is written to it. -/
  | device
  | program (name : String)
  deriving DecidableEq, Repr

/-- A place in the tree of directories, as the names of the steps from the root. -/
abbrev Place := List String

/-- The place that a text names, when it starts at the root. -/
def Place.ofText (text : String) : Place := (text.splitOn "/").filter (· != "")

/-- A place as a text. -/
def Place.toText (place : Place) : String := "/" ++ "/".intercalate place

/-- The directories every host has. -/
def directories : List Place := ([
  "/", "/boot", "/dev", "/dev/fd", "/dev/mqueue", "/dev/pts", "/dev/shm", "/etc", "/etc/alternatives",
  "/etc/apt", "/etc/cron.daily", "/etc/default", "/etc/dpkg", "/etc/init.d", "/etc/ld.so.conf.d",
  "/etc/pam.d", "/etc/profile.d", "/etc/security", "/etc/skel", "/etc/systemd", "/home", "/media",
  "/mnt", "/opt", "/proc", "/proc/1", "/proc/self", "/proc/sys", "/root", "/run", "/run/lock", "/srv",
  "/sys", "/sys/class", "/sys/kernel", "/tmp", "/usr", "/usr/bin", "/usr/games", "/usr/include",
  "/usr/lib", "/usr/lib64", "/usr/libexec", "/usr/local", "/usr/local/bin", "/usr/local/etc",
  "/usr/local/games", "/usr/local/include", "/usr/local/lib", "/usr/local/sbin", "/usr/local/share",
  "/usr/local/src", "/usr/sbin", "/usr/share", "/usr/share/doc", "/usr/share/man", "/usr/src", "/var",
  "/var/backups", "/var/cache", "/var/lib", "/var/lib/dpkg", "/var/local", "/var/log", "/var/mail",
  "/var/opt", "/var/spool", "/var/tmp"] : List String).map Place.ofText

/-- The links to directories, each with the place it leads to. -/
def links : List (Place × Place) := ([
  ("/bin", "/usr/bin"), ("/sbin", "/usr/sbin"), ("/lib", "/usr/lib"), ("/lib64", "/usr/lib64"),
  ("/var/run", "/run"), ("/var/lock", "/run/lock")] : List (String × String)).map fun link =>
    (Place.ofText link.1, Place.ofText link.2)

/-- Devices every host has. -/
def devices : List Place := ([
  "/dev/full", "/dev/null", "/dev/ptmx", "/dev/random", "/dev/stderr", "/dev/stdin", "/dev/stdout",
  "/dev/tty", "/dev/urandom", "/dev/zero"] : List String).map Place.ofText

/-- Documents every host has. -/
def documents : List Place := ([
  "/etc/bash.bashrc", "/etc/debconf.conf", "/etc/debian_version", "/etc/environment", "/etc/fstab",
  "/etc/gai.conf", "/etc/group", "/etc/group-", "/etc/gshadow", "/etc/gshadow-", "/etc/host.conf",
  "/etc/hostname", "/etc/hosts",
  "/etc/issue", "/etc/issue.net", "/etc/ld.so.cache", "/etc/ld.so.conf", "/etc/libaudit.conf",
  "/etc/localtime", "/etc/login.defs", "/etc/machine-id", "/etc/mke2fs.conf", "/etc/motd",
  "/etc/mtab", "/etc/nsswitch.conf", "/etc/os-release", "/etc/pam.conf", "/etc/passwd", "/etc/passwd-",
  "/etc/profile", "/etc/resolv.conf", "/etc/shadow", "/etc/shadow-", "/etc/shells", "/etc/subgid", "/etc/subuid",
  "/etc/timezone", "/etc/xattr.conf", "/proc/cmdline", "/proc/cpuinfo", "/proc/filesystems",
  "/proc/loadavg", "/proc/meminfo", "/proc/mounts", "/proc/stat", "/proc/uptime", "/proc/version",
  "/usr/lib/os-release"] : List String).map Place.ofText

/-- The directories in which a program without a path is looked for. -/
def searchPath : List String := ["/usr/bin", "/bin"]

/-- The directory that holds the programs. -/
def programDirectory : Place := ["usr", "bin"]

/-- The directory in which programs start. Nothing is known about what it holds. -/
def startPlace : Place := ["srv", "shell"]

/-- A name in a directory has at most this many bytes. -/
def nameLimit : Nat := 255

/-- A path has fewer bytes than this. -/
def pathLimit : Nat := 4096

/-- What a place holds, given the programs of the host. -/
def entry? (programs : List String) (place : Place) : Option Entry :=
  if directories.contains place || place.isPrefixOf startPlace then some .directory
  else if devices.contains place then some .device
  else if documents.contains place then some .document
  else (programs.find? fun name => programDirectory ++ [name] == place).map .program

/-- The names that are known in a directory. -/
def namesIn (programs : List String) (place : Place) : List String :=
  let known := directories ++ links.map (·.1) ++ devices ++ documents ++
    (List.range startPlace.length).map (fun size => startPlace.take (size + 1)) ++
    programs.map (fun name => programDirectory ++ [name])
  ((known.filter fun other => other != [] && other.dropLast == place).filterMap
    (·.getLast?)).eraseDups

/-- Follow steps from a place. Only a directory leads further, a single dot included. -/
def walk (programs : List String) (place : Place) : List String → Except Obstacle (Place × Entry)
  | [] => match entry? programs place with
    | none => .error .missing
    | some entry => .ok (place, entry)
  | step :: rest =>
      match entry? programs place with
      | none => .error .missing
      | some .directory =>
          if nameLimit < step.utf8ByteSize then .error .nameTooLong
          else if step = "." then walk programs place rest
          else if step = ".." then walk programs place.dropLast rest
          else
            let next := place ++ [step]
            walk programs ((links.lookup next).getD next) rest
      | some _ => .error .notDirectory

/-- What a path names, and where. A path that ends in a slash names a directory. -/
def resolve (programs : List String) (current : Place) (path : String) :
    Except Obstacle (Place × Entry) :=
  if path.isEmpty then .error .missing
  else if pathLimit ≤ path.utf8ByteSize then .error .nameTooLong
  else
    let start := if path.startsWith "/" then [] else current
    match walk programs start ((path.splitOn "/").filter (· != "")) with
    | .error obstacle => .error obstacle
    | .ok (place, entry) =>
        if path.endsWith "/" && entry != .directory then .error .notDirectory else .ok (place, entry)

/-- The program at a path, or the obstacle on the way to it. -/
def programAt (programs : List String) (current : Place) (path : String) : Except Obstacle String :=
  match resolve programs current path with
  | .error obstacle => .error obstacle
  | .ok (_, .program name) => .ok name
  | .ok _ => .error .forbidden

/-- An obstacle that a search remembers even when it goes on. -/
def Obstacle.isFirm : Obstacle → Bool
  | .missing => false
  | .notDirectory => false
  | _ => true

/-- The program that starts at a path. What it is started with may not fit there. -/
def startAt (programs : List String) (fits : String → Bool) (path : String) : Except Obstacle String :=
  match programAt programs startPlace path with
  | .error obstacle => .error obstacle
  | .ok name => if fits path then .ok name else .error .argumentsTooLong

/-- The first program that starts at one of some paths. The first firm obstacle is the one that is told. -/
def firstStart (programs : List String) (fits : String → Bool) (obstacle : Obstacle) :
    List String → Except Obstacle String
  | [] => .error obstacle
  | path :: rest =>
      match startAt programs fits path with
      | .ok name => .ok name
      | .error next =>
          firstStart programs fits (if Obstacle.isFirm obstacle then obstacle else next) rest

/-- The program that a command starts, by a path or by a name on the search path. -/
def locate (programs : List String) (fits : String → Bool) (name : String) :
    Except Obstacle String :=
  if name.contains '/' then startAt programs fits name
  else firstStart programs fits .missing (searchPath.map (· ++ "/" ++ name))

end CommandShell.Host
