/-!
# The directory of the settings

Where the program keeps its files: in a directory with its name, inside the directory for a user's
local data.
-/

namespace WalletWatch.Directory

/-- The name of the program, and of its directory. -/
def programName : String := "Wallet Monitor"

def isAbsolute (path : String) : Bool :=
  path.startsWith "/"

/-- A relative path inside a directory. Nothing is normalised; a separator is added unless the
directory ends in one. -/
def join (directory path : String) : String :=
  if directory.isEmpty || directory.endsWith "/" then directory ++ path
  else directory ++ "/" ++ path

/-- The directory for local data: the given one if it is absolute, otherwise the usual one inside
the home directory. -/
def localData (dataHome : Option String) (home : String) : String :=
  match dataHome.filter isAbsolute with
  | some directory => directory
  | none => join home ".local/share"

def program (dataHome : Option String) (home : String) : String :=
  join (localData dataHome home) programName

end WalletWatch.Directory
