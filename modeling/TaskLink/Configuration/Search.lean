import TaskLink.Configuration.File
import TaskLink.Configuration.FileTree
import TaskLink.Configuration.Overrides

/-!
# Looking for the configuration file

A variable of the environment names the file, or it lies in the working
directory or one of its nearest parents.  The nearest file wins.
-/

namespace TaskLink

def configurationFileName : String := "ctrlink.toml"

def configurationPathVariable : String := "CTRLINK_CONFIG_PATH"

def searchedParents : Nat := 5

/-! ## Paths -/

/-- The directory that holds an absolute path; the root has none. -/
def parentDirectory? (path : String) : Option String :=
  match path.toList.reverse.dropWhile (· != '/') with
  | [] => none
  | ['/'] => if path == "/" then none else some "/"
  | _ :: parent => some (String.ofList parent.reverse)

def inDirectory (directory name : String) : String :=
  if directory.endsWith "/" then directory ++ name else directory ++ "/" ++ name

def withParents : Nat → String → List String
  | 0, directory => [directory]
  | count + 1, directory =>
      match parentDirectory? directory with
      | some parent => directory :: withParents count parent
      | none => [directory]

def searchPaths (workingDirectory : Option String) : List String :=
  match workingDirectory with
  | some directory =>
      (withParents searchedParents directory).map (inDirectory · configurationFileName)
  | none => []

/-! ## Search -/

def searchReport (paths : List String) : String :=
  s!"'{configurationFileName}' not found in any of these locations:\n" ++
    "\n".intercalate (paths.map ("  - " ++ ·)) ++
    s!"\n\nSet {configurationPathVariable} to specify a custom location."

def findConfiguration (files : FileView) (environment : Environment)
    (workingDirectory : Option String) : Except ConfigurationError String :=
  match environment.get? configurationPathVariable with
  | some path =>
      if files.has path then .ok path
      else .error (.notFound
        s!"Config file specified by {configurationPathVariable} not found: {path}")
  | none =>
      let paths := searchPaths workingDirectory
      match paths.find? files.has with
      | some path => .ok path
      | none => .error (.notFound (searchReport paths))

def consultedPaths (environment : Environment) (workingDirectory : Option String)
    (explicit : Option String) : List String :=
  explicit.toList ++ (environment.get? configurationPathVariable).toList ++
    searchPaths workingDirectory

namespace Configuration

/-! ## Loading -/

def readFile (files : FileView) (path : String) : Except ConfigurationError Configuration :=
  match files.readText path with
  | .error fault => .error (.unreadable fault)
  | .ok text =>
      match ofFileText? text with
      | some configuration => .ok configuration
      | none => .error (.badSyntax "the text is not a configuration")

/-- The configuration before overrides: an explicit file, the file found, or the defaults. -/
def loadBase (files : FileView) (environment : Environment) (workingDirectory : Option String)
    (explicit : Option String) : Except ConfigurationError Configuration :=
  match explicit with
  | some path => readFile files path
  | none =>
      match findConfiguration files environment workingDirectory with
      | .ok path => readFile files path
      | .error error =>
          if environment.has configurationPathVariable then .error error else .ok {}

def load (files : FileView) (environment : Environment) (workingDirectory : Option String)
    (explicit : Option String) (flags : List (String × String)) :
    Except ConfigurationError Configuration :=
  match loadBase files environment workingDirectory explicit with
  | .ok base => .ok (base.override environment flags)
  | .error error => .error error

end Configuration

end TaskLink
