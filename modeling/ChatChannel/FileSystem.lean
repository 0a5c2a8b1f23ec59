import ChatChannel.Path
import ChatChannel.Text.Utf8

/-!
# ChatChannel.FileSystem

A file system as a value: directories with their permissions and files with their contents, each at
a place given by the names from the root. Paths are followed name by name, so every operation
either gives the new file system or says what was in the way.
-/

namespace ChatChannel

/-- Why a file operation failed. -/
inductive FileFault where
  | notFound
  | exists
  | notDirectory
  | isDirectory
  | nameTooLong
  | nulByte
  | permissionDenied
  | other (text : String)
  deriving DecidableEq, Repr

/-- The text of a fault. -/
def FileFault.message : FileFault → String
  | .notFound => "No such file or directory (os error 2)"
  | .exists => "File exists (os error 17)"
  | .notDirectory => "Not a directory (os error 20)"
  | .isDirectory => "Is a directory (os error 21)"
  | .nameTooLong => "File name too long (os error 36)"
  | .nulByte => "file name contained an unexpected NUL byte"
  | .permissionDenied => "Permission denied (os error 13)"
  | .other text => text

/-- What can be found at a place. -/
inductive FileNode where
  | directory (mode : Nat)
  | file (content : ByteArray)
  deriving DecidableEq

/-- The names from the root to a place. -/
abbrev Place := List String

/-- The files and directories below the root. -/
structure FileSystem where
  nodes : List (Place × FileNode)
  deriving DecidableEq

namespace FileSystem

/-- Nothing but the root. -/
def empty : FileSystem := ⟨[]⟩

/-- What is at a place; the root is a directory. -/
def node? (fs : FileSystem) (place : Place) : Option FileNode :=
  if place = [] then some (.directory 0o755)
  else (fs.nodes.find? fun n => n.1 = place).map (·.2)

/-- Puts a new node at a place. -/
def insert (fs : FileSystem) (place : Place) (node : FileNode) : FileSystem :=
  ⟨fs.nodes ++ [(place, node)]⟩

/-- Takes the node away from a place. -/
def erase (fs : FileSystem) (place : Place) : FileSystem :=
  ⟨fs.nodes.filter fun n => !(n.1 = place)⟩

/-- Changes the content of the file at a place. -/
def overwrite (fs : FileSystem) (place : Place) (content : ByteArray) : FileSystem :=
  ⟨fs.nodes.map fun n => if n.1 = place then (n.1, .file content) else n⟩

/-- The longest name in bytes. -/
def maxName : Nat := 255

/-- Steps from a directory to the entry of this name, which may be missing. -/
def child (fs : FileSystem) (place : Place) (name : String) : Except FileFault Place :=
  match fs.node? place with
  | some (.directory _) =>
    if name = "" || name = "." then .ok place
    else if name = ".." then .ok place.dropLast
    else if maxName < name.utf8ByteSize then .error .nameTooLong
    else .ok (place ++ [name])
  | some (.file _) => .error .notDirectory
  | none => .error .notFound

/-- Follows names one after the other; all but the last must lead to directories. -/
def follow (fs : FileSystem) : Place → List String → Except FileFault Place
  | place, [] => .ok place
  | place, name :: rest =>
    match fs.child place name with
    | .ok next => follow fs next rest
    | .error fault => .error fault

/-- The place that a path leads to, which may be missing in its directory. -/
def locate (fs : FileSystem) (path : String) : Except FileFault Place :=
  if path.toList.contains '\x00' then .error .nulByte
  else if path = "" then .error .notFound
  else fs.follow [] ((Path.body path).map String.ofList)

/-- The node that a path leads to, with its place. -/
def lookup (fs : FileSystem) (path : String) : Except FileFault (Place × FileNode) :=
  match fs.locate path with
  | .error fault => .error fault
  | .ok place =>
    match fs.node? place with
    | none => .error .notFound
    | some node => .ok (place, node)

/-- The path leads to a directory. -/
def isDirectory (fs : FileSystem) (path : String) : Bool :=
  match fs.lookup path with
  | .ok (_, .directory _) => true
  | _ => false

/-- The permissions of the directory that the path leads to. -/
def mode? (fs : FileSystem) (path : String) : Option Nat :=
  match fs.lookup path with
  | .ok (_, .directory mode) => some mode
  | _ => none

/-- Entries can be added to the directory that holds a place, and taken from it. -/
def writableAround (fs : FileSystem) (place : Place) : Bool :=
  match fs.node? place.dropLast with
  | some (.directory mode) => mode &&& 0o200 != 0
  | _ => false

/-- The path without the slashes at its end. -/
def withoutSlashes (path : String) : String :=
  match (path.toList.reverse.dropWhile (· = '/')).reverse with
  | [] => path
  | cs => String.ofList cs

/-- Makes one directory. -/
def makeDirectory (fs : FileSystem) (path : String) (mode : Nat) : Except FileFault FileSystem :=
  match fs.locate (withoutSlashes path) with
  | .error fault => .error fault
  | .ok place =>
    match fs.node? place with
    | some _ => .error .exists
    | none =>
      if fs.writableAround place then .ok (fs.insert place (.directory mode))
      else .error .permissionDenied

/-- Makes the first of these directories, and before it those of its ancestors that are missing;
the list starts with a path and goes on with its ancestors. Ancestors that have been made stay if
a later step fails. -/
def makeChain (fs : FileSystem) (mode : Nat) : List String → Except FileFault Unit × FileSystem
  | [] => (.ok (), fs)
  | path :: up =>
    match fs.makeDirectory path mode with
    | .ok made => (.ok (), made)
    | .error .notFound =>
      if up = [] then (.ok (), fs)
      else
        match makeChain fs mode up with
        | (.error fault, left) => (.error fault, left)
        | (.ok (), above) =>
          match above.makeDirectory path mode with
          | .ok made => (.ok (), made)
          | .error fault => (if above.isDirectory path then .ok () else .error fault, above)
    | .error fault => (if fs.isDirectory path then .ok () else .error fault, fs)

/-- Makes a directory and its missing ancestors; one that exists is left as it is. -/
def makeDirectories (fs : FileSystem) (path : String) (mode : Nat) :
    Except FileFault Unit × FileSystem :=
  fs.makeChain mode (Path.ancestors path)

/-- Makes an empty file at a path where nothing is yet. -/
def createNew (fs : FileSystem) (path : String) : Except FileFault (Place × FileSystem) :=
  match fs.locate path with
  | .error fault => .error fault
  | .ok place =>
    match fs.node? place with
    | some _ => .error .exists
    | none =>
      if fs.writableAround place then .ok (place, fs.insert place (.file ByteArray.empty))
      else .error .permissionDenied

/-- The content of the file that a path leads to. -/
def readFile (fs : FileSystem) (path : String) : Except FileFault ByteArray :=
  match fs.lookup path with
  | .error fault => .error fault
  | .ok (_, .directory _) => .error .isDirectory
  | .ok (_, .file content) => .ok content

/-- Removes the file that a path leads to. -/
def removeFile (fs : FileSystem) (path : String) : Except FileFault FileSystem :=
  match fs.lookup path with
  | .error fault => .error fault
  | .ok (_, .directory _) => .error .isDirectory
  | .ok (place, .file _) =>
    if fs.writableAround place then .ok (fs.erase place) else .error .permissionDenied

end FileSystem

end ChatChannel
