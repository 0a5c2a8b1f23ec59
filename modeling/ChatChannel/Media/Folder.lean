import ChatChannel.Error
import ChatChannel.FileSystem
import ChatChannel.Text.Hex

/-!
# ChatChannel.Media.Folder

Saving attachments as files of their own, and the guard that removes them again. A file is named by
the stem of the folder, a fresh identifier, and an extension from which all but letters and digits
are gone; a save that fails leaves no file behind.
-/

namespace ChatChannel.Media

/-- Where attachments are saved. -/
structure Folder where
  dir : String
  /-- What the names of its files begin with. -/
  stem : String
  deriving DecidableEq, Repr

/-- The identifier in a file name: a number below `2 ^ 128`. -/
abbrev FileId := Fin (.pow 2 128)

/-- The identifier with this number. -/
def FileId.ofNat (n : Nat) : FileId := Fin.ofNat _ n

/-- An identifier as 32 hexadecimal digits. -/
def FileId.text (id : FileId) : String :=
  String.ofList (Text.hexDigitsOf 32 id.val)

/-- A character that may stand in an extension. -/
def isExtensionChar (c : Char) : Bool :=
  c.isAlphanum

/-- An extension with its dot and without the characters that must not stand in one; empty if
nothing is left. -/
def normalizedExtension (ext : String) : String :=
  match ext.toList.filter isExtensionChar with
  | [] => ""
  | cs => String.ofList ('.' :: cs)

/-- What the disk refuses during one save, beside what the state of the file system forbids. -/
structure Trouble where
  directory : Option FileFault
  create : Option FileFault
  write : Option FileFault
  deriving DecidableEq, Repr

/-- A disk that refuses nothing. -/
def Trouble.none : Trouble := ⟨.none, .none, .none⟩

/-- Why an attachment was not saved. -/
inductive SaveError where
  | directory (dir : String) (fault : FileFault)
  | create (path : String) (fault : FileFault)
  | write (path : String) (fault : FileFault)
  deriving DecidableEq, Repr

/-- The error with a description of what was attempted. -/
def SaveError.failure : SaveError → Failure
  | .directory dir fault => ⟨"failed to create media dir " ++ dir, fault.message⟩
  | .create path fault => ⟨"failed to create " ++ path, fault.message⟩
  | .write path fault => ⟨"failed to write " ++ path, fault.message⟩

namespace Folder

/-- The name of a file. -/
def fileName (f : Folder) (id : FileId) (ext : String) : String :=
  f.stem ++ id.text ++ normalizedExtension ext

/-- The path of a file. -/
def filePath (f : Folder) (id : FileId) (ext : String) : String :=
  Path.join f.dir (f.fileName id ext)

/-- Writes data to a new file at a path. A file that cannot be written is removed again. -/
def writeNew (fs : FileSystem) (trouble : Trouble) (data : ByteArray) (path : String) :
    Except SaveError String × FileSystem :=
  match trouble.create, fs.createNew path with
  | some fault, _ => (.error (.create path fault), fs)
  | none, .error fault => (.error (.create path fault), fs)
  | none, .ok (place, created) =>
    match trouble.write with
    | none => (.ok path, created.overwrite place data)
    | some fault =>
      match created.removeFile path with
      | .ok removed => (.error (.write path fault), removed)
      | .error _ => (.error (.write path fault), created)

/-- Saves data as a new file and gives its path. The directory is made on first use, for its owner
alone. -/
def save (f : Folder) (fs : FileSystem) (trouble : Trouble) (id : FileId) (data : ByteArray)
    (ext : String) : Except SaveError String × FileSystem :=
  match trouble.directory, fs.makeDirectories f.dir 0o700 with
  | some fault, _ => (.error (.directory f.dir fault), fs)
  | none, (.error fault, left) => (.error (.directory f.dir fault), left)
  | none, (.ok (), made) => writeNew made trouble data (f.filePath id ext)

/-- Saves what was fetched. A failed fetch or save is no attachment. -/
def download (f : Folder) (fs : FileSystem) (trouble : Trouble) (id : FileId)
    (fetched : Except String ByteArray) (ext : String) : Option String × FileSystem :=
  match fetched with
  | .error _ => (none, fs)
  | .ok data =>
    match f.save fs trouble id data ext with
    | (.ok path, saved) => (some path, saved)
    | (.error _, left) => (none, left)

end Folder

/-- The files of one message. They are removed when the message has been handled. -/
structure Transient where
  paths : List String
  deriving DecidableEq, Repr

namespace Transient

/-- No files. -/
def empty : Transient := ⟨[]⟩

/-- Adds a file. -/
def track (t : Transient) (path : String) : Transient :=
  ⟨t.paths ++ [path]⟩

/-- Removes a file, or leaves everything as it is if that cannot be done. -/
def removeIfPossible (fs : FileSystem) (path : String) : FileSystem :=
  match fs.removeFile path with
  | .ok removed => removed
  | .error _ => fs

/-- Removes the files one after the other; a failure does not keep later ones. -/
def release (t : Transient) (fs : FileSystem) : FileSystem :=
  t.paths.foldl removeIfPossible fs

end Transient

end ChatChannel.Media
