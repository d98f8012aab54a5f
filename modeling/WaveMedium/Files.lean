/-
Module: WaveMedium.Files
Purpose: What a run needs of the files around it.
Main exports:
  FileError, Files, Folder, Folder.files
-/

namespace WaveMedium

/-! ### Access to files -/

/-- Why a file cannot be read or a directory cannot be made. -/
inductive FileError where
  | notFound
  | alreadyExists
  | notDirectory
  | isDirectory
  | nameTooLong
  | nullInName
  /-- Any other reason, in words. -/
  | other (reason : String)
deriving DecidableEq, Repr

/-- The wording of a file error, with the number under which it is known. -/
def FileError.message : FileError → String
  | .notFound => "No such file or directory (os error 2)"
  | .alreadyExists => "File exists (os error 17)"
  | .notDirectory => "Not a directory (os error 20)"
  | .isDirectory => "Is a directory (os error 21)"
  | .nameTooLong => "File name too long (os error 36)"
  | .nullInName => "file name contained an unexpected NUL byte"
  | .other reason => reason

/-- Access to files. -/
structure Files (m : Type → Type) where
  /-- The text in a file. -/
  readText : String → m (Except FileError String)
  /-- Make a directory and those that it lies in, unless they are there. -/
  makeDirectory : String → m (Except FileError Unit)

/-! ### A folder in memory -/

/-- A working directory with some files and no directories.  Of what lies outside it nothing is known but
that there are directories. -/
structure Folder where
  contents : List (String × String)

namespace Folder

/-- What a path leads to. -/
inductive Place where
  /-- The working directory or one outside. -/
  | directory (isHere : Bool)
  | file (text : String)
  /-- Something that is not there, or lies in a directory that is not there. -/
  | missing
  /-- Nothing, for another reason. -/
  | nowhere (reason : FileError)
deriving DecidableEq, Repr

/-- A name has at most this many bytes. -/
def longestName : Nat := 255

/-- A path has fewer bytes than this. -/
def pathLimit : Nat := 4096

/-- Follow one name of a path. -/
def follow (folder : Folder) (place : Place) (name : String) : Place :=
  match place with
  | .directory isHere =>
      if name = "" ∨ name = "." then .directory isHere
      else if name = ".." then .directory false
      else if longestName < name.utf8ByteSize then .nowhere .nameTooLong
      else match if isHere then folder.contents.lookup name else none with
        | some text => .file text
        | none => .missing
  | .file _ => .nowhere .notDirectory
  | .missing => .missing
  | .nowhere reason => .nowhere reason

/-- What a path as a whole leads to. -/
def resolve (folder : Folder) (path : String) : Place :=
  if path.toList.any (·.toNat = 0) then .nowhere .nullInName
  else if pathLimit ≤ path.utf8ByteSize then .nowhere .nameTooLong
  else (path.splitOn "/").foldl folder.follow (.directory (path.toList.head? ≠ some '/'))

/-- The text in a file of the folder. -/
def readText (folder : Folder) (path : String) : Except FileError String :=
  if path = "" then .error .notFound
  else match folder.resolve path with
    | .directory _ => .error .isDirectory
    | .file text => .ok text
    | .missing => .error .notFound
    | .nowhere reason => .error reason

/-- A path without the slashes at its end. -/
def trimSlashes (path : String) : String :=
  String.ofList ((path.toList.reverse.dropWhile (· = '/')).reverse)

/-- Whether a directory is there or can be made in the folder.  Nothing is read after that, so the folder
does not change. -/
def makeDirectory (folder : Folder) (path : String) : Except FileError Unit :=
  match folder.resolve (trimSlashes path) with
  | .directory _ => .ok ()
  | .file _ => .error .alreadyExists
  | .missing => .ok ()
  | .nowhere reason => .error reason

/-- Access to the files of a folder. -/
def files (folder : Folder) : Files Id where
  readText := folder.readText
  makeDirectory := folder.makeDirectory

end Folder

end WaveMedium
