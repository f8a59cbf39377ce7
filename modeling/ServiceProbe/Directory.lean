import ServiceProbe.Pattern.ByteSet
import ServiceProbe.Text.Cut
import ServiceProbe.Text.Utf8

/-! # Files by their paths

A path leads from a directory to a file, name by name. Nothing is known of the directories above,
so a path may go up there and stay, but finds no file. -/

namespace ServiceProbe
set_option autoImplicit false

/-- Why a file cannot be read as text. -/
inductive FileFault where
  | missing
  | directory
  | notDirectory
  | longName
  | nulByte
  | notText
  | other (text : String)
  deriving DecidableEq, Repr

namespace FileFault

def message : FileFault → String
  | missing => "No such file or directory (os error 2)"
  | directory => "Is a directory (os error 21)"
  | notDirectory => "Not a directory (os error 20)"
  | longName => "File name too long (os error 36)"
  | nulByte => "file name contained an unexpected NUL byte"
  | notText => "stream did not contain valid UTF-8"
  | other text => text

end FileFault

/-- The files of a directory by their names. -/
abbrev Directory := List (String × Bytes)

namespace Directory

/-- The most bytes of a name and of a path. -/
def nameLimit : Nat := 255

def pathLimit : Nat := 4095

/-- Finds the file that the names of a path lead to, `above` levels over the directory. -/
def walk (d : Directory) : Nat → List Text → Except FileFault Bytes
  | _, [] => throw .directory
  | above, name :: rest =>
    if name = [] || name = ['.'] then walk d above rest
    else if name = ['.', '.'] then walk d (above + 1) rest
    else if nameLimit < Text.utf8Length name then throw .longName
    else if above ≠ 0 then throw .missing
    else
      match d.lookup (String.ofList name) with
      | none => throw .missing
      | some content => if rest.isEmpty then pure content else throw .notDirectory

/-- The file that a path names, seen from the directory or from the root. -/
def read (d : Directory) (path : String) : Except FileFault Bytes :=
  let t := path.toList
  if t.contains '\x00' then throw .nulByte
  else if pathLimit < Text.utf8Length t then throw .longName
  else if t.isEmpty then throw .missing
  else walk d (if t.head? = some '/' then 1 else 0) (t.splitOn '/')

end Directory
end ServiceProbe
