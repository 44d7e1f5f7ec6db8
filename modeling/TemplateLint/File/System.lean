import TemplateLint.File.Path

/-!
# File systems

To a scan, a file system is what it answers about a path: that there is nothing, that it does not
say, or what is there and whether it may be read. What is there may still turn out to be no file
that can be opened. An opened file is read to its end; that reading itself fails is left out.
-/

namespace TemplateLint

/-- An error of the operating system. -/
structure SystemError where
  code : Nat
  reason : Text
deriving Repr, DecidableEq

namespace SystemError

/-- The file may not be read, or a directory on the way to it not be searched. -/
def permissionDenied : SystemError := ⟨13, "Permission denied".toList⟩

/-- A directory is opened as a file. -/
def isDirectory : SystemError := ⟨21, "Is a directory".toList⟩

/-- A name, or the whole path, is too long to ask about. -/
def nameTooLong : SystemError := ⟨36, "File name too long".toList⟩

end SystemError

/-- What a path can lead to. -/
inductive Content where
  /-- something that cannot be opened as a file -/
  | closed (error : SystemError)
  | regular (bytes : List UInt8)
deriving Repr, DecidableEq

/-- What a file system answers about a path. -/
inductive Probe where
  | missing
  /-- whether anything is there is not said -/
  | refused (error : SystemError)
  | present (content : Content) (readable : Bool)
deriving Repr, DecidableEq

/-- A file system, given by its answers. -/
abbrev FileSystem := Path → Probe

end TemplateLint
