import ForbiddenCalls.FileSystem.Resolve

/-!
# Source units

A unit is one file, or one text in memory, that is to be analyzed.  What is known
of it are its path and the answers to two questions, asked in this order: how
many bytes it has, and what its text is.  Each question may fail, with a reason.
-/

namespace ForbiddenCalls

/-- A file to be analyzed. -/
structure SourceUnit where
  path : FilePath
  size : Except String Nat
  text : Except String String

namespace SourceUnit

instance : Inhabited SourceUnit := ⟨⟨default, .error "", .error ""⟩⟩

/-- A unit whose text is in memory. -/
def ofText (path : FilePath) (text : String) : SourceUnit :=
  ⟨path, .ok text.utf8ByteSize, .ok text⟩

/-- A unit whose file does not exist. -/
def missing (path : FilePath) : SourceUnit :=
  ⟨path, .error AccessError.notFound.message, .error AccessError.notFound.message⟩

/-- The unit for a path in a file tree. -/
def ofPath (fs : FileSystem) (path : FilePath) : SourceUnit where
  path
  size := ((fs.readBytes path).map ByteArray.size).mapError AccessError.message
  text := (fs.readText path).mapError AccessError.message

/-- The extension of a unit with its dot, or the empty text. -/
def extension (u : SourceUnit) : String := u.path.dottedExtension

end SourceUnit

end ForbiddenCalls
