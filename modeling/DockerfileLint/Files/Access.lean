import DockerfileLint.Text.Utf8

namespace DockerfileLint

inductive ReadFailure where
  | missing
  | notDirectory
  | isDirectory
  | nameTooLong
  | nulInPath
  | notText
  | other (reason : Text)
deriving Repr, DecidableEq

def ReadFailure.message : ReadFailure → Text
  | .missing => "No such file or directory (os error 2)"
  | .notDirectory => "Not a directory (os error 20)"
  | .isDirectory => "Is a directory (os error 21)"
  | .nameTooLong => "File name too long (os error 36)"
  | .nulInPath => "file name contained an unexpected NUL byte"
  | .notText => "stream did not contain valid UTF-8"
  | .other reason => reason

/-- A file system as seen from the working directory.  A directory is present but cannot be read.
Paths are Unicode texts, as they are shown; paths of a system that are none cannot be named. -/
structure FileAccess where
  isPresent : Text → Bool
  read : Text → Except ReadFailure (List UInt8)

/-- The content of a file, which must be UTF-8. -/
def FileAccess.readText (files : FileAccess) (path : Text) : Except ReadFailure Text :=
  match files.read path with
  | .error failure => .error failure
  | .ok bytes =>
    match Text.ofUtf8? bytes with
    | some text => .ok text
    | none => .error .notText

end DockerfileLint
