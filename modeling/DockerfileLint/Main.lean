import DockerfileLint.CommandLine.Run

/-! The program.  It looks at the files a run needs beforehand, so that the run itself is a
function of what was found; it runs no other program, so layers are not inspected. -/

namespace DockerfileLint.CommandLine

/-- The failure behind an error of the system, whose number may come with a minus sign. -/
def failureOf : IO.Error → ReadFailure
  | .noFileOrDirectory .. => .missing
  | .inappropriateType _ code _ =>
    if code = 20 ∨ 0 - code = 20 then .notDirectory else .isDirectory
  | error@(.invalidArgument _ code _) =>
    if code = 36 ∨ 0 - code = 36 then .nameTooLong else .other (toString error)
  | error => .other (toString error)

/-- Reads each file once. -/
def lookAt (paths : List Text) : IO FileAccess := do
  let contents ← paths.mapM fun path => do
    try
      let bytes ← IO.FS.readBinFile (String.ofList path)
      pure (path, Except.ok bytes.toList)
    catch error => pure (path, Except.error (failureOf error))
  let read (path : Text) := (contents.lookup path).getD (.error .missing)
  let isPresent (path : Text) : Bool :=
    match read path with
    | .ok _ => true
    | .error .isDirectory => true
    | .error (.other _) => true
    | .error _ => false
  return { isPresent, read }

def environment (request : Request) : IO Environment := do
  let paths := match request with
    | .lint arguments => filesOf arguments
    | _ => []
  return {
    files := ← lookAt paths
    tools := .empty
    isTerminal := ← (← IO.getStdout).isTty }

end DockerfileLint.CommandLine

open DockerfileLint CommandLine in
def main (arguments : List String) : IO UInt32 := do
  let request := Request.ofArguments (arguments.map String.toList)
  let outcome := respond (← environment request) request
  IO.print (String.ofList outcome.output)
  return UInt32.ofNat outcome.status.code
