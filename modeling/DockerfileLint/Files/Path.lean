import DockerfileLint.Text.Basic

/-! Paths with slashes.  Doubled slashes, and dots between them, lead nowhere; they are dropped only
where a path is cut, so that what is left of it stays as written. -/

namespace DockerfileLint.Path

/-- A path without the slashes and dots at its end that lead nowhere.  It is taken and given
backwards; the root and a dot at the start stay. -/
def dropIdle : Text → Text
  | ['/'] => ['/']
  | ['.', '/'] => ['/']
  | '/' :: rest => dropIdle rest
  | '.' :: '/' :: rest => dropIdle rest
  | path => path

/-- The directory that holds a path; it is `.` for a bare name and for the root. -/
def directory (path : Text) : Text :=
  let whole := dropIdle path.reverse
  let parent := if whole = ['/'] then [] else dropIdle (whole.dropWhile (· ≠ '/'))
  if parent = [] then "." else parent.reverse

/-- A name inside a directory; the empty text is the working directory. -/
def within (directory name : Text) : Text :=
  if directory = [] ∨ directory.getLast? = some '/' then directory ++ name
  else directory ++ "/" ++ name

end DockerfileLint.Path
