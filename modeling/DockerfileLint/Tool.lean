import DockerfileLint.Text.Utf8

namespace DockerfileLint

/-- The end of a tool's run: its exit code and the bytes it printed. -/
structure ToolResult where
  exitCode : Nat
  output : List UInt8

def ToolResult.succeeded (result : ToolResult) : Bool := result.exitCode == 0

/-- The tools at hand.  `run` is `none` when the command cannot be started at all. -/
structure Toolbox where
  isInstalled : Text → Bool
  run : Text → List Text → Option ToolResult

namespace Toolbox

def empty : Toolbox := { isInstalled := fun _ => false, run := fun _ _ => none }

end Toolbox

def versionArguments : List Text := ["--version"]

/-- The arguments that ask a container tool for the layer sizes of an image, in bytes. -/
def historyArguments (image : Text) : List Text :=
  ["history", "--human=false", "--format", "\x7b\x7b.Size\x7d\x7d", image]

/-- A container tool whose answers are known in advance.  It is installed if it is executable, and
it may be installed and still fail to start. -/
structure KnownTool where
  name : Text
  versionExit : Nat
  histories : List (Text × ToolResult)
  isExecutable : Bool
  starts : Bool

namespace KnownTool

/-- An image without a known history is an error, and so is any other question. -/
def answer (tool : KnownTool) (arguments : List Text) : ToolResult :=
  if arguments = versionArguments then { exitCode := tool.versionExit, output := [] }
  else
    match arguments.getLast? with
    | some image =>
      if arguments = historyArguments image then
        (tool.histories.lookup image).getD { exitCode := 1, output := [] }
      else { exitCode := 64, output := [] }
    | none => { exitCode := 64, output := [] }

end KnownTool

/-- Whether a text can be passed to a tool: it holds no zero character and is under 128 KiB. -/
def isPassable (argument : Text) : Bool :=
  decide ('\x00' ∉ argument) && decide (Text.utf8Length argument < 131072)

/-- A toolbox of known tools; of two with one name the later counts. -/
def Toolbox.ofKnown (tools : List KnownTool) : Toolbox :=
  let find? (command : Text) := tools.reverse.find? fun tool => tool.name = command
  { isInstalled := fun command => (find? command).any (·.isExecutable)
    run := fun command arguments =>
      match find? command with
      | some tool =>
        if tool.isExecutable ∧ tool.starts ∧ arguments.all isPassable then
          some (tool.answer arguments)
        else none
      | none => none }

end DockerfileLint
