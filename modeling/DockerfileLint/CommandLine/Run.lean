import DockerfileLint.CommandLine.Arguments
import DockerfileLint.Linter
import DockerfileLint.Load
import DockerfileLint.Report.Document
import DockerfileLint.Report.Text

namespace DockerfileLint.CommandLine

/-- The surroundings of a run.  Colours are only for a terminal, and `complaint` is what the reader of
TOML says about a document that is refused. -/
structure Environment where
  files : FileAccess
  tools : Toolbox
  isTerminal : Bool
  complaint : Text → Text := fun _ => SettingsError.bareComplaint

structure Outcome where
  status : ExitStatus
  output : Text
  queried : List Text := []

def version : Text := "slimcheck 1.0.0\n"

def helpLines : List Text :=
  ["Check a Dockerfile for image size, best practice and security issues",
   "",
   "Usage: slimcheck [OPTIONS] [DOCKERFILE]",
   "",
   "Arguments:",
   "  [DOCKERFILE]  Path to the Dockerfile",
   "",
   "Options:",
   "      --security         Enable additional security checks",
   "  -c, --config <CONFIG>  TOML configuration file",
   "      --image <IMAGE>    Image whose layer history is inspected (default: the base image)",
   "      --format <FORMAT>  Report format [default: text] [possible values: text, json]",
   "      --no-color         Disable colored output",
   "  -v, --verbose          Log check progress to stderr",
   "  -h, --help             Print help",
   "  -V, --version          Print version"]

def help : Text := helpLines.flatMap fun line => line ++ ['\n']

def missingDockerfile : Text :=
  "Error: No Dockerfile specified\nUsage: slimcheck ./Dockerfile [--security]\n"

/-- A run that fails prints its one error and nothing else. -/
def Outcome.ofError (error : LoadError) : Outcome :=
  { status := .failed, output := "Error: " ++ error.message ++ "\n" }

structure Task where
  settings : Settings
  dockerfile : Dockerfile

/-- The settings are loaded first, so their error is the one that is reported. -/
def load (environment : Environment) (config : Option Text) (path : Text) :
    Except LoadError Task := do
  let settings ← Settings.loadOptional environment.files config environment.complaint
  let dockerfile ← Dockerfile.load environment.files path
  return { settings, dockerfile }

/-- The linter of a run.  The option switches the security group on, but never off. -/
def linterOf (tools : Toolbox) (arguments : Arguments) (path : Text) (settings : Settings) :
    Linter :=
  let linter := (Linter.ofSettings tools settings (Path.directory path)).withImage arguments.image
  if arguments.security then linter.withSecurity true else linter

def report (style : Style) (format : Format) (dockerfile : Dockerfile) (issues : List Issue) :
    Text :=
  match format with
  | .text => Report.header dockerfile.path ++ Report.render style issues
  | .json => Report.renderJson dockerfile issues ++ "\n"

def lint (environment : Environment) (arguments : Arguments) : Outcome :=
  match arguments.dockerfile with
  | none => { status := .failed, output := missingDockerfile }
  | some path =>
    match load environment arguments.config path with
    | .error error => .ofError error
    | .ok task =>
      let linter := linterOf environment.tools arguments path task.settings
      let issues := linter.run environment.files task.dockerfile
      let style := if environment.isTerminal ∧ ¬arguments.noColor then .colored else .plain
      { status := .ofIssues issues
        output := report style (arguments.format.getD .text) task.dockerfile issues
        queried := (linter.historyRequest? task.dockerfile).toList }

def respond (environment : Environment) : Request → Outcome
  | .lint arguments => lint environment arguments
  | .help => { status := .clean, output := help }
  | .version => { status := .clean, output := version }
  | .refused => { status := .failed, output := [] }

def run (environment : Environment) (arguments : List Text) : Outcome :=
  respond environment (Request.ofArguments arguments)

def filesOf (arguments : Arguments) : List Text :=
  match arguments.dockerfile with
  | none => []
  | some path =>
    arguments.config.toList ++ [path, Path.within (Path.directory path) ".dockerignore"]

end DockerfileLint.CommandLine
