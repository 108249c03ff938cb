import DockerfileLint.Text.Basic

/-! Command-line arguments.  They are first read one by one as items and then taken in from left to
right: the first item that asks for help or the version decides, unless a fault comes before it. -/

namespace DockerfileLint.CommandLine

inductive Format where
  | text
  | json
deriving Repr, DecidableEq

def Format.ofName? (name : Text) : Option Format :=
  if name = "text" then some .text else if name = "json" then some .json else none

/-- What a run is asked to do.  Without a format it writes text. -/
structure Arguments where
  dockerfile : Option Text := none
  security : Bool := false
  config : Option Text := none
  image : Option Text := none
  format : Option Format := none
  noColor : Bool := false
  verbose : Bool := false
deriving Repr, DecidableEq

inductive Item where
  | dockerfile (path : Text)
  | security
  | config (path : Text)
  | image (name : Text)
  | format (name : Text)
  | noColor
  | verbose
  | help
  | version
  | fault
deriving Repr, DecidableEq

inductive ValueOption where
  | config
  | image
  | format
deriving Repr, DecidableEq

def ValueOption.item : ValueOption → Text → Item
  | .config => .config
  | .image => .image
  | .format => .format

/-- What a long option is, by its name. -/
inductive LongOption where
  | flag (item : Item)
  | valued (option : ValueOption)

def longOptions : List (Text × LongOption) :=
  [("security", .flag .security),
   ("no-color", .flag .noColor),
   ("verbose", .flag .verbose),
   ("help", .flag .help),
   ("version", .flag .version),
   ("config", .valued .config),
   ("image", .valued .image),
   ("format", .valued .format)]

/-- The items of one argument, and the option that still waits for its value. -/
structure Reading where
  items : List Item
  awaiting : Option ValueOption := none

/-- A long option without its dashes.  Its name ends at an equals sign, and the value follows. -/
def readLong (option : Text) : Reading :=
  let name := option.takeWhile (· ≠ '=')
  let value := option.dropWhile (· ≠ '=')
  match longOptions.lookup name, value with
  | some (.flag item), [] => { items := [item] }
  | some (.valued option), [] => { items := [], awaiting := some option }
  | some (.valued option), _ :: value => { items := [option.item value] }
  | _, _ => { items := [.fault] }

/-- Short options behind one dash.  What follows `c` in the same argument is its value, and an
equals sign before the value is not part of it. -/
def readShort : Text → Reading
  | [] => { items := [] }
  | 'v' :: rest => let others := readShort rest; { others with items := .verbose :: others.items }
  | 'h' :: rest => let others := readShort rest; { others with items := .help :: others.items }
  | 'V' :: rest => let others := readShort rest; { others with items := .version :: others.items }
  | ['c'] => { items := [], awaiting := some .config }
  | 'c' :: '=' :: value => { items := [.config value] }
  | 'c' :: value => { items := [.config value] }
  | _ :: _ => { items := [.fault] }

/-- One argument that is neither a value nor the end of options; a dash alone is a path. -/
def readArgument : Text → Reading
  | '-' :: '-' :: option => readLong option
  | '-' :: c :: rest => readShort (c :: rest)
  | path => { items := [.dockerfile path] }

/-- Whether an argument can be the value of the option before it. -/
def isValue (argument : Text) : Bool := argument.head? ≠ some '-' || argument == "-"

/-- The items of the arguments; after two dashes all arguments are paths. -/
def items (awaiting : Option ValueOption) : List Text → List Item
  | [] => if awaiting.isSome then [.fault] else []
  | argument :: rest =>
    match awaiting with
    | some option =>
      if isValue argument then option.item argument :: items none rest else [.fault]
    | none =>
      if argument = "--" then rest.map .dockerfile
      else
        let reading := readArgument argument
        reading.items ++ items reading.awaiting rest

/-- Takes in an item.  Nothing may be given twice, a path may not be empty, and a format needs a
name that is known. -/
def Arguments.add (arguments : Arguments) : Item → Option Arguments
  | .dockerfile path =>
    if arguments.dockerfile = none ∧ path ≠ [] then some { arguments with dockerfile := some path }
    else none
  | .security => if arguments.security then none else some { arguments with security := true }
  | .config path =>
    if arguments.config = none ∧ path ≠ [] then some { arguments with config := some path }
    else none
  | .image name =>
    if arguments.image = none then some { arguments with image := some name } else none
  | .format name =>
    match arguments.format, Format.ofName? name with
    | none, some format => some { arguments with format := some format }
    | _, _ => none
  | .noColor => if arguments.noColor then none else some { arguments with noColor := true }
  | .verbose => if arguments.verbose then none else some { arguments with verbose := true }
  | .help => none
  | .version => none
  | .fault => none

inductive Request where
  | lint (arguments : Arguments)
  | help
  | version
  | refused
deriving Repr, DecidableEq

def Request.ofItems (arguments : Arguments) : List Item → Request
  | [] => .lint arguments
  | .help :: _ => .help
  | .version :: _ => .version
  | item :: rest =>
    match arguments.add item with
    | some arguments => ofItems arguments rest
    | none => .refused

def Request.ofArguments (arguments : List Text) : Request := ofItems {} (items none arguments)

end DockerfileLint.CommandLine
