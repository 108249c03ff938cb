import DockerfileLint.Text.Natural

namespace DockerfileLint

inductive Color where
  | red
  | green
  | yellow
  | blue
  | cyan

namespace Color

def code : Color → Nat
  | .red => 31
  | .green => 32
  | .yellow => 33
  | .blue => 34
  | .cyan => 36

def start (color : Color) : Text := "\x1b[" ++ Text.ofNat color.code ++ "m"

def reset : Text := "\x1b[0m"

/-- Switches back to the colour after each reset inside a text. -/
def resume (color : Color) : Text → Text
  | '\x1b' :: '[' :: '0' :: 'm' :: rest => reset ++ color.start ++ resume color rest
  | c :: rest => c :: resume color rest
  | [] => []

def paint (color : Color) (text : Text) : Text := color.start ++ color.resume text ++ reset

end Color

inductive Style where
  | plain
  | colored
deriving DecidableEq

def Style.apply (style : Style) (color : Color) (text : Text) : Text :=
  match style with
  | .plain => text
  | .colored => color.paint text

end DockerfileLint
