import DockerfileLint.Text.Basic

namespace DockerfileLint.Toml

/-- Dates and times carry no content: no setting has one, so only their place matters. -/
inductive Value where
  | string (content : Text)
  | integer (number : Int)
  | float (number : Float)
  | boolean (truth : Bool)
  | dateTime
  | array (elements : List Value)
  | table (entries : List (Text × Value))

end DockerfileLint.Toml
