import DockerfileLint.Text.Blank
import DockerfileLint.Text.Lines
import DockerfileLint.Text.Natural

namespace DockerfileLint

structure LayerSize where
  index : Nat
  bytes : Nat
deriving Repr, DecidableEq

/-- A line that is no byte count gives no layer but still takes up an index.  Blank lines around the
whole history do not count. -/
def LayerSize.ofHistory (history : Text) : List LayerSize :=
  (Text.lines (Text.trim history)).zipIdx.filterMap fun (line, index) =>
    (Text.count? (Text.trim line)).map fun bytes => { index, bytes }

/-- What a layer may weigh, and how it may compare with the layer before it. -/
structure LayerLimits where
  maxBytes : Nat := 100000000
  growthFactor : Float := 1.3
  minGrowthBytes : Nat := 50000000

namespace LayerLimits

def isExceeded (limits : LayerLimits) (bytes : Nat) : Bool := limits.maxBytes < bytes

/-- A layer outgrows the one before it by the factor and by the absolute amount together; nothing
outgrows an empty layer. -/
def isOutgrown (limits : LayerLimits) (previous bytes : Nat) : Bool :=
  0 < previous && previous.toFloat * limits.growthFactor < bytes.toFloat &&
    limits.minGrowthBytes < bytes - previous

end LayerLimits

end DockerfileLint
