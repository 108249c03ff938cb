import DockerfileLint.Main
import DockerfileLint.Files.Tree
import DockerfileLint.Proofs.Dockerfile.Reading
import DockerfileLint.Proofs.Dockerfile.Fragments
import DockerfileLint.Proofs.Dockerfile.Grouping
import DockerfileLint.Proofs.Dockerfile.BaseImage
import DockerfileLint.Proofs.Dockerfile.Concatenation
import DockerfileLint.Proofs.Dockerfile.Reflow
import DockerfileLint.Proofs.Dockerfile.Reprint
import DockerfileLint.Proofs.Dockerfile.Layout
import DockerfileLint.Proofs.Dockerfile.Wellformed
import DockerfileLint.Proofs.Check.Clean
import DockerfileLint.Proofs.Check.Kinds
import DockerfileLint.Proofs.Linter.Groups
import DockerfileLint.Proofs.Linter.ExitStatus
import DockerfileLint.Proofs.Check.Findings
import DockerfileLint.Proofs.Check.Unbroken
import DockerfileLint.Proofs.Report.Lines
import DockerfileLint.Proofs.Linter.Report
import DockerfileLint.Proofs.Check.Growth
import DockerfileLint.Proofs.Linter.History
import DockerfileLint.Proofs.Json.Reading
import DockerfileLint.Proofs.Json.Tokens
import DockerfileLint.Proofs.Json.Rendering
import DockerfileLint.Proofs.Report.Document
import DockerfileLint.Proofs.Check.Agreement
import DockerfileLint.Proofs.Check.Location
import DockerfileLint.Proofs.Linter.Location
import DockerfileLint.Proofs.Check.Origin
import DockerfileLint.Proofs.CommandLine.Run
import DockerfileLint.Proofs.Layer.Size
import DockerfileLint.Proofs.Check.Predecessors
import DockerfileLint.Proofs.CommandLine.Spelling
import DockerfileLint.Proofs.Decimal.Whole
import DockerfileLint.Proofs.Toml.Wellformed
import DockerfileLint.Proofs.Settings.Overlay
import DockerfileLint.Proofs.Check.Limits
import DockerfileLint.Proofs.Check.CopyOwner
import DockerfileLint.Proofs.Dockerfile.Stage
import DockerfileLint.Proofs.Image.Name
import DockerfileLint.Proofs.Check.Pinning
import DockerfileLint.Proofs.Dockerfile.Selection
import DockerfileLint.Proofs.Dockerfile.LoneDot
import DockerfileLint.Proofs.Report.Painting
import DockerfileLint.Proofs.Dockerfile.Splitting
import DockerfileLint.Proofs.Check.PackageCaches
