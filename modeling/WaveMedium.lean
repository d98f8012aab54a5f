import WaveMedium.Absorption
import WaveMedium.Acoustic
import WaveMedium.Change
import WaveMedium.Error
import WaveMedium.Field.Basic
import WaveMedium.Field.Quantity
import WaveMedium.Field.Stored
import WaveMedium.Files
import WaveMedium.Geometry
import WaveMedium.Grid
import WaveMedium.Layout
import WaveMedium.Main
import WaveMedium.Message
import WaveMedium.Number.Binary
import WaveMedium.Number.Decimal
import WaveMedium.Number.Elementary
import WaveMedium.Number.Precision
import WaveMedium.Number.Scalar
import WaveMedium.Padding
import WaveMedium.Plot
import WaveMedium.Poroelastic.Derivation
import WaveMedium.Poroelastic.Medium
import WaveMedium.Poroelastic.Property
import WaveMedium.Poroelastic.Table
import WaveMedium.Region.Basic
import WaveMedium.Region.Window
import WaveMedium.Run.Basic
import WaveMedium.Run.Report
import WaveMedium.Run.Request
import WaveMedium.Scenario
import WaveMedium.Settings.Basic
import WaveMedium.Settings.Document
import WaveMedium.Tensor.Basic
import WaveMedium.Tensor.Extrema
import WaveMedium.Tensor.Index
import WaveMedium.TimeStep
import WaveMedium.Toml.Document
import WaveMedium.Toml.Parse
import WaveMedium.Toml.Reader
import WaveMedium.Toml.Text
import WaveMedium.Toml.Value
import WaveMedium.Toml.Word
import WaveMedium.Proofs.Number.Order
import WaveMedium.Proofs.Tensor.Extrema
import WaveMedium.Proofs.Padding
import WaveMedium.Proofs.Window
import WaveMedium.Proofs.Extension
import WaveMedium.Proofs.Geometry
import WaveMedium.Proofs.Absorption.Profile
import WaveMedium.Proofs.Absorption.Field
import WaveMedium.Proofs.Acoustic.Fields
import WaveMedium.Proofs.Acoustic.Reassignment
import WaveMedium.Proofs.Poroelastic.Derivation
import WaveMedium.Proofs.Poroelastic.Order
import WaveMedium.Proofs.Poroelastic.Fields
import WaveMedium.Proofs.Absorption.Medium
import WaveMedium.Proofs.Covering
import WaveMedium.Proofs.Construction
import WaveMedium.Proofs.Repadding
import WaveMedium.Proofs.Settings
import WaveMedium.Proofs.Number.Tolerance
import WaveMedium.Proofs.PaddedGrid
import WaveMedium.Proofs.Acceptance
import WaveMedium.Proofs.Acoustic.Verdict
import WaveMedium.Proofs.SuppliedGrid
import WaveMedium.Proofs.Poroelastic.Interior
import WaveMedium.Proofs.Poroelastic.Verdict
import WaveMedium.Proofs.Writing
import WaveMedium.Proofs.Spreading
import WaveMedium.Proofs.Scenario
import WaveMedium.Proofs.Number.Rounding
import WaveMedium.Proofs.Number.Value
import WaveMedium.Proofs.Number.Nearest
import WaveMedium.Proofs.Number.Arithmetic
import WaveMedium.Proofs.Number.Whole
import WaveMedium.Proofs.Number.Agreement
import WaveMedium.Proofs.Number.Sign
import WaveMedium.Proofs.Number.Size
import WaveMedium.Proofs.Number.Cast
import WaveMedium.Proofs.Spacing
import WaveMedium.Proofs.TimeStep
import WaveMedium.Proofs.Acoustic.CriticalStep
import WaveMedium.Proofs.Poroelastic.Size
import WaveMedium.Proofs.Poroelastic.CriticalStep
import WaveMedium.Proofs.Number.Monotone
import WaveMedium.Proofs.Acoustic.Slowness
import WaveMedium.Proofs.Acoustic.Scale
import WaveMedium.Proofs.Absorption.Mask
import WaveMedium.Proofs.Poroelastic.Mask
import WaveMedium.Proofs.Representable
import WaveMedium.Proofs.Acoustic.Assignment
import WaveMedium.Proofs.CellSize
import WaveMedium.Proofs.Padding.Pointwise
import WaveMedium.Proofs.Padding.Composition
import WaveMedium.Proofs.Tensor.Reduction
import WaveMedium.Proofs.Extremes
import WaveMedium.Proofs.Views
import WaveMedium.Proofs.Absorption.Verdict
import WaveMedium.Proofs.Halo
import WaveMedium.Proofs.Poroelastic.Sequence
import WaveMedium.Proofs.Acoustic.Azimuth
import WaveMedium.Proofs.Layers
import WaveMedium.Proofs.TimeStep.Exact
import WaveMedium.Proofs.PaddedGrid.Exact
import WaveMedium.Proofs.Plot.Plane
import WaveMedium.Proofs.Plot.Position
