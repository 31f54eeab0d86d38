import Camouflage.Command.Arguments
import Camouflage.Command.EnvFile
import Camouflage.Command.Program
import Camouflage.Config.Document
import Camouflage.Decimal.Layout
import Camouflage.Decimal.Reading
import Camouflage.Decimal.Shortest
import Camouflage.Export.Json
import Camouflage.Export.Png
import Camouflage.Export.Saving
import Camouflage.Fault
import Camouflage.Files.Path
import Camouflage.Files.Store
import Camouflage.Files.Tree
import Camouflage.Grammar.Arrow
import Camouflage.Grammar.Branches
import Camouflage.Grammar.Expansion
import Camouflage.Grammar.Mapping
import Camouflage.Grammar.Notation
import Camouflage.Grammar.RuleSet
import Camouflage.Main
import Camouflage.Number.Binary32
import Camouflage.Number.Binary64
import Camouflage.Number.Format
import Camouflage.Number.Scalar
import Camouflage.Palette.Color
import Camouflage.Palette.Selection
import Camouflage.Pattern.Config
import Camouflage.Pattern.Generation
import Camouflage.Pattern.Replay
import Camouflage.Proofs.Grammar.Adding
import Camouflage.Proofs.Grammar.ArrowNotation
import Camouflage.Proofs.Grammar.Census
import Camouflage.Proofs.Grammar.Generations
import Camouflage.Proofs.Grammar.WrittenForm
import Camouflage.Proofs.Number.Exact
import Camouflage.Proofs.Pattern.SymbolLimit
import Camouflage.Proofs.Tables
import Camouflage.Proofs.Text.Trim
import Camouflage.Proofs.Turtle.Plane
import Camouflage.Proofs.Turtle.Run
import Camouflage.Proofs.Turtle.Torus
import Camouflage.Random.ChaCha
import Camouflage.Random.Sample
import Camouflage.Random.Source
import Camouflage.Raster.Image
import Camouflage.Raster.Rasterizer
import Camouflage.Raster.Stroke
import Camouflage.Table
import Camouflage.Text.Alphanumeric
import Camouflage.Text.Blank
import Camouflage.Turtle.Canvas
import Camouflage.Turtle.Command
import Camouflage.Turtle.Walk
import Camouflage.Yaml.Cursor
import Camouflage.Yaml.Node
import Camouflage.Yaml.Printer
import Camouflage.Yaml.Quoted
import Camouflage.Yaml.Scalar
import Camouflage.Yaml.Token
import Camouflage.Yaml.Unquoted
import Camouflage.Proofs.Grammar.MappingGrammar
import Camouflage.Proofs.Grammar.MappingNotation
import Camouflage.Proofs.Grammar.WrittenMapping
import Camouflage.Proofs.Grammar.Brackets
import Camouflage.Proofs.Turtle.BranchStack
import Camouflage.Proofs.Number.Bounds
import Camouflage.Proofs.Pattern.Ranges
import Camouflage.Proofs.Pattern.Growing
import Camouflage.Proofs.Palette.Selecting
import Camouflage.Proofs.Pattern.Checks
import Camouflage.Proofs.Pattern.Colors
import Camouflage.Proofs.Pattern.Trees
import Camouflage.Proofs.Turtle.Movements
import Camouflage.Proofs.Pattern.Conservation
import Camouflage.Proofs.Turtle.Departures
import Camouflage.Proofs.Pattern.Lines
import Camouflage.Proofs.Raster.Observed
import Camouflage.Proofs.Pattern.MoreTrees
import Camouflage.Proofs.Raster.Painter
import Camouflage.Proofs.Pattern.Recoloring
import Camouflage.Proofs.Command.Legend
import Camouflage.Proofs.Number.ExactPixels
import Camouflage.Proofs.Raster.StampLimit
import Camouflage.Proofs.Raster.Strokes
import Camouflage.Proofs.Files.Places
import Camouflage.Proofs.Files.History
import Camouflage.Proofs.Export.Saved
import Camouflage.Proofs.Command.Effects
import Camouflage.Proofs.Turtle.Branches
import Camouflage.Proofs.Turtle.Wrapping
import Camouflage.Proofs.Number.Reals
import Camouflage.Proofs.Turtle.Staying
import Camouflage.Proofs.Grammar.Balance
import Camouflage.Proofs.Grammar.ArrowGrammar
import Camouflage.Proofs.Turtle.Composition
import Camouflage.Proofs.Turtle.Heading
import Camouflage.Proofs.Grammar.Morphism
import Camouflage.Proofs.Turtle.Mirror
import Camouflage.Proofs.Turtle.Outputs
import Camouflage.Proofs.Turtle.PenUp
import Camouflage.Proofs.Grammar.Dyck
import Camouflage.Proofs.Text.Bytes
import Camouflage.Proofs.Palette.ColorText
import Camouflage.Proofs.Palette.ColorBytes
import Camouflage.Proofs.Pattern.Bounds
import Camouflage.Proofs.Yaml.SameTree
import Camouflage.Proofs.Config.Values
import Camouflage.Proofs.Config.RoundTrip
