import Tabletop.Advice
import Tabletop.Advice.Json
import Tabletop.Archetype
import Tabletop.Attack
import Tabletop.Attributes
import Tabletop.Cell
import Tabletop.Console.Command
import Tabletop.Console.Compiler
import Tabletop.Console.Completion
import Tabletop.Console.Entry
import Tabletop.Console.Files
import Tabletop.Console.Folder
import Tabletop.Console.Session
import Tabletop.Console.Style
import Tabletop.Console.Table
import Tabletop.Decimal.Binary
import Tabletop.Decimal.Hypotenuse
import Tabletop.Decimal.Reading
import Tabletop.Decimal.Shortest
import Tabletop.Decimal.Whole
import Tabletop.Dict
import Tabletop.Event
import Tabletop.Follower
import Tabletop.Grid
import Tabletop.Instruction
import Tabletop.Instruction.Json
import Tabletop.Instruction.Ron
import Tabletop.Journal
import Tabletop.Journal.Json
import Tabletop.Json
import Tabletop.Json.Number
import Tabletop.Json.Printer
import Tabletop.Json.Quoted
import Tabletop.Json.Reader
import Tabletop.Lint
import Tabletop.Main
import Tabletop.Message
import Tabletop.Random
import Tabletop.RefreshToken
import Tabletop.Ron
import Tabletop.Roster
import Tabletop.Script
import Tabletop.Script.Directive
import Tabletop.Script.Form
import Tabletop.Script.Lines
import Tabletop.Script.Terminals
import Tabletop.Settings
import Tabletop.Settings.Json
import Tabletop.Settings.Toml
import Tabletop.Sprite
import Tabletop.Sprite.Json
import Tabletop.Text.Blank
import Tabletop.Text.Hex
import Tabletop.Text.LetterTables
import Tabletop.Text.Letters
import Tabletop.Text.Pieces
import Tabletop.Text.Visible
import Tabletop.Text.VisibleTables
import Tabletop.TokenId
import Tabletop.Toml
import Tabletop.Toml.Date
import Tabletop.Toml.Number
import Tabletop.Toml.Quoted
import Tabletop.Toml.Table
import Tabletop.Toml.Terminals
import Tabletop.World
import Tabletop.World.Clock
import Tabletop.World.Json
import Tabletop.World.Step
import Tabletop.Proofs.Scene
import Tabletop.Proofs.TokenId
import Tabletop.Proofs.World
import Tabletop.Proofs.Roster
import Tabletop.Proofs.Mirror
import Tabletop.Proofs.CaughtUp
import Tabletop.Proofs.Lint
import Tabletop.Proofs.Session
import Tabletop.Proofs.Reachable
import Tabletop.Proofs.Batches
import Tabletop.Proofs.Likeness
import Tabletop.Proofs.Passages
import Tabletop.Proofs.Json.Tokens
import Tabletop.Proofs.Json.RoundTrip
import Tabletop.Proofs.Instruction
import Tabletop.Proofs.Typed
import Tabletop.Proofs.Scripted
import Tabletop.Proofs.Grid
import Tabletop.Proofs.Shadows
import Tabletop.Proofs.Suggestions
import Tabletop.Proofs.Definitions
import Tabletop.Proofs.Effects
import Tabletop.Proofs.Presentation
import Tabletop.Proofs.Wipes
import Tabletop.Proofs.Turns
import Tabletop.Proofs.Skips
import Tabletop.Proofs.Entries
import Tabletop.Proofs.Rounds
import Tabletop.Proofs.Hexagons
import Tabletop.Proofs.Decimal.Packing
import Tabletop.Proofs.Decimal.Rounding
import Tabletop.Proofs.Decimal.Operations
import Tabletop.Proofs.Between
import Tabletop.Proofs.Movement
import Tabletop.Proofs.Standstill
import Tabletop.Proofs.References
import Tabletop.Proofs.Leaving
import Tabletop.Proofs.Initiative
import Tabletop.Proofs.Letters
import Tabletop.Proofs.Ticks
import Tabletop.Proofs.Decisions
import Tabletop.Proofs.Namesakes
import Tabletop.Proofs.Board
import Tabletop.Proofs.Spawning
import Tabletop.Proofs.Legs
import Tabletop.Proofs.Decimal.Order
import Tabletop.Proofs.Decimal.Special
import Tabletop.Proofs.Random
import Tabletop.Proofs.Terrain
import Tabletop.Proofs.Stillness
import Tabletop.Proofs.Conditions
import Tabletop.Proofs.Completion
import Tabletop.Proofs.Items
import Tabletop.Proofs.Quoted
import Tabletop.Proofs.WellFormed
