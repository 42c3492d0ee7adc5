import Sudoku.Ascending
import Sudoku.Board.Basic
import Sudoku.Board.Propagation
import Sudoku.Cancellation
import Sudoku.CandidateSet
import Sudoku.Configuration
import Sudoku.Document.Codec
import Sudoku.Document.Configuration
import Sudoku.Document.Message
import Sudoku.Domain
import Sudoku.Error
import Sudoku.Game
import Sudoku.Grid.Basic
import Sudoku.Grid.Code
import Sudoku.Grid.Picture
import Sudoku.Json.Basic
import Sudoku.Json.Parser
import Sudoku.Json.Record
import Sudoku.Json.Token
import Sudoku.Layout
import Sudoku.Location
import Sudoku.Message.Basic
import Sudoku.Message.Decoding
import Sudoku.Message.Encoding
import Sudoku.Position
import Sudoku.Proofs.Ascending
import Sudoku.Proofs.Board.Calls
import Sudoku.Proofs.Board.Coherence
import Sudoku.Proofs.Board.Commit
import Sudoku.Proofs.Board.Completion
import Sudoku.Proofs.Board.Confluence
import Sudoku.Proofs.Board.Deduction
import Sudoku.Proofs.Board.Effect
import Sudoku.Proofs.Board.InPlace
import Sudoku.Proofs.Board.Propagation
import Sudoku.Proofs.Board.Relabelling
import Sudoku.Proofs.Board.Rollback
import Sudoku.Proofs.Board.Trail
import Sudoku.Proofs.Cancellation
import Sudoku.Proofs.CandidateSet
import Sudoku.Proofs.CandidateSet.Calls
import Sudoku.Proofs.Document
import Sudoku.Proofs.Domain
import Sudoku.Proofs.Domain.Existence
import Sudoku.Proofs.Domain.Indexing
import Sudoku.Proofs.Error
import Sudoku.Proofs.Game
import Sudoku.Proofs.Grid.Building
import Sudoku.Proofs.Grid.Code
import Sudoku.Proofs.Grid.Completion
import Sudoku.Proofs.Grid.Frame
import Sudoku.Proofs.Grid.Grammar
import Sudoku.Proofs.Grid.Inscription
import Sudoku.Proofs.Grid.Origin
import Sudoku.Proofs.Grid.Override
import Sudoku.Proofs.Grid.Picture
import Sudoku.Proofs.Grid.Reachable
import Sudoku.Proofs.Grid.Reading
import Sudoku.Proofs.Grid.Relabelling
import Sudoku.Proofs.Grid.Rows
import Sudoku.Proofs.Grid.Spacing
import Sudoku.Proofs.Grid.WellFormed
import Sudoku.Proofs.InPlace
import Sudoku.Proofs.Json.Grammar
import Sudoku.Proofs.Json.Record
import Sudoku.Proofs.Json.RoundTrip
import Sudoku.Proofs.Json.Scanning
import Sudoku.Proofs.Json.Spelling
import Sudoku.Proofs.Layout.Block
import Sudoku.Proofs.Layout.Clash
import Sudoku.Proofs.Layout.Conflict
import Sudoku.Proofs.Layout.Division
import Sudoku.Proofs.Layout.Edge
import Sudoku.Proofs.Layout.Exactness
import Sudoku.Proofs.Layout.FirstConflict
import Sudoku.Proofs.Layout.Order
import Sudoku.Proofs.Layout.Peers
import Sudoku.Proofs.Message.Denotation
import Sudoku.Proofs.Message.Filling
import Sudoku.Proofs.Message.Malformed
import Sudoku.Proofs.Message.RoundTrip
import Sudoku.Proofs.Message.WellFormed
import Sudoku.Proofs.Search.Bounds
import Sudoku.Proofs.Search.Cancellation
import Sudoku.Proofs.Search.ChoicePoint
import Sudoku.Proofs.Search.Invariant
import Sudoku.Proofs.Search.Ledger
import Sudoku.Proofs.Search.Move
import Sudoku.Proofs.Search.Recursion
import Sudoku.Proofs.Search.Refinement
import Sudoku.Proofs.Search.Relabelling
import Sudoku.Proofs.Search.Run
import Sudoku.Proofs.Search.Selection
import Sudoku.Proofs.Search.Statistics
import Sudoku.Proofs.Search.Tree
import Sudoku.Proofs.Service.Classification
import Sudoku.Proofs.Service.Precedence
import Sudoku.Proofs.Service.Response
import Sudoku.Proofs.Service.Solving
import Sudoku.Proofs.Solver.Cancellation
import Sudoku.Proofs.Solver.ChoicePoint
import Sudoku.Proofs.Solver.Consistency
import Sudoku.Proofs.Solver.Exactness
import Sudoku.Proofs.Solver.Outcome
import Sudoku.Proofs.Solver.Relabelling
import Sudoku.Proofs.Solver.Selection
import Sudoku.Proofs.Solver.Statistics
import Sudoku.Proofs.Solver.Termination
import Sudoku.Proofs.Solver.Validation
import Sudoku.Proofs.Text.Decimal
import Sudoku.Proofs.Text.Frame
import Sudoku.Proofs.Text.Numerals
import Sudoku.Proofs.Text.Pieces
import Sudoku.Proofs.Text.Spacing
import Sudoku.Search.Basic
import Sudoku.Search.Selection
import Sudoku.Service
import Sudoku.Solver
import Sudoku.Symbol
import Sudoku.Text.Blank
import Sudoku.Text.Decimal
import Sudoku.Text.Pieces
import Sudoku.Word
