import BoardDiagram.Main
import BoardDiagram.Proofs.Indentation
import BoardDiagram.Proofs.Positions
import BoardDiagram.Proofs.RoundTrip
import BoardDiagram.Proofs.Addresses
import BoardDiagram.Proofs.Visibility
import BoardDiagram.Proofs.LinkLines
import BoardDiagram.Proofs.Number.Decimals
import BoardDiagram.Proofs.BoardLines
import BoardDiagram.Proofs.Arguments
import BoardDiagram.Proofs.Runs
import BoardDiagram.Proofs.HeaderLines
import BoardDiagram.Proofs.Respelling
import BoardDiagram.Proofs.Frames
import BoardDiagram.Proofs.Coordinates
import BoardDiagram.Proofs.RowNumbers
import BoardDiagram.Proofs.Tiling
import BoardDiagram.Proofs.ImageSizes
import BoardDiagram.Proofs.NumberedMoves
import BoardDiagram.Proofs.Scanning
import BoardDiagram.Proofs.Markup.Characters
import BoardDiagram.Proofs.Markup.Notices
import BoardDiagram.Proofs.FontSpecs
