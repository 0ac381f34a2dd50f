import Drafting.Diagram.Decoding
import Drafting.LogLine
import Drafting.Main
import Drafting.Proofs.Canvas.Numbering
import Drafting.Proofs.Markup.Scanner
import Drafting.Proofs.Cell.Recovery
import Drafting.Proofs.Canvas.Links
import Drafting.Proofs.Canvas.Network
import Drafting.Proofs.ActivityDiagram.Nesting
import Drafting.Proofs.ActivityDiagram.Connections
import Drafting.Proofs.ActivityDiagram.Rendering
import Drafting.Proofs.Text.Scan
import Drafting.Proofs.Text.Word
import Drafting.Proofs.ActivityDiagram.Printing
import Drafting.Proofs.ActivityDiagram.Program
import Drafting.Proofs.ActivityDiagram.ProgramEdges
import Drafting.Proofs.Diagram.Relations
import Drafting.Proofs.Diagram.Reading
import Drafting.Proofs.EntityDiagram.Printing
import Drafting.Proofs.EntityDiagram.Recovery
import Drafting.Proofs.C4.Blocks
import Drafting.Proofs.C4.Forest
import Drafting.Proofs.C4.Hierarchy
import Drafting.Proofs.C4.Places
import Drafting.Proofs.C4.Layout
import Drafting.Proofs.C4.Declarations
import Drafting.Proofs.Text.Reach
import Drafting.Proofs.C4.RelationSearch
import Drafting.Proofs.C4.Comments
import Drafting.Proofs.Position
import Drafting.Proofs.Mindmap.Outline
import Drafting.Proofs.Mindmap.Rendering
import Drafting.Proofs.SequenceDiagram.Registration
import Drafting.Proofs.SequenceDiagram.Alternatives
import Drafting.Proofs.Correspondence
import Drafting.Proofs.Canvas.Flat
import Drafting.Proofs.SequenceDiagram.Lifelines
import Drafting.Proofs.StateDiagram.Transitions
import Drafting.Proofs.Canvas.Stem
import Drafting.Proofs.Diagram.Endpoints
import Drafting.Proofs.Text.Lines
import Drafting.Proofs.ClassDiagram.Recovery
import Drafting.Proofs.Base64
import Drafting.Proofs.Deflate.Bits
import Drafting.Proofs.Deflate.FixedCode
import Drafting.Proofs.Deflate.Matching
import Drafting.Proofs.Document
import Drafting.Proofs.Text.LineEnds
import Drafting.Proofs.Conversion.LineEnds
import Drafting.Proofs.Deflate.Continuation
import Drafting.Proofs.ImageAddress.PlantUml
import Drafting.Proofs.Json.Recovery
import Drafting.Proofs.ImageAddress.Mermaid
import Drafting.Proofs.ClassDiagram.RelationLine
import Drafting.Proofs.ActivityDiagram.Partitions
import Drafting.Proofs.ActivityDiagram.Lanes
import Drafting.Proofs.ClassDiagram.TightArrow
import Drafting.Proofs.ClassDiagram.MemberText
import Drafting.Proofs.Text.Braces
import Drafting.Proofs.ClassDiagram.Bodies
import Drafting.Proofs.UseCaseDiagram.Rectangles
import Drafting.Proofs.UseCaseDiagram.Labels
import Drafting.Proofs.EntityDiagram.Names
import Drafting.Proofs.Text.Keyword
import Drafting.Proofs.SequenceDiagram.Messages
import Drafting.Proofs.Notes
import Drafting.Proofs.Closings
import Drafting.Proofs.Blocks
import Drafting.Proofs.SequenceDiagram.Ends
import Drafting.Proofs.UseCaseDiagram.Places
import Drafting.Proofs.IgnoredBlocks
import Drafting.Proofs.Canvas.Frames
import Drafting.Proofs.Grid
import Drafting.Proofs.Diagram.Overlaps
import Drafting.Proofs.ActivityDiagram.Places
import Drafting.Proofs.StateDiagram.Overlaps
import Drafting.Proofs.ActivityDiagram.LaneHeights
import Drafting.Proofs.ActivityDiagram.PartitionFrames
import Drafting.Proofs.Mindmap.Places
import Drafting.Proofs.Canvas.Contents
import Drafting.Proofs.Diagram.Members
import Drafting.Proofs.SequenceDiagram.Frames
import Drafting.Proofs.Text.AttributeValue
import Drafting.Proofs.ImageAddress.Theme
import Drafting.Proofs.Canvas.Operations
import Drafting.Proofs.Configuration.Assignments
import Drafting.Proofs.Number.Coordinate
import Drafting.Proofs.Configuration.Rules
