import Drafting.ActivityDiagram.Flow
import Drafting.ActivityDiagram.Statement
import Drafting.Directive
import Drafting.Note

/-!
# Reading activity diagrams

The reader goes through the lines once. It keeps the decisions and the
partitions that are open, innermost first, the lane it is in, and the note it is
collecting. What is still open at the end is abandoned. The edges are found
afterwards in the list of steps.
-/

namespace Drafting.ActivityDiagram

open Text

/-- A branch of a decision, and the number of steps read before it. -/
structure Branch where
  label : String
  startIndex : Int
  deriving DecidableEq, Repr

/-- A decision whose block is open, with the branches seen so far. -/
structure OpenDecision where
  id : Int
  branches : List Branch
  deriving DecidableEq, Repr

/-- What has been read, and what is open. -/
structure Progress where
  diagram : ActivityDiagram := {}
  decisions : List OpenDecision := []
  openPartitions : List Int := []
  swimlane : Option Int := none
  note : Note := {}
  deriving DecidableEq, Repr

namespace Progress

/-- The number of steps, which is also the identifier of the next one. -/
def count (progress : Progress) : Int := progress.diagram.activities.length

/-- Adds a step in the current lane and the innermost partition. The other
properties are taken from `step`. -/
def add (progress : Progress) (step : Activity) : Progress :=
  let placed := { step with
    id := progress.count
    swimlane := progress.swimlane
    partition := progress.openPartitions.head? }
  { progress with diagram := { progress.diagram with
      activities := progress.diagram.activities ++ [placed] } }

/-- A step of a given kind whose place is still to be filled in. -/
def step (kind : ActivityKind) (label : String := "") : Activity := { id := 0, kind, label }

/-- Enters the lane of a given name, which is added where it is new. A lane keeps
the colour of its first mention. -/
def enterLane (progress : Progress) (color : Option String) (label : String) : Progress :=
  match progress.diagram.swimlanes.find? fun lane => lane.label == label with
  | some lane => { progress with swimlane := some lane.id }
  | none =>
    let lane : Swimlane :=
      { id := progress.diagram.swimlanes.length, label, color, startIndex := progress.count }
    { progress with
      diagram := { progress.diagram with swimlanes := progress.diagram.swimlanes ++ [lane] }
      swimlane := some lane.id }

/-- Opens a partition. -/
def openPartition (progress : Progress) (label : String) : Progress :=
  let group : Partition :=
    { id := progress.diagram.partitions.length, label, startIndex := progress.count }
  { progress with
    diagram := { progress.diagram with partitions := progress.diagram.partitions ++ [group] }
    openPartitions := group.id :: progress.openPartitions }

/-- Closes the innermost partition, if one is open. -/
def closePartition (progress : Progress) : Progress :=
  match progress.openPartitions with
  | [] => progress
  | innermost :: outer =>
    let close (group : Partition) : Partition :=
      if group.id = innermost then { group with endIndex := some progress.count } else group
    { progress with
      diagram := { progress.diagram with
        partitions := progress.diagram.partitions.map close }
      openPartitions := outer }

/-- Adds a decision and opens its block. -/
def openDecision (progress : Progress) (condition branch : String) : Progress :=
  let added := progress.add { step .decision condition with yesBranch := some branch }
  { added with
    decisions := ⟨progress.count, [⟨branch, added.count⟩]⟩ :: progress.decisions }

/-- Adds the marker of a further branch of the innermost decision, if one is
open. -/
def addBranch (progress : Progress) (kind : ActivityKind) (condition : Option String)
    (branch : String) : Progress :=
  match progress.decisions with
  | [] => progress
  | innermost :: outer =>
    let added := progress.add
      { step kind branch with condition, relatedDecision := some innermost.id }
    { added with
      decisions :=
        ⟨innermost.id, innermost.branches ++ [⟨branch, added.count⟩]⟩ :: outer }

/-- Closes the block of the innermost decision with a merge, if one is open. -/
def closeDecision (progress : Progress) : Progress :=
  match progress.decisions with
  | [] => progress
  | innermost :: outer =>
    { progress.add { step .merge with relatedDecision := some innermost.id } with
      decisions := outer }

/-- Carries out a statement. A loop is a decision without a block and ends in a
merge of its own. -/
def apply (progress : Progress) : Statement → Progress
  | .lane color label => progress.enterLane color label
  | .openPartition label => progress.openPartition label
  | .closePartition => progress.closePartition
  | .start => progress.add (step .start "Start")
  | .stop => progress.add (step .stop "End")
  | .fork => progress.add (step .fork)
  | .action label => progress.add (step .action label)
  | .ifThen condition branch => progress.openDecision condition branch
  | .elseIf condition branch => progress.addBranch .elseifMarker (some condition) branch
  | .elseBranch branch => progress.addBranch .elseMarker none branch
  | .endIf => progress.closeDecision
  | .whileLoop condition branch =>
    progress.add { step .decision condition with yesBranch := some (branch.getD "yes") }
  | .endWhile => progress.add (step .merge)

/-- What follows the word `note` and a position, at the beginning of a text. -/
def position? (text : List Char) : Option (List Char) := do
  let rest ← skipBlanks? (← expect "note" text)
  ["left", "right", "top", "bottom"].findSome? fun side => expect side rest

/-- The text without the positions of notes in it, where the first `skipped`
characters belong to a position already found. -/
def dropPositions : Nat → List Char → List Char
  | _, [] => []
  | skipped + 1, _ :: rest => dropPositions skipped rest
  | 0, character :: rest =>
    match position? (character :: rest) with
    | some behind => dropPositions (rest.length - behind.length) rest
    | none => character :: dropPositions 0 rest

/-- The text without the blanks at the beginnings of its lines, where `atStart`
says whether a line begins here. -/
def dropMargins : Bool → List Char → List Char
  | _, [] => []
  | atStart, character :: rest =>
    if atStart && isBlank character then dropMargins true rest
    else character :: dropMargins (character == '\n') rest

/-- The first line of a note, from the line that opens it. -/
def noteHead (line : String) : String :=
  String.ofList (trim (dropPositions 0 line.toList))

/-- Gives the text of the closed note to the last step, if there is one. -/
def attachNote (progress : Progress) : Progress :=
  let text := String.ofList (dropMargins true progress.note.text.toList)
  let activities :=
    match progress.diagram.activities.getLast? with
    | none => []
    | some last => progress.diagram.activities.dropLast ++ [{ last with note := some text }]
  { progress with
    diagram := { progress.diagram with activities }
    note := Note.closed }

/-- Reads one more line. -/
def readLine (progress : Progress) (line : String) : Progress :=
  if (expect "note " line.toList).isSome then
    { progress with note := Note.start (noteHead line) }
  else if line == "end note" then progress.attachNote
  else if progress.note.active then { progress with note := progress.note.add line }
  else
    match Statement.ofLine? line with
    | some statement => progress.apply statement
    | none => progress

/-- The diagram at the end of the source, with its edges. -/
def finish (progress : Progress) : ActivityDiagram :=
  { progress.diagram with edges := Activity.edges progress.diagram.activities }

end Progress

/-- Reads an activity diagram from its lines. -/
def ofLines (lines : List String) : ActivityDiagram :=
  ((lines.filter fun line => !isDirective directives line).foldl Progress.readLine {}).finish

end Drafting.ActivityDiagram
