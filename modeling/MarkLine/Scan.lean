import MarkLine.CaseFault
import MarkLine.Position
import MarkLine.Text.Blank
import MarkLine.Text.Lines

/-!
# Scanning annotated texts

An annotated text is made of content lines and marker lines. A marker line holds at least one marker
and otherwise only blanks; it annotates the closest content line above it, column for column. A
marker inside a content line is ordinary text.

A scan goes through the lines once. It keeps the content lines as they are, which give the clean
source, and collects for each marker the region from its earliest to its latest marked position. So
the first position of a region never comes after its last one, even where a later marker line goes
back to an earlier column.
-/

namespace MarkLine

/-- `is_marker_line`: whether a line holds a marker and otherwise only markers and blanks. -/
def isMarkerLine (markers : List Char) (line : List Char) : Bool :=
  line.any markers.contains && line.all fun c => markers.contains c || Text.isBlank c

/-- Regions by marker, in the order in which the markers first occur. -/
abbrev Regions := List (Char × Region)

/-- Adds one marked position of a marker. -/
def Regions.mark (marker : Char) (p : Position) : Regions → Regions
  | [] => [(marker, Region.point p)]
  | (c, region) :: rest =>
    if c = marker then (c, region.widen p) :: rest else (c, region) :: Regions.mark marker p rest

/-- Adds the markers of a marker line from a column on; the line annotates the content line with
number `target`. -/
def Regions.markLine (markers : List Char) (target : Nat) : Nat → List Char → Regions → Regions
  | _, [], regions => regions
  | column, c :: rest, regions =>
    Regions.markLine markers target (column + 1) rest
      (if markers.contains c then regions.mark c ⟨target, column⟩ else regions)

/-- `MarkerScan`: what a scan has found. -/
structure Scan where
  /-- The text without its marker lines. -/
  source : String
  /-- The regions of the markers that occur. -/
  regions : Regions
  deriving DecidableEq, Repr

namespace Scan

/-- The state of a scan: how many lines it has read, the content lines among them, last first, and
the regions so far. -/
structure State where
  read : Nat
  kept : List (List Char)
  regions : Regions

/-- One round of `scan`. A marker line needs a content line above it. -/
def step (markers : List Char) (state : State) (line : List Char) : Except CaseFault State :=
  if isMarkerLine markers line then
    match state.kept with
    | [] => .error (.orphanMarkerLine (state.read + 1))
    | _ :: above =>
      .ok { read := state.read + 1
            kept := state.kept
            regions := state.regions.markLine markers above.length 0 line }
  else
    .ok { read := state.read + 1, kept := line :: state.kept, regions := state.regions }

def steps (markers : List Char) : State → List (List Char) → Except CaseFault State
  | state, [] => .ok state
  | state, line :: rest =>
    match step markers state line with
    | .ok next => steps markers next rest
    | .error fault => .error fault

/-- The region of a marker, if it occurs. -/
def region (s : Scan) (marker : Char) : Option Region :=
  s.regions.lookup marker

/-- The markers that occur, in the order of their first occurrence. -/
def markers (s : Scan) : List Char :=
  s.regions.map (·.1)

end Scan

/-- `scan`: scans a text for a set of markers. A blank cannot be a marker. -/
def scan (source : String) (markers : List Char) : Except CaseFault Scan :=
  match markers.find? Text.isBlank with
  | some marker => .error (.invalidMarker marker)
  | none =>
    match Scan.steps markers ⟨0, [], []⟩ (linesOf source) with
    | .error fault => .error fault
    | .ok state =>
      .ok { source := textOf state.kept.reverse, regions := state.regions }

/-- The marker lines among some lines, each with its own number and the number of the content line
it annotates, both counted from one; `read` lines, of which `kept` are content, come before. -/
def annotations (markers : List Char) : Nat → Nat → List (List Char) → List (Nat × Nat)
  | _, _, [] => []
  | read, kept, line :: rest =>
    if isMarkerLine markers line then (read + 1, kept) :: annotations markers (read + 1) kept rest
    else annotations markers (read + 1) (kept + 1) rest

/-- One line of trace for each marker line of a text. -/
def scanTrace (source : String) (markers : List Char) : List String :=
  (annotations markers 0 0 (linesOf source)).map fun pair =>
    "marker line " ++ toString pair.1 ++ " annotates content line " ++ toString pair.2

/-- `ParsedSource`: a clean source and the region of the one marker that was asked for. -/
structure Parsed where
  source : String
  region : Option Region
  deriving DecidableEq, Repr

/-- The list without the items that occurred before. -/
def distinct (markers : List Char) : List Char :=
  markers.foldl (fun found c => if found.contains c then found else found ++ [c]) []

/-- `parse_invalid_source`: scans a text for one marker. The others count as markers too, so they
neither shift nor widen the region of the one. -/
def parseMarked (source : String) (marker : Char) (others : List Char) : Except CaseFault Parsed :=
  match scan source (distinct (marker :: others)) with
  | .error fault => .error fault
  | .ok found => .ok { source := found.source, region := found.region marker }

end MarkLine
