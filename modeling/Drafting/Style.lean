/-!
# Styles shared by several kinds of drawings

A style is a list of settings, each ended by a semicolon. Boxes take their
colours from a small palette of fillings with matching outlines.
-/

namespace Drafting

/-- The colours of a box. -/
structure Palette where
  fill : String
  stroke : String
  deriving DecidableEq, Repr

namespace Palette

/-- Blue, for ordinary boxes. -/
def blue : Palette := ⟨"#dae8fc", "#6c8ebf"⟩

/-- Green. -/
def green : Palette := ⟨"#d5e8d4", "#82b366"⟩

/-- Yellow. -/
def yellow : Palette := ⟨"#fff2cc", "#d6b656"⟩

/-- Purple. -/
def purple : Palette := ⟨"#e1d5e7", "#9673a6"⟩

/-- Grey, for what stands in the background. -/
def grey : Palette := ⟨"#f5f5f5", "#666666"⟩

end Palette

namespace Style

/-- The line of a member in a box. -/
def row : String :=
  "text;strokeColor=none;fillColor=none;align=left;verticalAlign=top;spacingLeft=4;" ++
  "spacingRight=4;overflow=hidden;rotatable=0;points=[[0,0.5],[1,0.5]];" ++
  "portConstraint=eastwest;"

/-- The line of a member that is underlined. -/
def underlinedRow : String := row ++ "fontStyle=4;"

/-- The line between attributes and methods. -/
def divider : String :=
  "line;strokeWidth=1;fillColor=none;align=left;verticalAlign=middle;spacingTop=-1;" ++
  "spacingLeft=3;spacingRight=3;rotatable=0;labelPosition=right;points=[];" ++
  "portConstraint=eastwest;"

/-- A box with a header and rows below it. -/
def stackedBox (palette : Palette) (collapsible : String) : String :=
  "swimlane;fontStyle=1;align=center;verticalAlign=top;childLayout=stackLayout;horizontal=1;" ++
  "startSize=26;horizontalStack=0;resizeParent=1;resizeParentMax=0;resizeLast=0;collapsible=" ++
  collapsible ++ ";marginBottom=0;fillColor=" ++ palette.fill ++ ";strokeColor=" ++
  palette.stroke ++ ";"

/-- The figure of a person. -/
def actor : String :=
  "shape=umlActor;verticalLabelPosition=bottom;verticalAlign=top;html=1;outlineConnect=0;"

/-- A sheet with a note on it. -/
def note : String :=
  "shape=note;whiteSpace=wrap;html=1;backgroundOutline=1;fillColor=#fff2cc;" ++
  "strokeColor=#d6b656;size=14;align=left;spacingLeft=5;fontSize=10;"

/-- A rounded box in the colours of a palette. -/
def roundedBox (palette : Palette) : String :=
  "rounded=1;whiteSpace=wrap;html=1;fillColor=" ++ palette.fill ++ ";strokeColor=" ++
  palette.stroke ++ ";"

end Style

end Drafting
