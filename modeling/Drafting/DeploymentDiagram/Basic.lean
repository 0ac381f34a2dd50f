/-!
# Deployment diagrams

Nodes of various kinds and the connections between them.
-/

namespace Drafting

/-- A node. Its kind is the keyword in small letters; kinds without a shape of
their own are drawn alike. -/
structure DeploymentNode where
  id : Int
  name : String
  label : String
  kind : String := "node"
  deriving DecidableEq, Repr

/-- A connection between two nodes. -/
structure Connection where
  source : String
  target : String
  label : String := ""
  isDashed : Bool := false
  deriving DecidableEq, Repr

/-- A deployment diagram. -/
structure DeploymentDiagram where
  nodes : List DeploymentNode := []
  connections : List Connection := []
  deriving DecidableEq, Repr

end Drafting
