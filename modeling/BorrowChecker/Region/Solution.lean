import BorrowChecker.Region.Condensation
import BorrowChecker.Region.Graph
import BorrowChecker.Region.Point

namespace BorrowChecker

/-!
Where lifetimes are alive.

Some points require a lifetime to be alive for its own sake.  Beyond that a
lifetime is alive wherever one that it outlives is.  The least sets that satisfy
both are obtained from the components of the outlives graph: lifetimes that
outlive each other are alive at the same points, so they share one set, and each
set takes over those of the components that its own one outlives.
-/

/-- The points at which lifetimes have to be alive for their own sake, with one
entry for each lifetime that has such a point. -/
structure Requirements where
  entries : List (Lifetime × IntSet) := []
  deriving Inhabited

namespace Requirements

def pointsOf (requirements : Requirements) (lifetime : Lifetime) : IntSet :=
  (requirements.entries.lookup lifetime).getD IntSet.empty

def addEntry (lifetime : Lifetime) (index : Int) :
    List (Lifetime × IntSet) → List (Lifetime × IntSet)
  | [] => [(lifetime, IntSet.singleton index)]
  | (other, points) :: rest =>
      if other = lifetime then (other, points.insert index) :: rest
      else (other, points) :: addEntry lifetime index rest

def add (requirements : Requirements) (lifetime : Lifetime) (index : Int) : Requirements :=
  { entries := addEntry lifetime index requirements.entries }

/-- The requirements given by pairs of a lifetime and a point. -/
def ofList (pairs : List (Lifetime × Int)) : Requirements :=
  pairs.foldl (fun requirements pair => requirements.add pair.1 pair.2) {}

end Requirements

/-- The points at which each known lifetime is alive. -/
structure LifetimeSets where
  space : PointSpace
  sets : List (Lifetime × IntSet)
  deriving Inhabited

namespace LifetimeSets

def set? (solution : LifetimeSets) (lifetime : Lifetime) : Option IntSet :=
  solution.sets.lookup lifetime

/-- Whether a lifetime is alive at a numbered point.  Unknown lifetimes are
alive nowhere. -/
def isAliveAt (solution : LifetimeSets) (lifetime : Lifetime) (index : Int) : Bool :=
  (solution.set? lifetime).any fun set => set.contains index

/-- Whether a lifetime is alive at a point.  The point is looked up only if the
lifetime is known. -/
def isAlive (solution : LifetimeSets) (lifetime : Lifetime) (point : Point) :
    Except Fault Bool :=
  match solution.set? lifetime with
  | none => .ok false
  | some set => return set.contains (← solution.space.index point)

/-- The points where a lifetime is alive, in the order of their numbers. -/
def points (solution : LifetimeSets) (lifetime : Lifetime) : Except Fault (List Point) :=
  match solution.set? lifetime with
  | none => .ok []
  | some set => set.toList.mapM solution.space.point

end LifetimeSets

namespace OutlivesGraph

/-- Give the lifetimes with requirements a number as well. -/
def withRequired (graph : OutlivesGraph) (requirements : Requirements) : OutlivesGraph :=
  (requirements.entries.map Prod.fst).foldl register graph

/-- The least sets of points that satisfy the requirements and in which every
lifetime is alive wherever one that it outlives is.  `search` finds the
components of a graph. -/
def solveWith (search : (size : Nat) → Digraph size → List (List Nat)) (graph : OutlivesGraph)
    (requirements : Requirements) (space : PointSpace) : Except Fault LifetimeSets := do
  let known := (graph.withRequired requirements).lifetimes
  let sets ← Condensation.propagate search known.length graph.arcList fun number =>
    return requirements.pointsOf (← requireAt known number)
  return { space, sets := known.zip sets }

/-- Solve with the components that are found by searching from every lifetime. -/
def solve (graph : OutlivesGraph) (requirements : Requirements) (space : PointSpace) :
    Except Fault LifetimeSets :=
  graph.solveWith (fun _ => Digraph.components) requirements space

end OutlivesGraph
end BorrowChecker
