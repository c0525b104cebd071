import Mathlib.Algebra.Order.Ring.Rat
import SdarRuntime.Library.Checks
import SdarRuntime.Library.GreedyScan

/-!
The road planner's answer: `selectAirportRoute` takes the first candidate that runs from the start
to the destination and by the waypoints between, in their order. Whether two positions are near
each other and the digest of a candidate are parameters.
-/

namespace SdarRuntime

namespace NavigationPlanner

structure Point where
  longitude : ℚ
  latitude : ℚ
  altitude : Option ℚ
  deriving DecidableEq

inductive Density where
  | adaptive
  | dense
  | medium
  | sparse
  deriving DecidableEq

structure NavigationPlanningRequest where
  waypoints : List Point
  start : Point
  density : Option Density

structure Candidate where
  id : String
  points : List (ℚ × ℚ)
  numPoints : Int
  lengthM : ℚ
  deriving DecidableEq

structure PlannerResponse where
  target : String
  ok : Bool
  candidates : List Candidate

/-- The bounds of `point`. -/
def Point.InRange (point : Point) : Prop :=
  (-180 ≤ point.longitude ∧ point.longitude ≤ 180) ∧ -90 ≤ point.latitude ∧ point.latitude ≤ 90

instance (point : Point) : Decidable point.InRange := inferInstanceAs (Decidable (_ ∧ _))

def Point.parse (point : Point) : Except String Point :=
  if point.InRange then .ok point else .error "ZodError"

/-- `NavigationPlanningRequestSchema` -/
def NavigationPlanningRequest.WellFormed (request : NavigationPlanningRequest) : Prop :=
  (1 ≤ request.waypoints.length ∧ request.waypoints.length ≤ 64) ∧
    (∀ point ∈ request.waypoints, point.InRange) ∧ request.start.InRange

instance (request : NavigationPlanningRequest) : Decidable request.WellFormed :=
  inferInstanceAs (Decidable (_ ∧ _))

def Candidate.WellFormed (candidate : Candidate) : Prop :=
  (1 ≤ candidate.id.length ∧ candidate.id.length ≤ 128) ∧
    (2 ≤ candidate.points.length ∧ candidate.points.length ≤ 1024) ∧
    (2 ≤ candidate.numPoints ∧ candidate.numPoints ≤ 1024) ∧ 0 < candidate.lengthM

instance (candidate : Candidate) : Decidable candidate.WellFormed :=
  inferInstanceAs (Decidable (_ ∧ _))

/-- `response` -/
def PlannerResponse.WellFormed (response : PlannerResponse) : Prop :=
  response.target = "ugv" ∧ response.ok = true ∧
    (1 ≤ response.candidates.length ∧ response.candidates.length ≤ 8) ∧
    ∀ candidate ∈ response.candidates, candidate.WellFormed

instance (response : PlannerResponse) : Decidable response.WellFormed :=
  inferInstanceAs (Decidable (_ ∧ _))

namespace Airport

def longitude : ℚ := 106.81485
def latitude : ℚ := 29.7195
def xScale : ℚ := 111320
def yScale : ℚ := 110540

end Airport

def xy (point : Point) : ℚ × ℚ :=
  ((point.longitude - Airport.longitude) * Airport.xScale,
    (point.latitude - Airport.latitude) * Airport.yScale)

def geodetic (position : ℚ × ℚ) : Point :=
  { longitude := Airport.longitude + position.1 / Airport.xScale
    latitude := Airport.latitude + position.2 / Airport.yScale
    altitude := none }

/-- `distance(left, right) <= 20`, and the hash of
`JSON.stringify([AIRPORT_ROUTE_SOURCE, candidate])`. -/
structure Platform where
  near : ℚ × ℚ → ℚ × ℚ → Bool
  digest : String → Candidate → String

variable (platform : Platform)

def nearVia (via : Point) (point : ℚ × ℚ) : Bool := platform.near point (xy via)

/-- The candidate runs from the start to the destination and by the waypoints between, at points
that may be assigned to them in their order. -/
structure Accepted (request : NavigationPlanningRequest) (candidate : Candidate) : Prop where
  counted : candidate.numPoints = candidate.points.length
  starts : ∃ first, candidate.points.head? = some first ∧
    platform.near first (xy request.start) = true
  arrives : ∃ point destination, candidate.points.getLast? = some point ∧
    request.waypoints.getLast? = some destination ∧ platform.near point (xy destination) = true
  visits : ∃ places, GreedyScan.Assignment (nearVia platform) candidate.points
    request.waypoints.dropLast places

variable {platform} {response : PlannerResponse} {request : NavigationPlanningRequest}
variable {candidate : Candidate} {last : Point}

namespace Sample

def origin : Point := geodetic (0, 0)

def detour : Candidate :=
  { id := "detour"
    points := [(0, 0), (100000000, 0), (0, 0)]
    numPoints := 3
    lengthM := 1 }

def answer : PlannerResponse :=
  { target := "ugv"
    ok := true
    candidates := [detour] }

end Sample

end NavigationPlanner

end SdarRuntime
