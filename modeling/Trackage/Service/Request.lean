import Trackage.Json.Value

/-!
Requests to the service, with all their parts read and checked for kind. Whether a request makes
sense for the tracks and trains there are is left to the service.
-/

namespace Trackage

/-- A segment as a request names it. -/
structure SegmentRequest where
  junction : String
  branch : String
  start : Int
  stop : Int
deriving DecidableEq, Repr

/-- A location as a request names it. -/
structure LocationRequest where
  junction : String
  branch : String
  offset : Int
deriving DecidableEq, Repr

/-- An end-point as a request names it. -/
def departingJson (junction branch : String) : Json :=
  .object [("junction", .string junction), ("branch", .string branch)]

def SegmentRequest.toJson (s : SegmentRequest) : Json :=
  .object [
    ("departing", departingJson s.junction s.branch), ("start", .int s.start), ("end", .int s.stop)]

def LocationRequest.toJson (l : LocationRequest) : Json :=
  .object [("departing", departingJson l.junction l.branch), ("offset", .int l.offset)]

/-- The routes that trains occupy and the routes that they request. -/
structure RoutesRequest where
  occupied : List (List SegmentRequest)
  requested : List (List SegmentRequest)
deriving DecidableEq, Repr

/-- Routes as untyped data. -/
def rowsToJson (rows : List (List SegmentRequest)) : Json := .ofList (.ofList SegmentRequest.toJson) rows

def RoutesRequest.toJson (routes : RoutesRequest) : Json :=
  .object [("occupied", rowsToJson routes.occupied), ("requested", rowsToJson routes.requested)]

/-- What the service can be asked for. -/
inductive Request where
  | demo
  | allocate (definition : String) (routes : RoutesRequest)
  | compareLocations (definition : String) (a b : LocationRequest)
  | createTrack (name definition : String)
  | listTracks (offset limit : Int)
  | showTrack (track : Int)
  | updateTrack (track : Int) (name definition : Option String)
  | deleteTrack (track : Int)
  | allocateOnTrack (track : Int) (routes : RoutesRequest) (name comment : Option String)
  | listRuns (track offset limit : Int)
  | showRun (run : Int)
  | deleteRun (run : Int)
  | runTable (run : Int)
  | addTrain (track : Int) (route : List SegmentRequest) (start stop : Int)
  | listTrains (track : Int)
  | updateTrain (track identifier start stop : Int)
  | extendTrains (track : Int) (targets : List (Int × Int))
deriving DecidableEq, Repr

/-- What the service answers: data, or a table as a text, with a file name when it has one. -/
inductive Reply where
  | data (body : Json)
  | table (text : String) (fileName : Option String)

end Trackage
