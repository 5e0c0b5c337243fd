import Trackage.Json.Reader
import Trackage.Route
import Trackage.Track.Definition

/-!
Everything that can go wrong, in two layers. A domain error is what the rules of the railway refuse;
a fault is a domain error or data that cannot be worked with at all.
-/

namespace Trackage

/-- Why the offsets of a train are refused. -/
inductive Rejection where
  | offTrack
  | badOffsets
  | conflict
deriving DecidableEq, Repr

def Rejection.message : Rejection → String
  | .offTrack => "The route is not on the system's track."
  | .badOffsets => "Invalid Start Offset and/or End Offset for the route."
  | .conflict =>
    "The sub-route intersects with some sub-routes currently allocated to other trains."

/-- Why occupied and requested routes do not go together. -/
inductive ScenarioError where
  | countsDiffer (occupied requested : Nat)
  | occupiedIntersect (first second : Nat)
deriving DecidableEq, Repr

def ScenarioError.message : ScenarioError → String
  | .countsDiffer occupied requested =>
    s!"Got {occupied} occupied routes but {requested} requested routes."
  | .occupiedIntersect first second =>
    s!"The occupied routes of trains {first} and {second} intersect."

/-- What the rules of the railway refuse. -/
inductive DomainError where
  | badSection (error : SectionError)
  | notAnEnd (endPoint : Option EndPoint) (on : Section)
  | track (error : TrackError)
  | location (error : LocationError)
  | segment (error : SegmentError)
  | route (error : RouteError)
  | format (error : FormatError)
  | rejected (error : Rejection)
  | unknownBranch (branch junction : String)
  | scenario (error : ScenarioError)

def DomainError.message : DomainError → String
  | .badSection error => error.message
  | .notAnEnd endPoint on => (SegmentError.notAnEndPoint endPoint on).message
  | .track error => error.message
  | .location error => error.message
  | .segment error => error.message
  | .route error => error.message
  | .format error => error.message
  | .rejected error => error.message
  | .unknownBranch branch junction => s!"Unknown branch {branch} at junction {junction}"
  | .scenario error => error.message

/-- A value that has the right kind but cannot be used. -/
inductive ValueError where
  | numeral (error : Text.NumeralError)
  | notANumber
  | emptyRange
  | zeroStep
  | routeLine (number : Nat)
  | tooFewEnds (count : Nat)
  | tooManyEnds
  /-- A path holds the character that no path can hold. -/
  | nulInPath
  /-- A number that is no finite one is to be sent. -/
  | notFinite
  /-- Infinities of both signs are to be added up. -/
  | oppositeInfinities

def ValueError.message : ValueError → String
  | .numeral error => error.message
  | .notANumber => "cannot convert float NaN to integer"
  | .emptyRange => "empty range for randrange()"
  | .zeroStep => "range() arg 3 must not be zero"
  | .routeLine number =>
    s!"Route line {number}: expected '<junction> <branch> <start> <end>'"
  | .tooFewEnds count => s!"not enough values to unpack (expected 2, got {count})"
  | .tooManyEnds => "too many values to unpack (expected 2)"
  | .nulInPath => "embedded null byte"
  | .notFinite => "Out of range float values are not JSON compliant"
  | .oppositeInfinities => "-inf + inf in fsum"

/-- Why a file cannot be read or written. -/
inductive FileProblem where
  | noSuchFile
  | isDirectory
  | notADirectory
  | nameTooLong
deriving DecidableEq, Repr

/-- A file and what is wrong with it. -/
structure FileError where
  problem : FileProblem
  path : String
deriving DecidableEq, Repr

def FileError.message (error : FileError) : String :=
  let shown := Text.quoted error.path
  match error.problem with
  | .noSuchFile => s!"[Errno 2] No such file or directory: {shown}"
  | .isDirectory => s!"[Errno 21] Is a directory: {shown}"
  | .notADirectory => s!"[Errno 20] Not a directory: {shown}"
  | .nameTooLong => s!"[Errno 36] File name too long: {shown}"

/-- Why an address leads nowhere. -/
inductive AddressError where
  | tooLong
  | partTooLong (part : String)
  | notPrintable (c : Char) (position : Nat)
  | badPort (digits : String)
  /-- A host looks like four numbers but is none of that kind. -/
  | badFourNumbers (host : String)
  /-- A host in brackets is no row of eight numbers. -/
  | badEightNumbers (host : String)
  /-- A host has a label that no name may have. -/
  | badName (host : String)
  | doubleSlash
  | leadingColon
deriving DecidableEq, Repr

def AddressError.message : AddressError → String
  | .tooLong => "URL too long"
  | .partTooLong part => s!"URL component '{part}' too long"
  | .notPrintable c position =>
    s!"Invalid non-printable ASCII character in URL, {Text.quoted (String.singleton c)} " ++
      s!"at position {position}."
  | .badPort digits => s!"Invalid port: {Text.quoted digits}"
  | .badFourNumbers host => s!"Invalid IPv4 address: {Text.quoted host}"
  | .badEightNumbers host => s!"Invalid IPv6 address: {Text.quoted host}"
  | .badName host => s!"Invalid IDNA hostname: {Text.quoted host}"
  | .doubleSlash => "Relative URLs cannot have a path starting with '//'"
  | .leadingColon => "Relative URLs cannot have a path starting with ':'"

/-- The name by which the store knows what it cannot keep. -/
def Container.storedName : Container → String
  | .array => "list"
  | .object => "dict"

/-- Why an operation has no answer. -/
inductive Fault where
  | domain (error : DomainError)
  /-- An object has no field of this name, or a collection no entry of this name. -/
  | missingKey (key : String)
  | value (error : ValueError)
  /-- A value is of a kind that the operation does not work on. -/
  | wrongKind
  /-- A value lacks a part that values of another kind have. -/
  | noMember
  | indexOutOfRange
  /-- A number is beyond the range of the numbers that the operation works with. -/
  | overflow
  /-- A stored row must not be like this. -/
  | constraint (message : String)
  | file (error : FileError)
  | notText
  /-- A text holds half a pair, which cannot be put into bytes. -/
  | notWhole
  | malformedData
  /-- Data is nested too deep. -/
  | tooDeep (container : Container)
  /-- A value of a kind that cannot be stored stands at this place among the stored ones. -/
  | notStorable (place : Nat) (container : Container)
  | address (error : AddressError)
  /-- A service answered with this status. -/
  | refusedRequest (status : Nat)
  /-- A service could not be reached by a method. -/
  | unreachable (method : String)

namespace Fault

/-- What a fault says; some kinds of fault say nothing of their own. -/
def message? : Fault → Option String
  | .domain error => some error.message
  | .missingKey key => some (Text.quoted key)
  | .value error => some error.message
  | .constraint message => some message
  | .file error => some error.message
  | .tooDeep container => some container.tooDeepText
  | .notStorable place container =>
    some s!"Error binding parameter {place}: type '{container.storedName}' is not supported"
  | .address error => some error.message
  | .refusedRequest status => some s!"status {status}"
  | .unreachable method => some s!"{method} failed"
  | .wrongKind | .noMember | .indexOutOfRange | .overflow | .notText | .notWhole
  | .malformedData => none

/-- The faults that a service answers in the body: domain errors and missing keys. -/
def isAnswered : Fault → Bool
  | .domain _ | .missingKey _ => true
  | _ => false

def ofNumeral (error : Text.NumeralError) : Fault := .value (.numeral error)

def ofRaised : Raised DomainError → Fault
  | .error error => .domain error
  | .unwritable => ofNumeral .unwritable

def ofDefinition : DefinitionError → Fault
  | .format error => .domain (.format error)
  | .numeral error => ofNumeral error

def ofJsonError : JsonError → Fault
  | .malformed => .malformedData
  | .numeral error => ofNumeral error
  | .tooDeep container => .tooDeep container

end Fault

/-- Takes what was raised for a fault. -/
def orFault (result : Except (Raised DomainError) α) : Except Fault α :=
  result.mapError .ofRaised

end Trackage
