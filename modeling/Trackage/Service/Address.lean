import Trackage.Service.Host
import Trackage.Text.Octets

/-!
Addresses of calls. An address is cut into scheme, authority, path and query; one that does not name
a host is taken below the address of the service. Steps up and down are carried out on the written
path, and only then are its escapes made characters. An address is cut as its text is spelled, and its
parts are escaped character by character.
-/

namespace Trackage

/-- Where a call goes: the place of the service as the call names it, the path, and the query as it
is written. -/
structure Address where
  origin : String
  path : String
  query : String
deriving DecidableEq, Repr

namespace Address

/-- What stands before the first separator of a text, and what stands after it if there is one. -/
def cutAtChar (separator : Char) (text : List Char) : List Char × Option (List Char) :=
  let before := text.takeWhile (· != separator)
  (before, if before.length = text.length then none else some (text.drop (before.length + 1)))

/-! Escapes. -/

/-- The bytes of a text in which an escape stands for one byte. -/
def escapedOctets : List Char → List Nat
  | [] => []
  | '%' :: high :: low :: rest =>
    match Json.hexValue? high, Json.hexValue? low with
    | some high, some low => (high * 16 + low) :: escapedOctets rest
    | _, _ => '%'.toNat :: escapedOctets (high :: low :: rest)
  | c :: rest => Text.charOctets [c] ++ escapedOctets rest

/-- The text that escapes stand for; what is no text in them is replaced. -/
def unescape (text : List Char) : String := Text.ofOctets (escapedOctets text)

/-- The escape of a byte. -/
def escapeOctet (byte : Nat) : List Char := '%' :: (Text.hexDigits 2 byte).map Char.toUpper

/-- Escapes all characters that do not pass a test. -/
def escape (safe : Char → Bool) (text : List Char) : List Char :=
  text.flatMap fun c => if safe c then [c] else (Text.charOctets [c]).flatMap escapeOctet

/-- Escapes all characters of a spelled text that do not pass a test. -/
def escapeSpelled (safe : Char → Bool) (text : List Char) : List Char :=
  escape safe (Text.characters (String.ofList text))

/-- The characters that are never escaped. -/
def isUnreserved (c : Char) : Bool := c.isAlphanum || "_.-~".toList.contains c

/-- The characters that stay as they are in a query. -/
def isQueryChar (c : Char) : Bool :=
  32 < c.toNat && c.toNat < 127 && !"\"#<>".toList.contains c

/-- The characters that stay as they are in a path. -/
def isPathChar (c : Char) : Bool := isQueryChar c && !"?`\x7b\x7d".toList.contains c

/-- The characters that stay as they are in the name of a host. -/
def isHostChar (c : Char) : Bool :=
  isUnreserved c || "!$&'()*+,;=\"`\x7b\x7d%|\\".toList.contains c

/-- The characters that stay as they are in the path that a call is sent on to. -/
def isSentPathChar (c : Char) : Bool := isUnreserved c || "/:@!$&'()*+,;=".toList.contains c

/-- The characters that stay as they are in the whole address that a call is sent on to. -/
def isAddressChar (c : Char) : Bool :=
  isUnreserved c || ":/%#?=@[]!$&'()*+,;".toList.contains c

/-- A key or a value of a query, with a plus sign for a space. -/
def queryPart (text : String) : List Char :=
  (escape (fun c => isUnreserved c || c == ' ') (Text.characters text)).map fun c =>
    if c = ' ' then '+' else c

/-- A query of pairs. -/
def queryText (pairs : List (String × String)) : String :=
  "&".intercalate (pairs.map fun (key, value) =>
    String.ofList (queryPart key ++ '=' :: queryPart value))

/-- The text of a key or a value of a query. -/
def readQueryPart (text : List Char) : String :=
  unescape (text.map fun c => if c = '+' then ' ' else c)

/-- The pairs of a query. A key without a value has an empty one. -/
def queryPairs (query : String) : List (String × String) :=
  ((Text.partsAt '&' query.toList).filter (!·.isEmpty)).map fun pair =>
    let (key, value) := cutAtChar '=' pair
    (readQueryPart key, readQueryPart (value.getD []))

/-! Parts of an address. -/

/-- The parts of an address as they are written. -/
structure Parts where
  scheme : List Char
  authority : List Char
  path : List Char
  query : Option (List Char)

def isSchemeChar (c : Char) : Bool := c.isAlphanum || "+.-".toList.contains c

/-- The scheme in front of a colon, which may be empty, and what comes after it. -/
def cutScheme (text : List Char) : List Char × List Char :=
  let scheme := text.takeWhile isSchemeChar
  match scheme, text.drop scheme.length with
  | [], ':' :: rest => ([], rest)
  | first :: _, ':' :: rest => if first.isAlpha then (scheme, rest) else ([], text)
  | _, _ => ([], text)

/-- The authority behind two slashes, and what comes after it. -/
def cutAuthority : List Char → List Char × List Char
  | '/' :: '/' :: rest =>
    let authority := rest.takeWhile fun c => c != '/' && c != '?' && c != '#'
    (authority, rest.drop authority.length)
  | text => ([], text)

/-- The parts of an address; a fragment is left out. -/
def partsOf (text : List Char) : Parts :=
  let (scheme, rest) := cutScheme text
  let (authority, rest) := cutAuthority rest
  let (rest, _) := cutAtChar '#' rest
  let (path, query) := cutAtChar '?' rest
  ⟨scheme, authority, path, query⟩

/-- The number behind the host that goes without saying for a scheme. -/
def usualPort? (scheme : String) : Option Int :=
  [("ftp", 21), ("http", 80), ("https", 443), ("ws", 80), ("wss", 443)].lookup scheme

/-- A host as it is sent: numbers as they are, and a name in ASCII. -/
def sentHost (host : List Char) : Except AddressError String :=
  let raw := String.ofList host
  let row := Text.characters raw
  if Host.looksLikeFour row then
    if Host.isFour row then .ok raw else .error (.badFourNumbers raw)
  else if row.head? = some '[' ∧ row.getLast? = some ']' then
    if Host.isEight (row.drop 1).dropLast then .ok raw else .error (.badEightNumbers raw)
  else if row.all Text.Punycode.isAscii then
    .ok (String.ofList (escape isHostChar (row.map Char.toLower)))
  else
    match HostName.inAscii? row with
    | some name => .ok (String.ofList name)
    | none => .error (.badName raw)

/-- The host of an authority, with the number behind it if that does not go without saying, and
whether there is anything in the authority at all. -/
def hostOf (scheme authority : List Char) : Except AddressError (String × Option Int × Bool) := do
  -- A name in front of the last at sign is no part of the host.
  let place := (Text.partsAt '@' authority).getLastD []
  let isNumbered := place.head? = some '[' ∧ place.contains ']'
  let host :=
    if isNumbered then (place.reverse.dropWhile (· != ']')).reverse
    else place.takeWhile (· != ':')
  let digits := match place.drop host.length with
    | ':' :: digits => digits
    | digits => digits
  let host ← sentHost host
  let named := host != "" || place.length + 1 < authority.length
  if digits.isEmpty then return (host, none, named)
  match Text.readNumeral (String.ofList digits) with
  | .error _ => throw (.badPort (String.ofList digits))
  | .ok number =>
    if usualPort? (String.ofList scheme) = some number then return (host, none, named)
    else return (host, some number, true)

/-- Carries out the steps in the parts of a path. The part in front of a leading slash is never
stepped out of. -/
def walk (taken : List (List Char)) : List (List Char) → List (List Char)
  | [] => taken
  | part :: parts =>
    if part = ['.'] then walk taken parts
    else if part = ['.', '.'] then walk (if taken = [[]] then taken else taken.dropLast) parts
    else walk (taken ++ [part]) parts

/-- The path without steps. -/
def withoutSteps (path : List Char) : List Char :=
  ['/'].intercalate (walk [] (Text.partsAt '/' path))

/-! Reading. -/

/-- The scheme and the host of the service. -/
def serviceScheme : String := "http"
def serviceHost : String := "t"

/-- The most characters of an address, and of each of its parts. -/
def longest : Nat := 65536

/-- Refuses a row of characters that is too long or that holds a control of ASCII. -/
def checkCharacters (row : List Char) : Except AddressError Unit :=
  if longest < row.length then .error .tooLong
  else match row.findIdx? fun c => c.toNat < 32 || c.toNat == 127 with
    | some position => .error (.notPrintable (row.getD position ' ') position)
    | none => .ok ()

/-- Refuses parts that are too long once they are escaped. -/
def checkLengths (path : List Char) (query : Option (List Char)) : Except AddressError Unit :=
  if longest < path.length then .error (.partTooLong "path")
  else if longest < (query.getD []).length then .error (.partTooLong "query")
  else .ok ()

/-- Refuses a path that could be taken for something else where there is no host. -/
def checkPlain (path : List Char) : Except AddressError Unit :=
  if ['/', '/'].isPrefixOf path then .error .doubleSlash
  else if [':'].isPrefixOf path then .error .leadingColon
  else .ok ()

/-- Whether all pairs of a query can be put into bytes. -/
def areWhole (pairs : List (String × String)) : Bool :=
  pairs.all fun (key, value) => Text.isWhole key && Text.isWhole value

/-- Reads an address. Given pairs take the place of its own query, also if there are none. -/
def read (text : String) (pairs : Option (List (String × String))) : Except Fault Address := do
  let refusing {α : Type} (result : Except AddressError α) : Except Fault α :=
    result.mapError Fault.address
  refusing (checkCharacters (Text.characters text))
  let parts := partsOf text.toList
  let (host, number, named) ← refusing (hostOf parts.scheme parts.authority)
  let isPlain := parts.scheme.isEmpty && !named
  if isPlain then refusing (checkPlain parts.path)
  unless Text.isWhole text do throw .notWhole
  let path := escapeSpelled isPathChar (if isPlain then parts.path else withoutSteps parts.path)
  let query := parts.query.map (escapeSpelled isQueryChar)
  let isAbsolute := !parts.scheme.isEmpty && host != ""
  -- The name of a zone behind eight numbers is no name of a host and is not put into ASCII.
  if isAbsolute && !host.toList.all Text.Punycode.isAscii then throw .notWhole
  let origin :=
    if isAbsolute then
      let behind := number.elim "" fun number => s!":{number}"
      s!"{String.ofList (parts.scheme.map Char.toLower)}://{host}{behind}"
    else s!"{serviceScheme}://{serviceHost}"
  let path := if isAbsolute then path else '/' :: path.dropWhile (· == '/')
  unless isAbsolute do refusing (checkLengths path query)
  let query ← match pairs with
    | none => pure query
    | some pairs =>
      unless areWhole pairs do throw .notWhole
      let query := if pairs.isEmpty then none else some (queryText pairs).toList
      refusing (checkLengths path query)
      pure query
  let path := withoutSteps path
  return ⟨origin, unescape (if path.isEmpty then ['/'] else path), String.ofList (query.getD [])⟩

/-- The address of another path, for a call that is sent on. -/
def sentOn (address : Address) (path : String) : String :=
  let path := String.ofList (escapeSpelled isSentPathChar path.toList)
  let query := if address.query = "" then "" else "?" ++ address.query
  String.ofList (escape isAddressChar (address.origin ++ path ++ query).toList)

end Address

end Trackage
