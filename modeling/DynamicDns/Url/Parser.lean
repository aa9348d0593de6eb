import DynamicDns.Text.Blank
import DynamicDns.Url.Basic
import DynamicDns.Url.Domain

/-!
# Reading URLs

A text is read as a browser reads it: blanks around it and line breaks in it are dropped, the schemes
of the web take backslashes for slashes and need a host, dot segments are resolved, and characters
that a part cannot hold are percent-encoded. Without a scheme a text is relative, and there is nothing
here for it to be relative to.
-/

namespace DynamicDns.Url

/-- Why a text is not a URL. -/
inductive Fault where
  | relative
  | emptyHost
  | badPort
  | badIpv4
  | badIpv6
  | badDomain
  | badHostCharacter
  deriving DecidableEq

def Fault.text : Fault → String
  | .relative => "relative URL without a base"
  | .emptyHost => "empty host"
  | .badPort => "invalid port number"
  | .badIpv4 => "invalid IPv4 address"
  | .badIpv6 => "invalid IPv6 address"
  | .badDomain => "invalid international domain name"
  | .badHostCharacter => "invalid domain character"

/-! ### Schemes -/

/-- Which rules a scheme follows. -/
inductive SchemeClass where
  | web
  | file
  | other
  deriving DecidableEq

def schemeClass (scheme : String) : SchemeClass :=
  if ["http", "https", "ws", "wss", "ftp"].contains scheme then .web
  else if scheme = "file" then .file
  else .other

/-- The port that a scheme uses unless another one is given. -/
def usualPort (scheme : String) : Option Nat :=
  if scheme = "http" ∨ scheme = "ws" then some 80
  else if scheme = "https" ∨ scheme = "wss" then some 443
  else if scheme = "ftp" then some 21
  else none

def isSchemeChar (c : Char) : Bool := c.isAlphanum || c = '+' || c = '-' || c = '.'

/-- The scheme in front of a text, in lower case, and what follows its colon. -/
def scheme? (text : List Char) : Option (String × List Char) :=
  match text with
  | [] => none
  | c :: _ =>
    if c.isAlpha then
      match text.dropWhile isSchemeChar with
      | ':' :: rest => some (String.ofList ((text.takeWhile isSchemeChar).map Char.toLower), rest)
      | _ => none
    else none

/-! ### Which characters are encoded where -/

def isControlOrBeyond (c : Char) : Bool := c.toNat < 32 || 126 < c.toNat

def inFragment (c : Char) : Bool := isControlOrBeyond c || " \"<>`".toList.contains c

def inPath (c : Char) : Bool := inFragment c || "#?\x7b\x7d".toList.contains c

def inUserinfo (c : Char) : Bool := inPath c || "/:;=@[\\]^|".toList.contains c

def inQuery (cls : SchemeClass) (c : Char) : Bool :=
  isControlOrBeyond c || " \"#<>".toList.contains c || (cls ≠ .other && c.toNat = 39)

def escaped (set : Char → Bool) (text : List Char) : String :=
  String.ofList (Percent.escape set text)

/-! ### Hosts -/

/-- A number of an IPv4 address, decimal, octal or hexadecimal: `none` if it is none, and
`some none` if it does not fit into 32 bits. -/
def ipv4Number? (text : List Char) : Option (Option Nat) :=
  match text with
  | [] => none
  | _ =>
    let (base, digits) := match text with
      | '0' :: 'x' :: rest => (16, rest)
      | '0' :: 'X' :: rest => (16, rest)
      | '0' :: d :: rest => (8, d :: rest)
      | _ => (10, text)
    match digits.mapM fun c => (Percent.hexValue? c).filter (· < base) with
    | none => none
    | some values =>
      let n := values.foldl (fun n d => n * base + d) 0
      some (if n < UInt32.size then some n else none)

/-- The parts of a domain without an empty last one. -/
def domainParts (domain : List Char) : List (List Char) :=
  let parts := Domain.splitAt '.' domain
  if parts.getLast? = some [] then parts.dropLast else parts

/-- Whether the last part of a domain makes it an IPv4 address, or a broken one. -/
def endsInNumber (domain : List Char) : Bool :=
  let parts := Domain.splitAt '.' domain
  let last := if parts.getLast? = some [] then parts.dropLast.getLast? else parts.getLast?
  match last with
  | none => false
  | some part => (!part.isEmpty && part.all Char.isDigit) || (ipv4Number? part).isSome

/-- The address of which all numbers but the last are octets. -/
def ipv4 (domain : List Char) : Except Fault Host := do
  let parts := domainParts domain
  if 4 < parts.length then throw .badIpv4
  match parts.mapM fun part => (ipv4Number? part).bind id with
  | none => throw .badIpv4
  | some numbers =>
    let octets := numbers.dropLast
    let last := numbers.getLast?.getD 0
    let room := Nat.pow 256 (4 - octets.length)
    if room ≤ last ∨ octets.any (255 < ·) then throw .badIpv4
    let high := octets.foldl (fun n octet => n * 256 + octet) 0
    let value := UInt32.ofNat (high * room + last)
    return .v4 (value >>> 24).toUInt8 (value >>> 16).toUInt8 (value >>> 8).toUInt8 value.toUInt8

def bracketed (text : List Char) : Except Fault Host :=
  if text.getLast? = some ']' then
    match IpAddress.v6? (text.drop 1).dropLast with
    | some groups => return .v6 groups
    | none => throw .badIpv6
  else throw .badIpv6

def readHost (text : List Char) : Except Fault Host := do
  if text.head? = some '[' then bracketed text
  else
    let octets := Percent.unescape (Utf8.encode (String.ofList text))
    match (Utf8.decode? octets).bind fun domain => Domain.ascii? domain.toList with
    | none => throw .badDomain
    | some domain =>
      if domain.isEmpty then throw .emptyHost
      if endsInNumber domain then ipv4 domain else return .domain (String.ofList domain)

def readOpaqueHost (text : List Char) : Except Fault Host :=
  if text.head? = some '[' then bracketed text
  else if text.any fun c => c.toNat = 0 || " #/:<>?@[\\]^|".toList.contains c then
    throw .badHostCharacter
  else return .domain (escaped isControlOrBeyond text)

/-- What stands before the first colon outside brackets, and what follows it. -/
def splitPort : Bool → List Char → List Char × Option (List Char)
  | _, [] => ([], none)
  | inside, c :: rest =>
    if c = ':' ∧ !inside then ([], some rest)
    else
      let insideNext := c = '[' || (inside && c ≠ ']')
      let (host, port) := splitPort insideNext rest
      (c :: host, port)

def readPort (scheme : String) (text : List Char) : Except Fault (Option Nat) :=
  if text.all Char.isDigit then
    let n := text.foldl (fun n c => n * 10 + (c.toNat - 48)) 0
    if 65535 < n then throw .badPort
    else return if text.isEmpty ∨ usualPort scheme = some n then none else some n
  else throw .badPort

/-- What stands before and behind the last `@`. -/
def splitUser (text : List Char) : Option (List Char) × List Char :=
  match text.reverse.dropWhile (· ≠ '@') with
  | [] => (none, text)
  | _ :: user => (some user.reverse, (text.reverse.takeWhile (· ≠ '@')).reverse)

/-- The username and the password, which is there only if it is not empty. -/
def readUser (text : List Char) : String × Option String :=
  let name := text.takeWhile (· ≠ ':')
  let password := (text.dropWhile (· ≠ ':')).drop 1
  (escaped inUserinfo name, if password.isEmpty then none else some (escaped inUserinfo password))

def readAuthority (scheme : String) (text : List Char) (more : Bool) : Except Fault Authority := do
  let (user?, rest) := splitUser text
  let (hostText, portText) := splitPort false rest
  let (username, password) := readUser (user?.getD [])
  let web := schemeClass scheme = .web
  if hostText.isEmpty then
    let named := username ≠ "" ∨ password.isSome
    if web ∨ portText.isSome ∨ named ∨ (user?.isSome ∧ more) then throw .emptyHost
  let host ← if web then readHost hostText else readOpaqueHost hostText
  let port ← readPort scheme (portText.getD [])
  return ⟨username, password, host, port⟩

/-! ### Paths -/

def isSeparator (cls : SchemeClass) (c : Char) : Bool := c = '/' || (cls ≠ .other && c = '\\')

/-- The segments of a path, its separators taken for slashes. -/
def segments (cls : SchemeClass) (text : List Char) : List (List Char) :=
  Domain.splitAt '/' (text.map fun c => if isSeparator cls c then '/' else c)

def showPoints : List Char → List Char
  | '%' :: '2' :: 'e' :: rest => '.' :: showPoints rest
  | '%' :: '2' :: 'E' :: rest => '.' :: showPoints rest
  | c :: rest => c :: showPoints rest
  | [] => []

def isDrive (segment : List Char) : Bool :=
  match segment with
  | [letter, mark] => letter.isAlpha && (mark = ':' || mark = '|')
  | _ => false

/-- Goes up one segment, except from a drive. -/
def goUp (cls : SchemeClass) (reversed : List (List Char)) : List (List Char) :=
  match reversed with
  | [segment] => if cls = .file ∧ isDrive segment then reversed else []
  | _ :: rest => rest
  | [] => []

/-- Resolves dot segments; the segments so far are reversed. -/
def resolve (cls : SchemeClass) (reversed : List (List Char)) :
    List (List Char) → List (List Char)
  | [] => reversed.reverse
  | segment :: rest =>
    let ending := if rest.isEmpty then [[]] else []
    if showPoints segment = ['.', '.'] then resolve cls (ending ++ goUp cls reversed) rest
    else if showPoints segment = ['.'] then resolve cls (ending ++ reversed) rest
    else
      let shown := if cls = .file ∧ reversed.isEmpty ∧ isDrive segment then
          segment.take 1 ++ [':']
        else Percent.escape inPath segment
      resolve cls (shown :: reversed) rest

def joinPath (parts : List (List Char)) : String :=
  String.ofList ('/' :: List.intercalate ['/'] parts)

/-- The path behind an authority of the web, which is never empty. -/
def webPath (text : List Char) : String := joinPath (resolve .web [] (segments .web (text.drop 1)))

/-- The path of a file, without empty segments in front. -/
def filePath (text : List Char) : String :=
  let parts := resolve .file [] ((segments .file text).dropWhile (·.isEmpty))
  joinPath (if parts.isEmpty then [[]] else parts)

/-- The path of any other scheme behind an authority. -/
def otherPath (text : List Char) : String :=
  match text with
  | [] => ""
  | _ => joinPath (resolve .other [] (segments .other (text.drop 1)))

/-! ### The whole -/

/-- A text before a character, and what follows the character. -/
def cut (c : Char) (text : List Char) : List Char × Option (List Char) :=
  match text.dropWhile (· ≠ c) with
  | [] => (text, none)
  | _ :: rest => (text.takeWhile (· ≠ c), some rest)

def fileParts (text : List Char) : Except Fault (Authority × String) := do
  let unnamed : Authority := ⟨"", none, .domain "", none⟩
  match text with
  | a :: b :: rest =>
    if isSeparator .file a ∧ isSeparator .file b then
      let host := rest.takeWhile fun c => !isSeparator .file c
      if host.isEmpty ∨ isDrive host then return (unnamed, filePath rest)
      else
        let path := filePath (rest.drop host.length)
        match ← readHost host with
        | .domain "localhost" => return (unnamed, path)
        | host => return ({ unnamed with host }, path)
    else return (unnamed, filePath text)
  | _ => return (unnamed, filePath text)

def hierarchy (scheme : String) (text : List Char) (more : Bool) :
    Except Fault (Option Authority × String) := do
  match schemeClass scheme with
  | .web =>
    let rest := text.dropWhile (isSeparator .web)
    let front := rest.takeWhile fun c => !isSeparator .web c
    let path := rest.drop front.length
    return (← readAuthority scheme front (more || !path.isEmpty), webPath path)
  | .file =>
    let (authority, path) ← fileParts text
    return (authority, path)
  | .other =>
    match text with
    | '/' :: '/' :: rest =>
      let front := rest.takeWhile (· ≠ '/')
      let path := rest.drop front.length
      return (← readAuthority scheme front (more || !path.isEmpty), otherPath path)
    | '/' :: _ => return (none, otherPath text)
    | _ => return (none, escaped isControlOrBeyond text)

/-- The text without controls and blanks around it and line breaks and tabs in it. -/
def tidy (text : String) : List Char :=
  let isEdge := fun (c : Char) => c.toNat ≤ 32
  ((text.toList.dropWhile isEdge).reverse.dropWhile isEdge).reverse.filter fun c =>
    c ≠ '\t' ∧ c ≠ '\n' ∧ c ≠ '\r'

def parse (text : String) : Except Fault Url := do
  match scheme? (tidy text) with
  | none => throw .relative
  | some (scheme, rest) =>
    let (rest, fragment) := cut '#' rest
    let (main, query) := cut '?' rest
    let (authority, path) ← hierarchy scheme main (fragment.isSome || query.isSome)
    return {
      scheme, authority, path
      query := query.map (escaped (inQuery (schemeClass scheme)))
      fragment := fragment.map (escaped inFragment) }

end DynamicDns.Url
