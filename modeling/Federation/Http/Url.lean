import Federation.Http.Form
import Federation.Http.Host

namespace Federation.Http

inductive UrlPath
  | segments (names : List String)
  | plain (text : String)
  deriving DecidableEq, Repr

structure Credentials where
  name : String
  password : String
  deriving DecidableEq, Repr

def Credentials.text (c : Credentials) : String :=
  c.name ++ (if c.password.isEmpty then "" else ":" ++ c.password) ++ "@"

/-- An absolute URL. -/
structure Url where
  scheme : String
  credentials : Option Credentials
  host : Option String
  port : Option Nat
  path : UrlPath
  query : Option String
  fragment : Option String
  deriving DecidableEq, Repr

def UrlPath.text : UrlPath → String
  | .segments names => String.join (names.map ("/" ++ ·))
  | .plain text => text

namespace Url

/-- What stands between the scheme and the path. Without a host a path must not look as if it
began with one. -/
def authorityText (u : Url) : String :=
  match u.host with
  | some h =>
    "//" ++ u.credentials.elim "" Credentials.text ++ h ++ u.port.elim "" fun p => ":" ++ toString p
  | none => match u.path with
    | .segments ("" :: _ :: _) => "/."
    | _ => ""

def target (u : Url) : String := u.path.text ++ u.query.elim "" ("?" ++ ·)

def text (u : Url) : String :=
  u.scheme ++ ":" ++ u.authorityText ++ u.target ++ u.fragment.elim "" ("#" ++ ·)

def hasHost (u : Url) : Bool := u.host.any (!·.isEmpty)

def spellsText (s : String) : Bool := (Text.ofUtf8? (unescapeChars s.toList)).isSome

def withoutCredentials (u : Url) : Url :=
  match u.credentials with
  | none => u
  | some c =>
    if spellsText c.name && (!c.name.isEmpty || spellsText c.password) then
      { u with credentials := none }
    else u

def addFields (u : Url) (fields : List (String × String)) : Url :=
  let front := match u.query with
    | some q => if q.isEmpty then "" else q ++ "&"
    | none => ""
  { u with query := some (front ++ Form.encode fields) }

def defaultPort? : String → Option Nat
  | "http" | "ws" => some 80
  | "https" | "wss" => some 443
  | "ftp" => some 21
  | _ => none

inductive Family
  | web
  | file
  | other
  deriving DecidableEq

def family (scheme : String) : Family :=
  if (defaultPort? scheme).isSome then .web else if scheme = "file" then .file else .other

def isSchemeChar (c : Char) : Bool := c.isAlphanum || c == '+' || c == '-' || c == '.'

def readScheme (cs : List Char) : Option (String × List Char) :=
  let name := cs.takeWhile isSchemeChar
  match name.head?, cs.drop name.length with
  | some c, ':' :: rest =>
    if c.isAlpha then some (String.ofList (name.map Char.toLower), rest) else none
  | _, _ => none

def isSlash (f : Family) (c : Char) : Bool := c == '/' || (f != .other && c == '\\')

def endsAuthority (f : Family) (c : Char) : Bool := isSlash f c || c == '?' || c == '#'

def pathEscaped : UInt8 → Bool := isControlOr [' ', '"', '<', '>', '`', '#', '?', '\x7b', '\x7d']

def credentialsEscaped (b : UInt8) : Bool :=
  pathEscaped b || isControlOr ['/', ':', ';', '=', '@', '[', '\\', ']', '^', '|'] b

def cutCredentials (cs : List Char) : Option (List Char) × List Char :=
  if cs.contains '@' then
    let back := (cs.reverse.takeWhile (· ≠ '@')).reverse
    (some (cs.take (cs.length - back.length - 1)), back)
  else (none, cs)

def readCredentials (cs : List Char) : Option Credentials :=
  let name := cs.takeWhile (· ≠ ':')
  let password := cs.drop (name.length + 1)
  let escaped (part : List Char) : String := escapeText credentialsEscaped (String.ofList part)
  if name.isEmpty && password.isEmpty then none else some ⟨escaped name, escaped password⟩

def cutHost : Bool → List Char → List Char × List Char
  | _, [] => ([], [])
  | inside, c :: cs =>
    if c = ':' ∧ !inside then ([], c :: cs)
    else
      let (host, rest) := cutHost (if c = '[' then true else if c = ']' then false else inside) cs
      (c :: host, rest)

def readPort (scheme : String) (cs : List Char) : Except UrlFault (Option Nat × List Char) :=
  let digits := cs.takeWhile Char.isDigit
  let rest := cs.drop digits.length
  let n := digits.foldl (fun n c => min 65536 (n * 10 + (c.toNat - 0x30))) 0
  if 65535 < n ∨ !(rest.isEmpty || rest.head? == some '\\') then .error .badPort
  else .ok (if digits.isEmpty ∨ defaultPort? scheme = some n then none else some n, rest)

structure Authority where
  credentials : Option Credentials
  host : String
  port : Option Nat
  deriving DecidableEq, Repr

/-- Reads an authority; answers also what of its text belongs to the path. Without a host there is
neither a port nor are there credentials, nor even their `@` if something follows it. -/
def readAuthority (scheme : String) (cs : List Char) (isLast : Bool) :
    Except UrlFault (Authority × List Char) := do
  let (user, cs) := cutCredentials cs
  let credentials := user.bind readCredentials
  let (name, rest) := cutHost false cs
  if name.isEmpty && (credentials.isSome || (user == some [] && !isLast) || !rest.isEmpty ||
      family scheme == .web) then .error .noHost
  else
    let host ← if family scheme = .other then Host.other name else Host.special name
    let (port, rest) ← match rest with
      | _ :: digits => readPort scheme digits
      | [] => .ok (none, [])
    .ok (⟨credentials, host, port⟩, rest)

def queryEscaped (f : Family) : UInt8 → Bool :=
  isControlOr ([' ', '"', '#', '<', '>'] ++ if f = .other then [] else ['\''])

def fragmentEscaped : UInt8 → Bool := isControlOr [' ', '"', '<', '>', '`']

def isDot (s : String) : Bool := [".", "%2e", "%2E"].contains s

def isDoubleDot (s : String) : Bool :=
  ["..", ".%2e", ".%2E", "%2e.", "%2E.", "%2e%2e", "%2e%2E", "%2E%2e", "%2E%2E"].contains s

def isDrive (s : String) : Bool :=
  match s.toList with
  | [c, sign] => c.isAlpha && (sign == ':' || sign == '|')
  | _ => false

def startsWithDrive (s : String) : Bool :=
  let cs := s.toList
  isDrive (String.ofList (cs.take 2)) && cs[2]?.all (· == '\\')

def goUp : List String → List String
  | [] => []
  | s :: done => if startsWithDrive s then s :: done else done

def addSegment (f : Family) (done : List String) (s : String) : List String :=
  if f == .file && done.isEmpty && isDrive s then [String.ofList (s.toList.take 1) ++ ":"]
  else s :: done

/-- The segments that are left when dots are followed; `done` holds those before, last first. A
dot at the end leaves an empty segment. -/
def resolve (f : Family) : List String → List String → List String
  | done, [] => done.reverse
  | done, s :: rest =>
    let next :=
      if isDoubleDot s then goUp done else if isDot s then done else addSegment f done s
    if rest.isEmpty ∧ (isDoubleDot s ∨ isDot s) then ("" :: next).reverse else resolve f next rest

def readSegments (f : Family) (cs : List Char) : List String :=
  let cs := cs.map fun c => if isSlash f c then '/' else c
  resolve f [] ((Text.splitAt '/' cs).map fun s => escapeText pathEscaped (String.ofList s))

def readPath (f : Family) (cs : List Char) : List String :=
  match cs with
  | [] => if f = .other then [] else [""]
  | c :: rest => readSegments f (if isSlash f c then rest else cs)

def cut (stops : List Char) (cs : List Char) : List Char × List Char :=
  let front := cs.takeWhile (!stops.contains ·)
  (front, cs.drop front.length)

def readEnd (f : Family) (cs : List Char) : Option String × Option String :=
  let (front, back) := cut ['#'] cs
  let escaped (p : UInt8 → Bool) (part : List Char) : Option String :=
    match part with
    | _ :: text => some (escapeText p (String.ofList text))
    | [] => none
  (escaped (queryEscaped f) front, escaped fragmentEscaped back)

def ofFile (host : String) (path : List String) (query fragment : Option String) : Url :=
  let host := if path.head?.any isDrive then "" else host
  let names := path.dropWhile (·.isEmpty)
  ⟨"file", none, some host, none, .segments (if names.isEmpty then [""] else names), query, fragment⟩

/-- Reads the host and the path of a file from behind two slashes. What looks like a host may be a
drive, and this very computer is no host. -/
def readFileHost (cs : List Char) : Except UrlFault (String × List String) := do
  let name := cs.takeWhile (!isSlash .file ·)
  if isDrive (String.ofList name) then .ok ("", readSegments .file cs)
  else
    let host ← if name.isEmpty then .ok "" else Host.special name
    .ok (if host = "localhost" then "" else host, readPath .file (cs.drop name.length))

def readRest (scheme : String) (cs : List Char) : Except UrlFault Url := do
  let f := family scheme
  let (front, back) := cut ['?', '#'] cs
  let (query, fragment) := readEnd f back
  let atHost (cs : List Char) : Except UrlFault Url := do
    let authority := cs.takeWhile (!endsAuthority f ·)
    let behind := cs.drop authority.length
    let (a, rest) ← readAuthority scheme authority (behind.isEmpty && back.isEmpty)
    .ok ⟨scheme, a.credentials, some a.host, a.port, .segments (readPath f (rest ++ behind)), query,
      fragment⟩
  match f, front with
  | .web, cs => atHost (cs.dropWhile (isSlash f))
  | .file, cs =>
    let (host, path) ← match cs with
      | a :: b :: rest =>
        if isSlash f a ∧ isSlash f b then readFileHost rest else .ok ("", readPath f cs)
      | _ => .ok ("", readPath f cs)
    .ok (ofFile host path query fragment)
  | .other, '/' :: '/' :: cs => atHost cs
  | .other, '/' :: cs =>
    .ok ⟨scheme, none, none, none, .segments (readSegments f cs), query, fragment⟩
  | .other, cs =>
    .ok ⟨scheme, none, none, none, .plain (escapeText isControl (String.ofList cs)), query, fragment⟩

def isLow (c : Char) : Bool := c.toNat ≤ 0x20

/-- Reads an absolute URL. Blanks at the ends and line breaks anywhere do not count. -/
def ofText (s : String) : Except UrlFault Url :=
  let cs := ((s.toList.dropWhile isLow).reverse.dropWhile isLow).reverse
  let cs := cs.filter fun c => c ≠ '\t' ∧ c ≠ '\n' ∧ c ≠ '\r'
  match readScheme cs with
  | none => .error .noScheme
  | some (scheme, rest) => readRest scheme rest

end Url

end Federation.Http
