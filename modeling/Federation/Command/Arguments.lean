import Federation.Directory.Cloud
import Federation.Text.Digit

namespace Federation.Command

inductive Format
  | text
  | json
  deriving DecidableEq, Repr

def Format.ofText? : String → Option Format
  | "text" => some .text
  | "json" => some .json
  | _ => none

def cloud? (name : String) : Option Cloud := Cloud.names.lookup name

inductive Lookup
  | application (displayName : String)
  | servicePrincipal (displayName : String)
  | credential (owner issuer subject : String)
  deriving DecidableEq, Repr

/-- What the command line asks for. -/
inductive Task
  | apply (file : String) (dryRun : Bool) (concurrency : Nat)
  | destroy (file : String) (confirmed dryRun : Bool) (concurrency : Nat)
  | get (object : Lookup)
  deriving DecidableEq, Repr

structure Connect where
  tenantId : Option String
  clientId : Option String
  clientSecret : Option String
  cloud : Option Cloud
  graphEndpoint : Option String
  deriving DecidableEq, Repr

structure Invocation where
  connect : Connect
  output : Format
  log : Format
  task : Task
  deriving DecidableEq, Repr

inductive Dismissal
  | usage
  | help
  | version
  deriving DecidableEq, Repr

/-- What can stand on a command line before a subcommand or its end. -/
structure Level where
  flags : List String
  options : List (String × (String → Bool))
  words : List (String → Bool)
  subcommands : List (String × List String)
  hasVersion : Bool

structure Given where
  flags : List String
  options : List (String × String)
  words : List String
  deriving DecidableEq, Repr

namespace Given

def nothing : Given := ⟨[], [], []⟩

def option? (g : Given) (name : String) : Option String := g.options.lookup name

def flag (g : Given) (name : String) : Bool := g.flags.contains name

def word (g : Given) (place : Nat) : String := g.words.getD place ""

end Given

abbrev Reading : Type := Except Dismissal (Given × Option (String × List String))

def anything (_ : String) : Bool := true

def somewhat (s : String) : Bool := !s.isEmpty

def isWord (arg : String) : Bool := !(arg.toList.head? == some '-') || arg == "-"

def splitOption (cs : List Char) : String × Option String :=
  let name := cs.takeWhile (· ≠ '=')
  (String.ofList name,
    match cs.drop name.length with
    | _ :: value => some (String.ofList value)
    | [] => none)

namespace Level

variable (l : Level)

/-- Whether there is help on a command that is reached by so many names. Every level that has
subcommands has help on how to get help, too. -/
def hasHelpOn : List String → Bool
  | [] => true
  | [name] => name == "help" || (l.subcommands.lookup name).isSome
  | [name, inner] => match l.subcommands.lookup name with
    | some names => !names.isEmpty && (inner == "help" || names.contains inner)
    | none => false
  | _ => false

def finish (g : Given) : Reading :=
  if l.subcommands.isEmpty && g.words.length == l.words.length then .ok (g, none)
  else .error .usage

def addOption (g : Given) (name value : String) : Except Dismissal Given :=
  match l.options.lookup name with
  | some accepts =>
    if (g.option? name).isSome || !accepts value then .error .usage
    else .ok { g with options := (name, value) :: g.options }
  | none => .error .usage

def addFlag (g : Given) (name : String) (attached : Option String) : Except Dismissal Given :=
  if attached.isSome then .error .usage
  else if name = "help" then .error .help
  else if name = "version" ∧ l.hasVersion then .error .version
  else if l.flags.contains name && !g.flag name then .ok { g with flags := name :: g.flags }
  else .error .usage

def addWord (g : Given) (word : String) : Except Dismissal Given :=
  match l.words[g.words.length]? with
  | some accepts =>
    if accepts word then .ok { g with words := g.words ++ [word] } else .error .usage
  | none => .error .usage

def readWords (g : Given) (args : List String) : Reading := do
  l.finish (← args.foldlM (fun g word => l.addWord g word) g)

def letter (c : Char) : Dismissal :=
  if c = 'h' then .help else if c = 'V' ∧ l.hasVersion then .version else .usage

def read (g : Given) : List String → Reading
  | [] => l.finish g
  | arg :: rest => match arg.toList with
    | ['-', '-'] => l.readWords g rest
    | '-' :: '-' :: cs =>
      let (name, attached) := splitOption cs
      if (l.options.lookup name).isNone then do read (← l.addFlag g name attached) rest
      else match attached, rest with
        | some value, rest => do read (← l.addOption g name value) rest
        | none, next :: rest => do
          if isWord next then read (← l.addOption g name next) rest else .error .usage
        | none, [] => .error .usage
    | '-' :: c :: _ => .error (l.letter c)
    | _ =>
      if (l.subcommands.lookup arg).isSome then .ok (g, some (arg, rest))
      else if arg = "help" ∧ !l.subcommands.isEmpty then
        .error (if l.hasHelpOn rest then .help else .usage)
      else do read (← l.addWord g arg) rest

end Level

def count? (s : String) : Option Nat :=
  let cs := s.toList
  let digits := if cs.head? = some '+' then cs.drop 1 else cs
  if digits.isEmpty then none
  else (Text.number? 10 digits).filter (· < Nat.pow 2 64)

def globalOptions : List (String × Option String × (String → Bool)) :=
  [ ("tenant-id", some "AZURE_TENANT_ID", anything),
    ("client-id", some "AZURE_CLIENT_ID", anything),
    ("client-secret", some "AZURE_CLIENT_SECRET", anything),
    ("cloud", some "TETHER_CLOUD", fun s => (cloud? s).isSome),
    ("graph-endpoint", some "TETHER_GRAPH_ENDPOINT", anything),
    ("output", none, fun s => (Format.ofText? s).isSome),
    ("log-format", none, fun s => (Format.ofText? s).isSome) ]

def level (flags : List String) (options : List (String × (String → Bool)))
    (words : List (String → Bool)) (subcommands : List (String × List String))
    (hasVersion : Bool) : Level :=
  ⟨flags, options ++ globalOptions.map fun (name, _, accepts) => (name, accepts), words,
    subcommands, hasVersion⟩

def lookupNames : List String := ["application", "service-principal", "credential"]

def root : Level := level [] [] [] [("apply", []), ("destroy", []), ("get", lookupNames)] true

def concurrencyOption : String × (String → Bool) := ("concurrency", fun s => (count? s).isSome)

def applyLevel : Level := level ["dry-run"] [concurrencyOption] [somewhat] [] false

def destroyLevel : Level := level ["yes", "dry-run"] [concurrencyOption] [somewhat] [] false

def getLevel : Level := level [] [] [] (lookupNames.map (·, [])) false

def nameLevel : Level := level [] [] [anything] [] false

def credentialLevel : Level :=
  level [] [("issuer", anything), ("subject", anything)] [anything] [] false

def defaultConcurrency : Nat := 4

def concurrency (g : Given) : Nat := ((g.option? "concurrency").bind count?).getD defaultConcurrency

def readChoice (l : Level) (args : List String) :
    Except Dismissal (Given × String × List String) := do
  match ← l.read .nothing args with
  | (g, some (name, rest)) => .ok (g, name, rest)
  | (_, none) => .error .usage

def readLast (l : Level) (args : List String) : Except Dismissal Given := do
  .ok (← l.read .nothing args).1

def readLookup (args : List String) : Except Dismissal (Lookup × List Given) := do
  let (outer, name, rest) ← readChoice getLevel args
  if name = "credential" then
    let g ← readLast credentialLevel rest
    match g.option? "issuer", g.option? "subject" with
    | some issuer, some subject => .ok (.credential (g.word 0) issuer subject, [g, outer])
    | _, _ => .error .usage
  else
    let g ← readLast nameLevel rest
    .ok (if name = "application" then .application (g.word 0) else .servicePrincipal (g.word 0),
      [g, outer])

def readTask (args : List String) : Except Dismissal (Task × List Given) := do
  let (outer, name, rest) ← readChoice root args
  if name = "apply" then
    let g ← readLast applyLevel rest
    .ok (.apply (g.word 0) (g.flag "dry-run") (concurrency g), [g, outer])
  else if name = "destroy" then
    let g ← readLast destroyLevel rest
    .ok (.destroy (g.word 0) (g.flag "yes") (g.flag "dry-run") (concurrency g), [g, outer])
  else
    let (object, levels) ← readLookup rest
    .ok (.get object, levels ++ [outer])

/-- A variable counts on each level where its option is not given, so it has to be acceptable
unless the option is given on all of them. -/
def settingsFit (settings : List (String × String)) (levels : List Given) : Bool :=
  globalOptions.all fun (name, source, accepts) =>
    match source.bind fun v => settings.lookup v with
    | some value => accepts value || levels.all fun g => (g.option? name).isSome
    | none => true

def value? (settings : List (String × String)) (levels : List Given) (name : String) :
    Option String :=
  (levels.findSome? (·.option? name)).or
    (((globalOptions.lookup name).bind (·.1)).bind fun v => settings.lookup v)

/-- What a command line asks for, given the variables that are set. -/
def Invocation.ofArguments (settings : List (String × String)) (args : List String) :
    Except Dismissal Invocation := do
  let (task, levels) ← readTask args
  if !settingsFit settings levels then .error .usage
  else
    let value := value? settings levels
    let format (name : String) : Format := ((value name).bind Format.ofText?).getD .text
    .ok ⟨⟨value "tenant-id", value "client-id", value "client-secret", (value "cloud").bind cloud?,
      value "graph-endpoint"⟩, format "output", format "log-format", task⟩

end Federation.Command
