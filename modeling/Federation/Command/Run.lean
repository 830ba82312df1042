import Federation.Command.Arguments
import Federation.Command.Text
import Federation.Declaration.Load
import Federation.Directory.Remote
import Federation.Json.Printer
import Federation.Reconcile.Run

namespace Federation.Command

structure Failure where
  message : String
  causes : List String
  deriving DecidableEq, Repr

def indented (margin : String) (s : String) : String :=
  String.ofList (s.toList.flatMap fun c => if c = '\n' then '\n' :: margin.toList else [c])

def padded (n : Nat) : String :=
  let digits := toString n
  String.ofList (List.replicate (5 - digits.length) ' ') ++ digits

def causeLines (causes : List String) : List String :=
  match causes with
  | [cause] => ["    " ++ indented "    " cause]
  | causes => causes.mapIdx fun i cause => padded i ++ ": " ++ indented "       " cause

def Failure.text (f : Failure) : String :=
  "Error: " ++ f.message ++ "\n" ++
    (if f.causes.isEmpty then "" else "\nCaused by:\n" ++ unlines (causeLines f.causes))

structure Result where
  status : Nat
  output : String
  complaints : String
  deriving DecidableEq, Repr

def Result.failed (f : Failure) : Result := ⟨1, "", f.text⟩

structure Stamp where
  runId : Uuid
  startedAt : Instant
  finishedAt : Instant
  deriving DecidableEq, Repr

def Task.file? : Task → Option String
  | .apply file _ _ | .destroy file _ _ _ => some file
  | .get _ => none

def noTenant : Failure :=
  ⟨"--tenant-id (or AZURE_TENANT_ID, or directory.tenant_id in the file) is required", []⟩

def notConfirmed : Failure := ⟨"destroy deletes directory objects; pass --yes to confirm", []⟩

/-- How the directory is reached: the command line wins over the file. -/
def Connect.access (c : Connect) (settings : Declaration.Settings) : Except Failure Access :=
  match c.tenantId.or settings.tenantId with
  | none => .error noTenant
  | some tenantId =>
    let basic := Access.basic tenantId
    .ok { basic with
      cloud := (c.cloud.or settings.cloud).getD basic.cloud
      graphEndpoint := c.graphEndpoint
      clientId := c.clientId
      clientSecret := c.clientSecret }

def loadFailure (file : String) (e : Declaration.LoadError) : Failure :=
  ⟨"Failed to load " ++ file, e.message :: e.fault.cause?.toList⟩

namespace Lookup

def call : Lookup → Call
  | .application displayName => .getApplication displayName
  | .servicePrincipal displayName => .getServicePrincipal displayName
  | .credential owner issuer subject => .getCredential ⟨owner⟩ issuer subject

def failure (l : Lookup) (e : DirectoryError) : Failure :=
  let what := match l with
    | .application displayName => "application '" ++ displayName ++ "'"
    | .servicePrincipal displayName => "service principal '" ++ displayName ++ "'"
    | .credential .. => "federated credential"
  ⟨"Failed to get " ++ what, e.message :: e.causes⟩

def shown : (l : Lookup) → l.call.Answer → String × Json
  | .application _, a => (Application.shown a, Application.toJson a)
  | .servicePrincipal _, p => (ServicePrincipal.shown p, ServicePrincipal.toJson p)
  | .credential .., c => (Credential.shown c, Credential.toJson c)

end Lookup

def Format.write (f : Format) (shown : String × Json) : String :=
  match f with
  | .text => shown.1
  | .json => shown.2.pretty ++ "\n"

variable {σ : Type}

def behaviour (w : Surroundings σ) (a : Access) : Behaviour (Connection σ) :=
  Gateway.behaviour ((Remote.ofAccess a).send w)

def runLookup (w : Surroundings σ) (i : Invocation) (l : Lookup) (s : σ) : Result × σ :=
  match i.connect.access ⟨none, none⟩ with
  | .error f => (.failed f, s)
  | .ok a =>
    let (r, c) := behaviour w a l.call ⟨none, s⟩
    match r with
    | .ok found => (⟨0, i.output.write (l.shown found), ""⟩, c.outside)
    | .error e => (.failed (l.failure e), c.outside)

def runFile (w : Surroundings σ) (i : Invocation) (stamp : Stamp) (file : String)
    (content : Except String (List UInt8)) (action : Action) (dryRun : Bool) (concurrency : Nat)
    (s : σ) : Result × σ :=
  match Declaration.ofFile file content with
  | .error e => (.failed (loadFailure file e), s)
  | .ok d => match i.connect.access d.settings with
    | .error f => (.failed f, s)
    | .ok a =>
      let order : Order := ⟨d.identities, action, dryRun, concurrency⟩
      let (r, c) := order.run (behaviour w a) (fun _ => false) ⟨none, s⟩
      match r with
      | .error e => (.failed ⟨action.name ++ " aborted", e.message :: e.causes⟩, c.outside)
      | .ok summary =>
        let report := summary.report order stamp.runId stamp.startedAt stamp.finishedAt
        (⟨if report.isClean then 0 else 1, i.output.write (report.shown, report.toJson), ""⟩,
          c.outside)

/-- Carries out a task, given the content of its file or the reason why there is none. -/
def run (w : Surroundings σ) (i : Invocation) (stamp : Stamp)
    (content : Except String (List UInt8)) (s : σ) : Result × σ :=
  match i.task with
  | .get l => runLookup w i l s
  | .apply file dryRun concurrency =>
    runFile w i stamp file content .provision dryRun concurrency s
  | .destroy file confirmed dryRun concurrency =>
    if !confirmed && !dryRun then (.failed notConfirmed, s)
    else runFile w i stamp file content .teardown dryRun concurrency s

def versionText : String := "tether 0.1.0\n"

def usageText : String :=
  unlines ["Usage: tether [OPTIONS] <COMMAND>", "", "Commands:",
    "  apply <FILE>                   create whatever the file declares and is missing",
    "  destroy <FILE>                 delete the declared identities",
    "  get application <NAME>         look up an application",
    "  get service-principal <NAME>   look up a service principal",
    "  get credential <APPLICATION>   look up a federated credential"]

def Dismissal.result : Dismissal → Result
  | .version => ⟨0, versionText, ""⟩
  | .help => ⟨0, usageText, ""⟩
  | .usage => ⟨2, "", usageText⟩

end Federation.Command
