import Federation.Reconcile.Report

namespace Federation

def idSuffix : Option ObjectId → String
  | some id => " (" ++ id.text ++ ")"
  | none => ""

/-- The line of a change: `+` for what is new, `-` for what is gone, `=` for what stays. -/
def Change.line : Change → String
  | .applicationCreated displayName id => "+ application " ++ displayName ++ idSuffix id
  | .applicationUnchanged displayName id => "= application " ++ displayName ++ idSuffix (some id)
  | .applicationDeleted displayName id => "- application " ++ displayName ++ idSuffix (some id)
  | .principalCreated displayName id => "  + service principal " ++ displayName ++ idSuffix id
  | .principalUnchanged displayName id =>
    "  = service principal " ++ displayName ++ idSuffix (some id)
  | .principalDeleted displayName id =>
    "  - service principal " ++ displayName ++ idSuffix (some id)
  | .credentialAdded displayName name _ subject id =>
    "  + credential " ++ displayName ++ "/" ++ name ++ " [" ++ subject ++ "]" ++ idSuffix id
  | .credentialUnchanged displayName name id =>
    "  = credential " ++ displayName ++ "/" ++ name ++ idSuffix (some id)
  | .credentialDeleted displayName name id =>
    "  - credential " ++ displayName ++ "/" ++ name ++ idSuffix (some id)
  | .identityAbsent displayName => "= " ++ displayName ++ " absent"

def unlines (lines : List String) : String := String.join (lines.map (· ++ "\n"))

def changeLines (changes : List Change) : List String :=
  if changes.isEmpty then ["No changes."] else changes.map Change.line

def changesText (changes : List Change) : String := unlines (changeLines changes)

namespace Report

def headLine (r : Report) : String :=
  r.action.name ++ " run " ++ r.runId.text ++ (if r.dryRun then " (dry run)" else "")

def cancelledLine : String := "! cancelled before every identity finished"

def lines (r : Report) : List String :=
  r.headLine :: changeLines r.changes ++
    r.errors.map (fun e => "! " ++ e.displayName ++ ": " ++ e.error) ++
    (if r.cancelled then [cancelledLine] else [])

def shown (r : Report) : String := unlines r.lines

end Report

def Application.shown (a : Application) : String :=
  unlines ["Application: " ++ a.displayName, "  object id: " ++ a.id.text, "  app id:    " ++ a.appId]

def ServicePrincipal.shown (p : ServicePrincipal) : String :=
  unlines ["Service principal: " ++ p.displayName.getD "-", "  object id: " ++ p.id.text,
    "  app id:    " ++ p.appId, "  tags:      " ++ ", ".intercalate p.tags]

def Credential.shown (c : Credential) : String :=
  unlines ["Federated credential: " ++ c.name, "  object id: " ++ c.id.text,
    "  issuer:    " ++ c.issuer, "  subject:   " ++ c.subject,
    "  audiences: " ++ ", ".intercalate c.audiences]

end Federation
