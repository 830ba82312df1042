import Federation.Directory.Gateway
import Federation.Proofs.Codec
import Federation.Text.Split

namespace Federation

namespace Filter

def readLiteral : List Char → Option (List Char × List Char)
  | [] => none
  | '\'' :: '\'' :: cs => (readLiteral cs).map fun (v, rest) => ('\'' :: v, rest)
  | '\'' :: cs => some ([], cs)
  | c :: cs => (readLiteral cs).map fun (v, rest) => (c :: v, rest)

def scan (cs : List Char) : Option (String × String × List Char) :=
  match cs.dropWhile (· ≠ ' ') with
  | ' ' :: 'e' :: 'q' :: ' ' :: '\'' :: literal =>
    (readLiteral literal).map fun (v, rest) =>
      (String.ofList (cs.takeWhile (· ≠ ' ')), String.ofList v, rest)
  | _ => none

def ofText (text : String) : Option Filter :=
  match scan text.toList with
  | some (field, value, []) =>
    if field = "displayName" then some (.displayName value)
    else if field = "subject" then some (.subject value)
    else none
  | _ => none

theorem readLiteral_escape (v : List Char) {rest : List Char} (h : rest.head? ≠ some '\'') :
    readLiteral (escape v ++ '\'' :: rest) = some (v, rest) := by
  induction v with
  | nil =>
    cases rest with
    | nil => rfl
    | cons c cs =>
      have hc : c ≠ '\'' := fun he => h (congrArg some he)
      simp [escape, readLiteral, hc]
  | cons c cs ih =>
    by_cases hc : c = '\''
    · subst hc
      simp [escape, readLiteral, ih]
    · simp [escape, readLiteral, hc, ih]

/-- A condition is read from its text whatever follows, if that does not begin with a quote. -/
theorem scan_text (f : Filter) {rest : List Char} (h : rest.head? ≠ some '\'') :
    scan (f.text.toList ++ rest) = some (f.field, f.value, rest) := by
  have hfield : ∀ c ∈ f.field.toList, decide (c ≠ ' ') = true := by
    cases f <;> simp [field]
  have htext : f.text.toList ++ rest = f.field.toList ++
      ' ' :: 'e' :: 'q' :: ' ' :: '\'' :: (escape f.value.toList ++ '\'' :: rest) := by
    simp [text, quote]
  have htake : (f.text.toList ++ rest).takeWhile (· ≠ ' ') = f.field.toList := by
    rw [htext, List.takeWhile_append_of_pos hfield]
    simp
  have hdrop : (f.text.toList ++ rest).dropWhile (· ≠ ' ') =
      ' ' :: 'e' :: 'q' :: ' ' :: '\'' :: (escape f.value.toList ++ '\'' :: rest) := by
    rw [htext, List.dropWhile_append_of_pos hfield]
    rfl
  unfold scan
  rw [hdrop, htake]
  simp [readLiteral_escape f.value.toList h]

theorem ofText_text (f : Filter) : ofText f.text = some f := by
  have hscan : scan (f.text.toList ++ []) = _ := scan_text f (by simp)
  rw [List.append_nil] at hscan
  unfold ofText
  rw [hscan]
  cases f <;> rfl

example : ofText "displayName eq 'o''brien'" = some (.displayName "o'brien") := by cbv

end Filter

/-- The object id is one segment of a path. -/
def ObjectId.OneSegment (id : ObjectId) : Prop := '/' ∉ id.text.toList

instance (id : ObjectId) : Decidable id.OneSegment :=
  inferInstanceAs (Decidable ('/' ∉ id.text.toList))

/-- What a path leads to. -/
inductive Resource
  | applications
  | application (id : ObjectId)
  | principals
  | principal (id : ObjectId)
  | credentials (owner : ObjectId)
  | credential (owner id : ObjectId)
  deriving DecidableEq

namespace Resource

def segments : Resource → List String
  | .applications => ["applications"]
  | .application id => ["applications", id.text]
  | .principals => ["servicePrincipals"]
  | .principal id => ["servicePrincipals", id.text]
  | .credentials owner => ["applications", owner.text, "federatedIdentityCredentials"]
  | .credential owner id => ["applications", owner.text, "federatedIdentityCredentials", id.text]

def ofSegments : List String → Option Resource
  | [kind] =>
    if kind = "applications" then some .applications
    else if kind = "servicePrincipals" then some .principals
    else none
  | [kind, id] =>
    if kind = "applications" then some (.application ⟨id⟩)
    else if kind = "servicePrincipals" then some (.principal ⟨id⟩)
    else none
  | [kind, owner, part] =>
    if kind = "applications" ∧ part = "federatedIdentityCredentials" then
      some (.credentials ⟨owner⟩)
    else none
  | [kind, owner, part, id] =>
    if kind = "applications" ∧ part = "federatedIdentityCredentials" then
      some (.credential ⟨owner⟩ ⟨id⟩)
    else none
  | _ => none

def ofPath (path : String) : Option Resource :=
  match (Text.splitAt '/' path.toList).map String.ofList with
  | [] => none
  | root :: segments => if root = "" then ofSegments segments else none

def ids : Resource → List ObjectId
  | .applications | .principals => []
  | .application id | .principal id | .credentials id => [id]
  | .credential owner id => [owner, id]

theorem ofSegments_segments (r : Resource) : ofSegments r.segments = some r := by
  cases r <;> rfl

theorem splitAt_segment {cs : List Char} (h : '/' ∉ cs) (rest : List Char) :
    Text.splitAt '/' (cs ++ '/' :: rest) = cs :: Text.splitAt '/' rest := by
  induction cs with
  | nil => rfl
  | cons c cs ih =>
    obtain ⟨hc, hcs⟩ := List.ne_and_not_mem_of_not_mem_cons h
    rw [List.cons_append, Text.splitAt, if_neg hc.symm, ih hcs]

theorem splitAt_last {cs : List Char} (h : '/' ∉ cs) : Text.splitAt '/' cs = [cs] := by
  induction cs with
  | nil => rfl
  | cons c cs ih =>
    obtain ⟨hc, hcs⟩ := List.ne_and_not_mem_of_not_mem_cons h
    rw [Text.splitAt, if_neg hc.symm, ih hcs]

theorem splitAt_join {first : List Char} {rest : List (List Char)} (hfirst : '/' ∉ first)
    (hrest : ∀ cs ∈ rest, '/' ∉ cs) :
    Text.splitAt '/' (first ++ rest.flatMap ('/' :: ·)) = first :: rest := by
  induction rest generalizing first with
  | nil => rw [List.flatMap_nil, List.append_nil, splitAt_last hfirst]
  | cons cs rest ih =>
    obtain ⟨hcs, hrest⟩ := List.forall_mem_cons.mp hrest
    rw [List.flatMap_cons, List.cons_append, splitAt_segment hfirst, ih hcs hrest]

theorem segments_slashless {r : Resource} (h : ∀ id ∈ r.ids, id.OneSegment) :
    ∀ cs ∈ r.segments.map String.toList, '/' ∉ cs := by
  cases r <;> simp_all [segments, ids, ObjectId.OneSegment]

end Resource

namespace Call

def resource : Call → Resource
  | .createApplication _ | .getApplication _ => .applications
  | .deleteApplication id => .application id
  | .createServicePrincipal .. | .getServicePrincipal _ => .principals
  | .deleteServicePrincipal id => .principal id
  | .addCredential owner _ | .getCredential owner _ _ => .credentials owner
  | .deleteCredential owner id => .credential owner id

theorem toList_path (c : Call) :
    c.request.path.toList = c.resource.segments.flatMap fun s => '/' :: s.toList := by
  cases c <;> simp [request, Request.get, Request.post, Request.delete, resource,
    Resource.segments, applicationsPath, principalsPath, applicationPath, credentialsPath]

theorem ofPath_path {c : Call} (h : ∀ id ∈ c.resource.ids, id.OneSegment) :
    Resource.ofPath c.request.path = some c.resource := by
  have hsplit := Resource.splitAt_join List.not_mem_nil (Resource.segments_slashless h)
  have hsegments : (c.resource.segments.map String.toList).map String.ofList =
      c.resource.segments := by
    simp
  rw [List.nil_append, List.flatMap_map, ← toList_path] at hsplit
  unfold Resource.ofPath
  rw [hsplit, List.map_cons, hsegments]
  exact Resource.ofSegments_segments _

end Call

/-- What the directory is asked to do. One field can be asked for, so a lookup lists what has the
value in that field. -/
inductive Operation
  | createApplication (displayName : String)
  | listApplications (displayName : String)
  | deleteApplication (id : ObjectId)
  | createPrincipal (appId : String) (tags : List String)
  | listPrincipals (displayName : String)
  | deletePrincipal (id : ObjectId)
  | addCredential (owner : ObjectId) (spec : CredentialSpec)
  | listCredentials (owner : ObjectId) (subject : String)
  | deleteCredential (owner id : ObjectId)

namespace Operation

def read (verb : Verb) (path : String) (filter : Option String) (body : Option Json) :
    Option Operation := do
  match verb, ← Resource.ofPath path, filter, body with
  | .post, .applications, none, some body =>
    return .createApplication (← (body.field "displayName").asString?)
  | .post, .principals, none, some body =>
    let appId ← (body.field "appId").asString?
    return .createPrincipal appId (← (Json.readList Json.readString (body.field "tags")).toOption)
  | .post, .credentials owner, none, some body =>
    return .addCredential owner (← (CredentialSpec.ofJson body).toOption)
  | .get, .applications, some text, none =>
    match ← Filter.ofText text with
    | .displayName displayName => return .listApplications displayName
    | .subject _ => none
  | .get, .principals, some text, none =>
    match ← Filter.ofText text with
    | .displayName displayName => return .listPrincipals displayName
    | .subject _ => none
  | .get, .credentials owner, some text, none =>
    match ← Filter.ofText text with
    | .displayName _ => none
    | .subject subject => return .listCredentials owner subject
  | .delete, .application id, none, none => return .deleteApplication id
  | .delete, .principal id, none, none => return .deletePrincipal id
  | .delete, .credential owner id, none, none => return .deleteCredential owner id
  | _, _, _, _ => none

def ofRequest (q : Request) : Option Operation :=
  read q.verb q.path (q.filter.map Filter.text) q.body

end Operation

/-- What is left of a call in its request: the issuer of a credential that is looked up is not
sent. -/
def Call.operation : Call → Operation
  | .createApplication displayName => .createApplication displayName
  | .getApplication displayName => .listApplications displayName
  | .deleteApplication id => .deleteApplication id
  | .createServicePrincipal appId tags => .createPrincipal appId tags
  | .getServicePrincipal displayName => .listPrincipals displayName
  | .deleteServicePrincipal id => .deletePrincipal id
  | .addCredential owner spec => .addCredential owner spec
  | .getCredential owner _ subject => .listCredentials owner subject
  | .deleteCredential owner id => .deleteCredential owner id

/-- A request is read back to the call that it was made for. -/
theorem Operation.ofRequest_request {c : Call} (h : ∀ id ∈ c.resource.ids, id.OneSegment) :
    ofRequest c.request = some c.operation := by
  unfold ofRequest read
  rw [c.ofPath_path h]
  cases c with
  | createApplication displayName => rfl
  | getApplication displayName =>
    simp [Call.request, Request.get, Call.resource, Call.operation, Filter.ofText_text]
  | deleteApplication id => rfl
  | createServicePrincipal appId tags =>
    have htags := Json.readList_ofStrings tags
    simp [Call.request, Request.post, Call.resource, Call.operation, Json.field, Json.get?, htags,
      Json.asString?, Except.toOption]
  | getServicePrincipal displayName =>
    simp [Call.request, Request.get, Call.resource, Call.operation, Filter.ofText_text]
  | deleteServicePrincipal id => rfl
  | addCredential owner spec =>
    simp [Call.request, Request.post, Call.resource, Call.operation, CredentialSpec.ofJson_toJson,
      Except.toOption]
  | getCredential owner issuer subject =>
    simp [Call.request, Request.get, Call.resource, Call.operation, Filter.ofText_text]
  | deleteCredential owner id => rfl

end Federation
