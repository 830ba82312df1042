import Federation.Yaml.Document
import Federation.Yaml.Scalar

namespace Federation.Yaml

inductive Path
  | root
  | item (parent : Path) (index : Nat)
  | field (parent : Path) (key : String)
  | hidden (parent : Path)
  deriving DecidableEq, Repr

def Path.before : Path → String → String
  | .root, _ => ""
  | _, text => text ++ "."

def Path.text : Path → String
  | .root => "."
  | .item parent index => parent.text ++ "[" ++ toString index ++ "]"
  | .field parent key => parent.before parent.text ++ key
  | .hidden parent => parent.before parent.text ++ "?"

inductive ReadError
  | mismatch (m : Mismatch) (spot : Option (Path × Mark))
  | fault (f : Fault)
  deriving DecidableEq, Repr

namespace ReadError

def summary : ReadError → String
  | .mismatch m spot =>
    let within := match spot with
      | none | some (.root, _) => ""
      | some (path, _) => path.text ++ ": "
    within ++ m.message
  | .fault f => f.message

def message : ReadError → String
  | .mismatch m (some (path, mark)) =>
    (mismatch m (some (path, mark))).summary ++
      (if mark.isPastStart then " at " ++ mark.text else "")
  | e => e.summary

end ReadError

structure Progress where
  rest : List (Entry × Mark)
  jumps : Nat

def Reader (α : Type) : Type :=
  Document → Path → Progress → Except ReadError (α × Progress)

namespace Reader

variable {α β ρ : Type}

/-- Tells where a mismatch is, unless that has been told from nearer by. -/
def located (path : Path) (mark : Mark) : Except ReadError α → Except ReadError α
  | .error (.mismatch m none) => .error (.mismatch m (some (path, mark)))
  | r => r

def fail (m : Mismatch) : Except ReadError α := .error (.mismatch m none)

def peek (d : Document) (p : Progress) : Except ReadError (Entry × Mark) :=
  match p.rest with
  | e :: _ => .ok e
  | [] => .error (.fault (d.fault.getD .ended))

def Progress.step (p : Progress) : Progress := { p with rest := p.rest.drop 1 }

/-- Reads what begins with the next entry, or with the one that it is an alias of. Aliases may
make a document a hundred times longer. -/
def onEntry (read : Entry → Mark → Reader α) : Reader α := fun d path p => do
  let (e, mark) ← peek d p
  match e with
  | .alias number =>
    let jumps := p.jumps + 1
    if 100 * d.entries.length < jumps then .error (.fault .repetition)
    else
      let target := d.entries.drop ((d.anchors.lookup number).getD d.entries.length)
      let (e, mark) ← peek d ⟨target, jumps⟩
      let (a, q) ← read e mark d path ⟨target, jumps⟩
      .ok (a, { Progress.step p with jumps := q.jumps })
  | _ => read e mark d path p

def unwanted (e : Entry) (expected : String) : Except ReadError α :=
  match e with
  | .scalar tag text style => fail ((Scalar.mk tag text style).mismatch expected)
  | .sequenceStart _ => fail (.invalidType .sequence expected)
  | .mappingStart _ => fail (.invalidType .map expected)
  | _ => .error (.fault .ended)

def scalar (expected : String) (check : String → Except Mismatch α) : Reader α :=
  onEntry fun e mark _ path p => located path mark <|
    match e with
    | .scalar _ text _ => match check text with
      | .ok a => .ok (a, Progress.step p)
      | .error m => fail m
    | e => unwanted e expected

def string : Reader String := scalar "a string" .ok

def isEmptyCollection : Entry → Bool
  | .nothing => true
  | .scalar tag text style => (Scalar.mk tag text style).isBlank
  | _ => false

def items (read : Reader α) : Nat → Nat → Reader (List α)
  | 0, _, _, _, _ => .error (.fault .ended)
  | fuel + 1, index, d, path, p => do
    let (e, _) ← peek d p
    if e = .sequenceEnd then .ok ([], Progress.step p)
    else
      let (a, p) ← read d (.item path index) p
      let (more, p) ← items read fuel (index + 1) d path p
      .ok (a :: more, p)

def list (read : Reader α) : Reader (List α) :=
  onEntry fun e mark d path p => located path mark <|
    match e with
    | .sequenceStart _ => items read p.rest.length 0 d path (Progress.step p)
    | e =>
      if isEmptyCollection e then .ok ([], Progress.step p) else unwanted e "a sequence"

def saysNone (s : Scalar) : Except ReadError Bool :=
  if s.style ≠ .plain then .ok false
  else match s.tag with
    | some tag =>
      if tag ≠ .core "null" then .ok false
      else if Scalar.isNullWord s.text then .ok true
      else fail (.invalidValue (.string s.text) "null")
    | none => .ok (s.text.isEmpty || Scalar.isNullWord s.text)

def option (read : Reader α) : Reader (Option α) :=
  onEntry fun e _ d path p => do
    let absent ← match e with
      | .scalar tag text style => saysNone ⟨tag, text, style⟩
      | .nothing => .ok true
      | _ => .ok false
    if absent then .ok (none, Progress.step p)
    else
      let (a, p) ← read d path p
      .ok (some a, p)

def choose (choices : List (String × α)) (name : String) : Except Mismatch α :=
  match choices.lookup name with
  | some a => .ok a
  | none => .error (.unknownVariant name (choices.map (·.1)))

def tagged (name : String) (choices : List (String × α)) (e : Entry) (mark : Mark) (path : Path)
    (p : Progress) : Except ReadError (α × Progress) :=
  match choose choices name with
  | .error m => fail m
  | .ok a => located path mark <|
    match e with
    | .scalar _ text style =>
      if style = .plain ∧ (text.isEmpty ∨ Scalar.isNullWord text) then .ok (a, Progress.step p)
      else fail (.invalidValue (.string text) "null")
    | e => unwanted e "unit"

def choice (choices : List (String × α)) : Reader α :=
  onEntry fun e mark _ path p =>
    let ofTag (tag : Option Tag) (other : Except ReadError (α × Progress)) :=
      match tag.bind Tag.name? with
      | some name => tagged name choices e mark path p
      | none => located path mark other
    let noTag := "a YAML tag starting with '!'"
    match e with
    | .scalar tag text _ => ofTag tag <| match choose choices text with
      | .ok a => .ok (a, Progress.step p)
      | .error m => fail m
    | .sequenceStart tag => ofTag tag (fail (.invalidType .sequence noTag))
    | .mappingStart tag => ofTag tag (fail (.invalidType .map noTag))
    | _ => .error (.fault .ended)

structure Member (ρ : Type) where
  key : String
  isSet : ρ → Bool
  read : ρ → Reader ρ

def field (key : String) (get : ρ → Option α) (set : ρ → α → ρ) (read : Reader α) : Member ρ :=
  ⟨key, fun r => (get r).isSome, fun r d path p => do
    let (a, p) ← read d path p
    .ok (set r a, p)⟩

def fields (known : List (Member ρ)) : Nat → ρ → Reader ρ
  | 0, _, _, _, _ => .error (.fault .ended)
  | fuel + 1, r, d, path, p => do
    let (e, _) ← peek d p
    if e = .mappingEnd then .ok (r, Progress.step p)
    else
      let find (key : String) : Except Mismatch (Member ρ) :=
        match known.find? (·.key = key) with
        | some f => .ok f
        | none => .error (.unknownField key (known.map (·.key)))
      let (f, p) ← scalar "field identifier" find d path p
      if f.isSet r then fail (.duplicateField f.key)
      else
        let inner := match e with
          | .scalar _ key _ => path.field key
          | _ => path.hidden
        let (r, p) ← f.read r d inner p
        fields known fuel r d path p

/-- Reads a record from a mapping without other fields. Which fields are missing is asked last. -/
def record (label : String) (known : List (Member ρ)) (start : ρ)
    (finish : ρ → Except Mismatch α) : Reader α :=
  let finished (r : ρ) (p : Progress) : Except ReadError (α × Progress) :=
    match finish r with
    | .ok a => .ok (a, p)
    | .error m => fail m
  onEntry fun e mark d path p => located path mark <|
    match e with
    | .mappingStart _ => do
      let (r, p) ← fields known p.rest.length start d path (Progress.step p)
      finished r p
    | e => if isEmptyCollection e then finished start (Progress.step p) else unwanted e label

def needed (key : String) : Option α → Except Mismatch α
  | some a => .ok a
  | none => .error (.missingField key)

/-- Reads the only document of a text. Data of the wrong shape is noticed before anything that is
wrong behind it. -/
def run (read : Reader α) (text : String) : Except ReadError α :=
  let d := Document.ofText text
  match read d .root ⟨d.entries, 0⟩ with
  | .error e => .error e
  | .ok (a, _) => match d.fault with
    | some f => .error (.fault f)
    | none => if d.isLast then .ok a else .error (.fault .manyDocuments)

end Reader

end Federation.Yaml
