import Federation.Declaration.Basic
import Federation.Declaration.Reader
import Federation.Text.Utf8

namespace Federation.Declaration

inductive LoadFault
  /-- The bytes of the file could not be had, for a reason told from outside. -/
  | unavailable (reason : String)
  | notText
  | yaml (e : Yaml.ReadError)
  | refused (r : Refusal)
  deriving DecidableEq, Repr

structure LoadError where
  origin : String
  fault : LoadFault
  deriving DecidableEq, Repr

namespace LoadFault

def heading : LoadFault → String
  | .unavailable _ | .notText => "io error reading "
  | .yaml _ => "yaml parse error in "
  | .refused (.conflict _) => "conversion error in "
  | .refused (.violation _) => "domain error in "

def reason : LoadFault → String
  | .unavailable reason => reason
  | .notText => "stream did not contain valid UTF-8"
  | .yaml e => e.message
  | .refused (.conflict c) => c.message
  | .refused (.violation v) => v.message

def cause? (f : LoadFault) : Option String :=
  match f with
  | .refused (.conflict _) => none
  | f => some f.reason

end LoadFault

def LoadError.message (e : LoadError) : String :=
  e.fault.heading ++ e.origin ++ ": " ++ e.fault.reason

def ofText (origin text : String) : Except LoadError Declaration :=
  match Draft.reader.run text with
  | .error e => .error ⟨origin, .yaml e⟩
  | .ok draft => draft.declaration.mapError fun r => ⟨origin, .refused r⟩

def ofFile (origin : String) (content : Except String (List UInt8)) :
    Except LoadError Declaration :=
  match content with
  | .error reason => .error ⟨origin, .unavailable reason⟩
  | .ok bytes => match Text.ofUtf8? bytes with
    | none => .error ⟨origin, .notText⟩
    | some text => ofText origin text

end Federation.Declaration
