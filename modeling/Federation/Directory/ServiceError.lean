import Federation.Json.Record

namespace Federation

structure ServiceError where
  code : String
  message : String
  inner : Option Json
  deriving DecidableEq

namespace ServiceError

def basic (code message : String) : ServiceError := ⟨code, message, none⟩

def text (e : ServiceError) : String := e.code ++ ": " ++ e.message

open Json (Slot)

def codeSlot : Slot String := .defaulted "code" Json.readString "Unknown"
def messageSlot : Slot String := .defaulted "message" Json.readString "unknown error"
def innerSlot : Slot (Option Json) := .defaulted "innerError" (Json.readOption .ok) none

def ofJson : Json → Except Mismatch ServiceError :=
  Json.readRecord "struct ServiceError" [codeSlot.check, messageSlot.check, innerSlot.check]
    fun src => do
      let code ← src.get 0 codeSlot
      let message ← src.get 1 messageSlot
      let inner ← src.get 2 innerSlot
      .ok ⟨code, message, inner⟩

def toJson (e : ServiceError) : Json :=
  .object ([("code", .string e.code), ("message", .string e.message)] ++
    e.inner.toList.map fun v => ("innerError", v))

end ServiceError

end Federation
