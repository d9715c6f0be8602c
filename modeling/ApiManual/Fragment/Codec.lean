import ApiManual.Endpoint.Codec
import ApiManual.Fragment
import ApiManual.Json.Printer

/-! Fragments as JSON text. -/
namespace ApiManual

open Json (Value Spelled)

namespace DocumentationItem

def toJson (item : DocumentationItem) : Value :=
  .object [("title", .string item.title), ("content", .string item.content)]

def ofSpelled? (spelled : Spelled) : Option DocumentationItem := do
  let members ← Json.spelledRecord? ["title", "content"] spelled
  return {
    title := ← Json.required? members "title" Json.text?
    content := ← Json.required? members "content" Json.text? }

end DocumentationItem

namespace Grouping

def toJson (grouping : Grouping) : Value := Json.present [
  ("id", grouping.id.map .string),
  ("title", grouping.title.map .string),
  ("version", grouping.version.map .string),
  ("base_path", grouping.basePath.map .string),
  ("documentation", some (.array (grouping.documentation.map DocumentationItem.toJson))),
  ("endpoints", some (.array (grouping.endpoints.map Endpoint.toJson)))]

def ofSpelled? (enclosing : Nat) (spelled : Spelled) : Option Grouping := do
  let members ← Json.spelledRecord?
    ["id", "title", "version", "base_path", "documentation", "endpoints"] spelled
  return {
    id := ← Json.optional? members "id" Json.text?
    title := ← Json.optional? members "title" Json.text?
    version := ← Json.optional? members "version" Json.text?
    basePath := ← Json.optional? members "base_path" Json.text?
    documentation := ← Json.defaulted? members "documentation" []
      (Json.list? DocumentationItem.ofSpelled?)
    endpoints := ← Json.defaulted? members "endpoints" []
      (Json.list? (Endpoint.ofSpelled? (enclosing + 2))) }

end Grouping

namespace Fragment

def toJson (fragment : Fragment) : Value := Json.present [
  ("origin", fragment.origin.map .string),
  ("groupings", some (.array (fragment.groupings.map Grouping.toJson)))]

def toText (fragment : Fragment) : String := Json.prettyText fragment.toJson

def ofSpelled? (spelled : Spelled) : Option Fragment := do
  let members ← Json.spelledRecord? ["origin", "groupings"] spelled
  return {
    origin := ← Json.optional? members "origin" Json.text?
    groupings := ← Json.defaulted? members "groupings" [] (Json.list? (Grouping.ofSpelled? 2)) }

def ofText? (text : String) : Option Fragment := Json.ofText? text >>= ofSpelled?

structure Malformed where
  origin : String
  deriving DecidableEq, Repr

def Malformed.message (error : Malformed) : String := "malformed fragment " ++ error.origin

def load (text origin : String) : Except Malformed Fragment :=
  match ofText? text with
  | some fragment => .ok (fragment.completed origin)
  | none => .error ⟨origin⟩

end Fragment

end ApiManual
