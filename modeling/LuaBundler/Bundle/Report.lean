import LuaBundler.Bundle.Document
import LuaBundler.Json.Value
import LuaBundler.Json.Reader
import LuaBundler.Text.Blank

/-!
# Worker reports

A worker answers with one JSON document on its standard output: a success with a bundle, or a
failure with a diagnostic. `Report.wire` writes a report and `Report.read?` reads one, white space
around it aside. In a report the format of the bundle may also be given by its index; a bundle on
its own has to name it.
-/

namespace LuaBundler.Bundle

open LuaBundler.Json

/-- What a worker reports. -/
inductive Report where
  | success (bundle : Output)
  | failure (diagnostic : String)
  deriving Repr, DecidableEq

namespace Report

/-- Whether a report has a bundle. -/
def isSuccess : Report → Bool
  | success _ => true
  | failure _ => false

/-- The exit status that goes with a report. -/
def exitCode (r : Report) : Nat :=
  if r.isSuccess then 0 else 1

end Report

/-! ### Writing -/

/-- A module as a JSON object. -/
def RegisteredModule.toJson (m : RegisteredModule) : Value :=
  .object [("name", .string m.name), ("body", .string m.body)]

/-- A bundle as a JSON object, its format first. -/
def Output.toJson : Output → Value
  | .structured d => .object [
      ("format", .string "structured"),
      ("prelude", .string d.prelude),
      ("modules", .array (d.modules.map RegisteredModule.toJson)),
      ("epilogue", .string d.epilogue)]
  | .text t => .object [("format", .string "text"), ("text", .string t)]

/-- A report as a JSON object, its status first. -/
def Report.toJson : Report → Value
  | success bundle => .object [("status", .string "success"), ("bundle", bundle.toJson)]
  | failure diagnostic =>
    .object [("status", .string "failure"), ("diagnostic", .string diagnostic)]

/-- What a worker writes: the report on a line. -/
def Report.wire (r : Report) : String :=
  r.toJson.render ++ "\n"

/-! ### Reading -/

/-- The module that a JSON value holds. -/
def RegisteredModule.ofJson? (v : Value) : Option RegisteredModule := do
  match ← (← v.payload?).fields? ["name", "body"] with
  | [name, body] => return ⟨← name.string?, ← body.string?⟩
  | _ => none

/-- The document that a payload holds. -/
def Document.ofPayload? (payload : Payload) : Option Document := do
  match ← payload.fields? ["prelude", "modules", "epilogue"] with
  | [prelude, modules, epilogue] =>
    return ⟨← prelude.string?, ← (← modules.items?).mapM RegisteredModule.ofJson?,
      ← epilogue.string?⟩
  | _ => none

/-- The bundle that a JSON value holds; `byIndex` also admits the index of its format. -/
def Output.ofJson? (byIndex : Bool) (v : Value) : Option Output := do
  let (tag, payload) ← v.tagged? "format"
  match ← tag.variant? ["structured", "text"] byIndex with
  | 0 => return .structured (← Document.ofPayload? payload)
  | _ =>
    match ← payload.fields? ["text"] with
    | [body] => return .text (← body.string?)
    | _ => none

/-- The report that a JSON value holds. -/
def Report.ofJson? (v : Value) : Option Report := do
  let (tag, payload) ← v.tagged? "status"
  match ← tag.variant? ["success", "failure"] false with
  | 0 =>
    match ← payload.fields? ["bundle"] with
    | [bundle] => return .success (← Output.ofJson? true bundle)
    | _ => none
  | _ =>
    match ← payload.fields? ["diagnostic"] with
    | [diagnostic] => return .failure (← diagnostic.string?)
    | _ => none

/-- The report that a worker wrote. -/
def Report.read? (stdout : String) : Option Report :=
  (Json.read? (Text.trimmed stdout)).bind Report.ofJson?

end LuaBundler.Bundle
