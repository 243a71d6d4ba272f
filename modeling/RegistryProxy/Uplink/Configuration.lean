import RegistryProxy.Error
import RegistryProxy.Toml.Parser
import RegistryProxy.Toml.Shape
import RegistryProxy.Uplink.Settings

/-!
# Uplink/Configuration — settings from a text

`Settings.parse` reads the settings from a text of tables.  The uplinks are read first; the settings
for all uplinks stand loose at the top, so that a fault in one of them is told of the text as a
whole.
-/

namespace RegistryProxy

open Toml

/-- What a span of time may be. -/
def Interval.Setting.shape : Shape :=
  .ofReader Interval.Setting.ofTree? (.noneOf "IntervalValue")

/-- What hosts that are reached without a proxy may be. -/
def Bypass.shape : Shape := .ofReader Bypass.ofTree? (.noneOf "NoProxy")

/-- What the variable of a token may be. -/
def TokenVariable.shape : Shape := .ofReader TokenVariable.ofTree? (.noneOf "TokenEnv")

/-- What settings for authorisation may be. -/
def AuthSettings.shape : Shape :=
  .fields false [("type", Shape.text), ("token", Shape.text),
    ("token_env", TokenVariable.shape)]

/-- What the settings of an uplink may be. -/
def UplinkSettings.shape : Shape :=
  .fields true [("url", Shape.text), ("ca", Shape.text), ("timeout", Interval.Setting.shape),
    ("maxage", Interval.Setting.shape), ("max_fails", .ofReader UplinkSettings.count?),
    ("fail_timeout", Interval.Setting.shape), ("strict_ssl", .ofReader Json.Tree.truth?),
    ("headers", .every Shape.text), ("auth", AuthSettings.shape), ("http_proxy", Shape.text),
    ("https_proxy", Shape.text), ("no_proxy", Bypass.shape)]

/-- What the settings for all uplinks may be. -/
def GlobalSettings.shape : Shape :=
  .fields false [("user_agent", Shape.text), ("server_id", Shape.text), ("http_proxy", Shape.text),
    ("https_proxy", Shape.text), ("no_proxy", Bypass.shape)]

namespace Settings

/-- What the uplinks may be. -/
def uplinksShape : Shape := .fields false [("uplinks", .every UplinkSettings.shape)]

/-- A fault that is told of the text as a whole. -/
def atStart (f : Fault) : Fault := { f with place := {} }

/-- Reads a document that has the shape of what `f` reads. -/
def fromTree {α : Type} (f : Json.Tree → Option α) (t : Json.Tree) : Except Fault α :=
  match f t with
  | some a => .ok a
  | none => .error { cause := .unfitting, place := {} }

/-- The uplinks of a document. -/
def uplinks? (t : Json.Tree) : Option (Dict UplinkSettings) := do
  let field ← t.fields? ["uplinks"]
  Json.Tree.orElse ∅ (Json.Tree.mapOf? UplinkSettings.ofTree?) (field "uplinks")

/-- The settings in the entries of a text, or the first fault in them. -/
def ofEntries (es : Entries) : Except Fault Settings := do
  let top : Node := .table {} .headed es
  let uplinks ← fromTree uplinks? (← uplinksShape.read top)
  let global ← (GlobalSettings.shape.read top).mapError atStart
  return { uplinks, global := ← fromTree GlobalSettings.ofTree? global }

/-- The error for a fault. -/
def unreadable (f : Fault) : Error :=
  .tomlParse f.cause.message f.place.line f.place.column

/-- **The settings in a text**, or the error for the first fault in it. -/
def parse (text : String) : Except Error Settings :=
  (Toml.parse text >>= ofEntries).mapError unreadable

end Settings

end RegistryProxy
