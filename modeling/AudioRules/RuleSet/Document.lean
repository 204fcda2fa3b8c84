import AudioRules.Json.Decode
import AudioRules.Json.Reader
import AudioRules.RuleSet.Basic

namespace AudioRules

open Json (ofString ofOption ofStrings ofFields)

namespace EngineConfig

def toJson (c : EngineConfig) : Json := ofFields [("default_group", ofString c.defaultGroup)]

def ofJson? (j : Json) : Option EngineConfig := do
  let r ← j.record? ["default_group"]
  return ⟨← r.optional? "default_group" Json.string? ({} : EngineConfig).defaultGroup⟩

end EngineConfig

namespace ModuleSpec

def toJson (m : ModuleSpec) : Json :=
  ofFields [("name", ofString m.name), ("args", ofOption m.args)]

def ofJson? (j : Json) : Option ModuleSpec := do
  let r ← j.record? ["name", "args"]
  return {
    name := ← r.required? "name" Json.string?
    args := ← r.optional? "args" (Json.nullable? Json.string?) none }

end ModuleSpec

namespace GroupEntry

def toJson (g : GroupEntry) : Json :=
  ofFields [("name", ofString g.name), ("dynamic", .bool g.dynamic), ("running", .bool g.running)]

def ofJson? (j : Json) : Option GroupEntry := do
  let r ← j.record? ["name", "dynamic", "running"]
  return {
    name := ← r.required? "name" Json.string?
    dynamic := ← r.optional? "dynamic" Json.bool? false
    running := ← r.optional? "running" Json.bool? false }

end GroupEntry

namespace PortEntry

def toJson (p : PortEntry) : Json :=
  ofFields [("port", ofString p.port), ("predicate", ofString p.predicate)]

def ofJson? (j : Json) : Option PortEntry := do
  let r ← j.record? ["port", "predicate"]
  return {
    port := ← r.required? "port" Json.string?
    predicate := ← r.required? "predicate" Json.string? }

end PortEntry

namespace DeviceEntry

def toJson (d : DeviceEntry) : Json :=
  ofFields
    [("type", ofString d.label),
     ("predicate", ofString d.predicate),
     ("ports", .array (d.ports.map PortEntry.toJson)),
     ("module", d.module?.elim .null ModuleSpec.toJson),
     ("flags", ofStrings d.flags),
     ("port_change_delay_ms", .natural d.delay)]

def ofJson? (j : Json) : Option DeviceEntry := do
  let r ← j.record? ["type", "predicate", "ports", "module", "flags", "port_change_delay_ms"]
  return {
    label := ← r.required? "type" Json.string?
    predicate := ← r.required? "predicate" Json.string?
    ports := ← r.optional? "ports" (Json.list? PortEntry.ofJson?) []
    module? := ← r.optional? "module" (Json.nullable? ModuleSpec.ofJson?) none
    flags := ← r.optional? "flags" (Json.list? Json.string?) []
    delay := ← r.optional? "port_change_delay_ms" (Json.below? UInt64.size) 0 }

end DeviceEntry

namespace CardSlotEntry

def toJson (s : CardSlotEntry) : Json :=
  ofFields
    [("predicate", ofString s.predicate),
     ("profile", ofOption s.profile),
     ("flags", ofStrings s.flags)]

def ofJson? (j : Json) : Option CardSlotEntry := do
  let r ← j.record? ["predicate", "profile", "flags"]
  return {
    predicate := ← r.required? "predicate" Json.string?
    profile := ← r.optional? "profile" (Json.nullable? Json.string?) none
    flags := ← r.optional? "flags" (Json.list? Json.string?) [] }

end CardSlotEntry

namespace CardEntry

def toJson (c : CardEntry) : Json :=
  ofFields [("type", ofString c.label), ("slots", .array (c.slots.map CardSlotEntry.toJson))]

def ofJson? (j : Json) : Option CardEntry := do
  let r ← j.record? ["type", "slots"]
  return {
    label := ← r.required? "type" Json.string?
    slots := ← r.required? "slots" (Json.list? CardSlotEntry.ofJson?) }

end CardEntry

namespace StreamEntry

def toJson (s : StreamEntry) : Json :=
  ofFields
    [("predicate", ofOption s.predicate),
     ("client", ofOption s.client),
     ("sink", ofOption s.sink),
     ("uid", s.uid.elim .null Json.natural),
     ("exe", ofOption s.exe),
     ("group", ofString s.group),
     ("flags", ofStrings s.flags),
     ("properties", ofOption s.properties)]

def ofJson? (j : Json) : Option StreamEntry := do
  let r ← j.record?
    ["predicate", "client", "sink", "uid", "exe", "group", "flags", "properties"]
  return {
    predicate := ← r.optional? "predicate" (Json.nullable? Json.string?) none
    client := ← r.optional? "client" (Json.nullable? Json.string?) none
    sink := ← r.optional? "sink" (Json.nullable? Json.string?) none
    uid := ← r.optional? "uid" (Json.nullable? (Json.below? UInt32.size)) none
    exe := ← r.optional? "exe" (Json.nullable? Json.string?) none
    group := ← r.optional? "group" Json.string? ""
    flags := ← r.optional? "flags" (Json.list? Json.string?) []
    properties := ← r.optional? "properties" (Json.nullable? Json.string?) none }

end StreamEntry

namespace AppIdSetting

def toJson (a : AppIdSetting) : Json :=
  ofFields
    [("app_id", ofString a.appId), ("predicate", ofOption a.predicate), ("group", ofString a.group)]

def ofJson? (j : Json) : Option AppIdSetting := do
  let r ← j.record? ["app_id", "predicate", "group"]
  return {
    appId := ← r.required? "app_id" Json.string?
    predicate := ← r.optional? "predicate" (Json.nullable? Json.string?) none
    group := ← r.required? "group" Json.string? }

end AppIdSetting

namespace Proplist

def toJson (p : Proplist) : Json := ofFields (p.entries.map fun (k, v) => (k, ofString v))

def ofJson? (j : Json) : Option Proplist := (j.entries? Json.string?).map KeyMap.ofList

end Proplist

namespace PredicateSpec

def toJson (s : PredicateSpec) : Json := ofString s.text

def ofJson? (j : Json) : Option PredicateSpec := do
  (PredicateSpec.parse (← j.string?)).toOption

end PredicateSpec

namespace RuleSet

def toJson (r : RuleSet) : Json :=
  ofFields
    [("engine", r.engine.toJson),
     ("variables", Proplist.toJson r.vars),
     ("groups", .array (r.groups.map GroupEntry.toJson)),
     ("sinks", .array (r.sinks.map DeviceEntry.toJson)),
     ("sources", .array (r.sources.map DeviceEntry.toJson)),
     ("cards", .array (r.cards.map CardEntry.toJson)),
     ("streams", .array (r.streams.map StreamEntry.toJson)),
     ("app_ids", .array (r.appIds.map AppIdSetting.toJson))]

def ofJson? (j : Json) : Option RuleSet := do
  let r ← j.record?
    ["engine", "variables", "groups", "sinks", "sources", "cards", "streams", "app_ids"]
  return {
    engine := ← r.optional? "engine" EngineConfig.ofJson? {}
    vars := ← r.optional? "variables" Proplist.ofJson? .empty
    groups := ← r.optional? "groups" (Json.list? GroupEntry.ofJson?) []
    sinks := ← r.optional? "sinks" (Json.list? DeviceEntry.ofJson?) []
    sources := ← r.optional? "sources" (Json.list? DeviceEntry.ofJson?) []
    cards := ← r.optional? "cards" (Json.list? CardEntry.ofJson?) []
    streams := ← r.optional? "streams" (Json.list? StreamEntry.ofJson?) []
    appIds := ← r.optional? "app_ids" (Json.list? AppIdSetting.ofJson?) [] }

def read? (text : String) : Option RuleSet := (Json.read? text).bind ofJson?

end RuleSet

end AudioRules
