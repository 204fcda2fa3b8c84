import AudioRules.Classifier
import AudioRules.Json.Number
import AudioRules.Json.Reader
import AudioRules.Text.Natural

namespace AudioRules

inductive DeviceState
  | running | idle | suspended
deriving DecidableEq, Repr

structure DeviceNode where
  direction  : Direction
  name       : String
  properties : Proplist
  state      : DeviceState
deriving DecidableEq

namespace DeviceNode

def isRunning (n : DeviceNode) : Bool := n.state == .running

def object (n : DeviceNode) : HostObject := .device n.direction n.name n.properties

end DeviceNode

structure CardNode where
  name       : String
  properties : Proplist
  profiles   : ProfileCatalog
deriving DecidableEq

namespace CardNode

def object (n : CardNode) : HostObject := .card n.name n.properties

end CardNode

-- A playback stream.
structure StreamNode where
  id         : Nat
  properties : Proplist
  client     : Option ClientInfo
deriving DecidableEq

namespace StreamNode

def name (n : StreamNode) : Option String := (HostObject.stream .sink n.properties).name

end StreamNode

structure Snapshot where
  sinks   : List DeviceNode := []
  sources : List DeviceNode := []
  cards   : List CardNode := []
  streams : List StreamNode := []
deriving DecidableEq

namespace Snapshot

-- Reading a dump. Of several values for a key the last one counts.

-- How deep the values of a dump may be nested.
def depthLimit : Nat := 127

mutual

-- Whether everything in a value can be read, with so many levels of nesting left.
def isReadable (levels : Nat) : Json → Bool
  | .natural n     => (Json.natural n).numberText?.isSome
  | .decimal n     => (Json.decimal n).numberText?.isSome
  | .text s        => s.isSome
  | .array items   => 0 < levels && areReadable (levels - 1) items
  | .object fields => 0 < levels && fieldsReadable (levels - 1) fields
  | .null          => true
  | .bool _        => true

def areReadable (levels : Nat) : List Json → Bool
  | []      => true
  | j :: js => isReadable levels j && areReadable levels js

def fieldsReadable (levels : Nat) : List (Option String × Json) → Bool
  | []           => true
  | (k, j) :: fs => k.isSome && isReadable levels j && fieldsReadable levels fs

end

def members? : Json → Option (KeyMap Json)
  | .object fields => some (KeyMap.ofList (fields.filterMap fun (k, j) => k.map fun k => (k, j)))
  | _              => none

def get? (j : Json) (key : String) : Option Json := (members? j).bind (·.get? key)

def string? (j : Json) (key : String) : Option String := (get? j key).bind fun
  | .text s => s
  | _       => none

-- A value as the text of a property; only texts, numbers and truth values can be properties.
def propertyText? : Json → Option String
  | .text s     => s
  | .natural n  => (Json.natural n).numberText?
  | .decimal n  => (Json.decimal n).numberText?
  | .bool b     => some (if b then "true" else "false")
  | _           => none

def proplist (props : KeyMap Json) : Proplist :=
  KeyMap.ofList (props.entries.filterMap fun (k, j) => (propertyText? j).map fun v => (k, v))

def propString? (props : KeyMap Json) (key : String) : Option String :=
  (props.get? key).bind fun
    | .text s => s
    | _       => none

def natural? : Json → Option Nat
  | .natural n => if n < UInt64.size then some n else none
  | _          => none

-- A number, or a text that is one.
def propNumber? (props : KeyMap Json) (key : String) : Option Nat :=
  (props.get? key).bind fun
    | .text s => s.bind (Text.naturalBelow? UInt64.size)
    | j       => natural? j

def props? (j : Json) : Option (KeyMap Json) := do members? (← get? (← get? j "info") "props")

def id? (j : Json) : Option Nat := (get? j "id").bind natural?

def state (j : Json) : DeviceState :=
  match (get? j "info").bind (string? · "state") with
  | some "running"   => .running
  | some "suspended" => .suspended
  | _                => .idle

def profiles (j : Json) : ProfileCatalog :=
  match (get? j "info").bind fun info => (get? info "params").bind (get? · "EnumProfile") with
  | some (.array items) => items.filterMap fun p =>
      (string? p "name").map fun name =>
        (name, ((string? p "available").map Availability.ofHost).getD .unknown)
  | _ => []

def client (props : KeyMap Json) : ClientInfo where
  name  := (propString? props "application.name" <|> propString? props "client.name").getD ""
  appId := propString? props "application.id"
  uid   := (propNumber? props "pipewire.sec.uid").filter (· < UInt32.size)
  exe   := propString? props "application.process.binary"

-- The client that an object describes, with its id.
def client? (j : Json) : Option (Nat × ClientInfo) :=
  if string? j "type" = some "PipeWire:Interface:Client" then do
    return (← id? j, client (← props? j))
  else none

-- Of several clients with an id the last one counts.
def clientOf? (clients : List (Nat × ClientInfo)) (id : Nat) : Option ClientInfo :=
  clients.reverse.lookup id

-- An object that a snapshot holds.
inductive Node
  | device (n : DeviceNode)
  | card (n : CardNode)
  | stream (n : StreamNode)
deriving DecidableEq

def node? (clients : List (Nat × ClientInfo)) (j : Json) : Option Node := do
  let type ← string? j "type"
  let props ← props? j
  let device (d : Direction) : Option Node := do
    let name ← propString? props "node.name"
    return .device { direction := d, name, properties := proplist props, state := state j }
  match type, propString? props "media.class" with
  | "PipeWire:Interface:Node", some "Audio/Sink"   => device .sink
  | "PipeWire:Interface:Node", some "Audio/Source" => device .source
  | "PipeWire:Interface:Node", some "Stream/Output/Audio" => do
    discard (propString? props "node.name")
    return .stream {
      id := (id? j).getD 0
      properties := proplist props
      client := (propNumber? props "client.id").bind (clientOf? clients) }
  | "PipeWire:Interface:Device", some "Audio/Device" => do
    let name ← propString? props "device.name"
    return .card { name, properties := proplist props, profiles := profiles j }
  | _, _ => none

def ofNodes (nodes : List Node) : Snapshot where
  sinks := nodes.filterMap fun
    | .device n => if n.direction = .sink then some n else none
    | _ => none
  sources := nodes.filterMap fun
    | .device n => if n.direction = .source then some n else none
    | _ => none
  cards := nodes.filterMap fun
    | .card n => some n
    | _ => none
  streams := nodes.filterMap fun
    | .stream n => some n
    | _ => none

-- The clients come first, since a stream may stand before its client.
def ofObjects (objects : List Json) : Snapshot :=
  ofNodes (objects.filterMap (node? (objects.filterMap client?)))

-- A dump is an array, of any values.
def parse (text : String) : Except PolicyError Snapshot :=
  match Json.read? text with
  | some (.array objects) =>
    if isReadable depthLimit (.array objects) then .ok (ofObjects objects) else .error .unreadable
  | _ => .error .unreadable

end Snapshot

end AudioRules
