import AudioRules.Device

namespace AudioRules

-- What a host calls a loaded module.
abbrev ModuleIndex := UInt32

-- A host in states `σ`.
structure ModuleHost (σ : Type) where
  load          : String → Option String → σ → Except ModuleError ModuleIndex × σ
  unload        : ModuleIndex → σ → σ
  -- unload once nothing uses the module
  requestUnload : ModuleIndex → σ → σ

structure LoadedModule where
  index : ModuleIndex
  spec  : ModuleSpec
  -- of the rule for which it was loaded
  flags : FlagSet
deriving DecidableEq

namespace LoadedModule

def unload (m : LoadedModule) (host : ModuleHost σ) (s : σ) : σ :=
  if m.flags.has DeviceFlag.moduleUnloadImmediately then host.unload m.index s
  else host.requestUnload m.index s

end LoadedModule

-- At most one module is tracked for each direction.
structure ModuleSlots where
  sink   : Option LoadedModule := none
  source : Option LoadedModule := none
deriving DecidableEq

namespace ModuleSlots

def get (m : ModuleSlots) : Direction → Option LoadedModule
  | .sink   => m.sink
  | .source => m.source

def set (m : ModuleSlots) (d : Direction) (loaded : Option LoadedModule) : ModuleSlots :=
  match d with
  | .sink   => { m with sink := loaded }
  | .source => { m with source := loaded }

@[simp]
theorem get_set {m : ModuleSlots} : (m.set d loaded).get d = loaded := by
  cases d <;> rfl

theorem get_set_of_ne {m : ModuleSlots} (h : d' ≠ d) : (m.set d loaded).get d' = m.get d' := by
  cases d <;> cases d' <;> first | rfl | exact absurd rfl h

def index? (m : ModuleSlots) (d : Direction) : Option ModuleIndex := (m.get d).map (·.index)

-- Loads what the data of a rule asks for into an empty slot.
def load (m : ModuleSlots) (d : Direction) (data : Device.Data) (host : ModuleHost σ) (s : σ) :
    Except ModuleError (Option ModuleIndex) × ModuleSlots × σ :=
  match data.module? with
  | none => (.ok none, m, s)
  | some spec =>
    match host.load spec.name spec.args s with
    | (.ok index, s) => (.ok (some index), m.set d (some ⟨index, spec, data.flags⟩), s)
    | (.error e, s)  => (.error e, m, s)

-- Brings the module of a direction in line with a rule, and tells what is tracked then.
def update (m : ModuleSlots) (d : Direction) (data : Device.Data) (host : ModuleHost σ) (s : σ) :
    Except ModuleError (Option ModuleIndex) × ModuleSlots × σ :=
  match m.get d with
  | none => m.load d data host s
  | some loaded =>
    if data.module? = some loaded.spec then (.ok (some loaded.index), m, s)
    else (m.set d none).load d data host (loaded.unload host s)

-- Unloads the module of a direction if the rule now active does not use it.
def reconcile (m : ModuleSlots) (d : Direction) (rule : Option Device.Rule) (host : ModuleHost σ)
    (s : σ) : Bool × ModuleSlots × σ :=
  match m.get d, rule with
  | some loaded, some rule =>
    if rule.data.module? = some loaded.spec then (false, m, s)
    else (true, m.set d none, loaded.unload host s)
  | _, _ => (false, m, s)

-- Forgets a module that the host has lost.
def invalidate (m : ModuleSlots) (d : Direction) : Option LoadedModule × ModuleSlots :=
  (m.get d, m.set d none)

def unlinked (m : ModuleSlots) (index : ModuleIndex) : Option Direction × ModuleSlots :=
  match Direction.all.find? fun d => m.index? d == some index with
  | some d => (some d, m.set d none)
  | none   => (none, m)

-- At the end no module waits.
def shutdown (m : ModuleSlots) (host : ModuleHost σ) (s : σ) : ModuleSlots × σ :=
  ({}, (m.sink.toList ++ m.source.toList).foldl (fun s loaded => host.unload loaded.index s) s)

end ModuleSlots

end AudioRules
