import AudioRules.Proofs.Engine.Run

namespace AudioRules

-- A call of a host, and what a load came to.
inductive HostCall
  | load (name : String) (args : Option String) (result : Except ModuleError ModuleIndex)
  | unload (index : ModuleIndex)
  | requestUnload (index : ModuleIndex)

-- The same host, with a log of what it is asked to do.
def ModuleHost.recorded (host : ModuleHost σ) : ModuleHost (σ × List HostCall) where
  load name args s :=
    let (result, s') := host.load name args s.1
    (result, s', s.2 ++ [.load name args result])
  unload index s        := (host.unload index s.1, s.2 ++ [.unload index])
  requestUnload index s := (host.requestUnload index s.1, s.2 ++ [.requestUnload index])

-- A host that numbers what it loads.
def ModuleHost.counting : ModuleHost ModuleIndex where
  load _ _ n        := (.ok n, n + 1)
  unload _ n        := n
  requestUnload _ n := n

namespace LoadedModule

-- How the host is asked to unload a module when its direction has another type.
def release (m : LoadedModule) : HostCall :=
  if m.flags.has DeviceFlag.moduleUnloadImmediately then .unload m.index
  else .requestUnload m.index

end LoadedModule

-- What is asked of a host to replace the module of a direction, from what is tracked before to what
-- is tracked after. A module is loaded only for the data of a rule, and only when none is tracked.
inductive Turnover (data? : Option Device.Data) :
    Option LoadedModule → List HostCall → Option LoadedModule → Prop
  | stay : Turnover data? t [] t
  | load : data? = some data → data.module? = some spec →
      Turnover data? none [.load spec.name spec.args (.ok index)] (some ⟨index, spec, data.flags⟩)
  | refused : data? = some data → data.module? = some spec →
      Turnover data? none [.load spec.name spec.args (.error e)] none
  | release : Turnover data? none calls t →
      Turnover data? (some loaded) (loaded.release :: calls) t

inductive ModuleEvent
  -- for the rule that was named, if there was one
  | call (data? : Option Device.Data) (call : HostCall)
  -- no longer tracked, and the host is not told
  | lost (index : ModuleIndex)

namespace ModuleEvent

def hostCall? : ModuleEvent → Option HostCall
  | call _ c => some c
  | lost _   => none

def loaded? : ModuleEvent → Option ModuleIndex
  | call _ (.load _ _ (.ok index)) => some index
  | _                              => none

def released? : ModuleEvent → Option ModuleIndex
  | call _ (.unload index) | call _ (.requestUnload index) => some index
  | _                                                      => none

def lost? : ModuleEvent → Option ModuleIndex
  | lost index => some index
  | call _ _   => none

-- Events in order, from what is tracked before them to what is tracked after them:
-- 1. a load comes when nothing is tracked, and is for the module of the rule that was named
-- 2. what the host unloads, and what gets lost, is what is tracked
inductive Tracks : Option ModuleIndex → List ModuleEvent → Option ModuleIndex → Prop
  | refl : Tracks t [] t
  | load : data.module? = some ⟨name, args⟩ → Tracks (some index) es t →
      Tracks none (call (some data) (.load name args (.ok index)) :: es) t
  | refused : data.module? = some ⟨name, args⟩ → Tracks none es t →
      Tracks none (call (some data) (.load name args (.error e)) :: es) t
  | unload : Tracks none es t → Tracks (some index) (call data? (.unload index) :: es) t
  | requestUnload : Tracks none es t →
      Tracks (some index) (call data? (.requestUnload index) :: es) t
  | lost : Tracks none es t → Tracks (some index) (lost index :: es) t

namespace Tracks

theorem eq_of_nil (h : Tracks t [] u) : t = u := by
  cases h
  rfl

theorem trans (h : Tracks t es u) (h' : Tracks u es' v) : Tracks t (es ++ es') v := by
  induction h
  case refl               => exact h'
  case load hd _ hi       => exact .load hd (hi h')
  case refused hd _ hi    => exact .refused hd (hi h')
  case unload hi          => exact .unload (hi h')
  case requestUnload hi   => exact .requestUnload (hi h')
  case lost hi            => exact .lost (hi h')

theorem split (h : Tracks t (es ++ es') v) : ∃ u, Tracks t es u ∧ Tracks u es' v := by
  induction es generalizing t
  case nil => exact ⟨t, .refl, h⟩
  case cons hi =>
    cases h
    case load hd h        => have ⟨u, h₁, h₂⟩ := hi h; exact ⟨u, .load hd h₁, h₂⟩
    case refused hd h     => have ⟨u, h₁, h₂⟩ := hi h; exact ⟨u, .refused hd h₁, h₂⟩
    case unload h         => have ⟨u, h₁, h₂⟩ := hi h; exact ⟨u, .unload h₁, h₂⟩
    case requestUnload h  => have ⟨u, h₁, h₂⟩ := hi h; exact ⟨u, .requestUnload h₁, h₂⟩
    case lost h           => have ⟨u, h₁, h₂⟩ := hi h; exact ⟨u, .lost h₁, h₂⟩

theorem perm (h : Tracks t es u) :
    (t.toList ++ es.filterMap loaded?).Perm
      (u.toList ++ es.filterMap released? ++ es.filterMap lost?) := by
  induction h
  case refl                => simp
  case load hi             => exact hi
  case refused hi          => exact hi
  case unload hi           => exact (hi.cons _).trans (List.perm_middle.append_right _).symm
  case requestUnload hi    => exact (hi.cons _).trans (List.perm_middle.append_right _).symm
  case lost hi             => exact (hi.cons _).trans List.perm_middle.symm

theorem of_release {m : LoadedModule} (h : Tracks none es t) :
    Tracks (some m.index) (call data? m.release :: es) t := by
  unfold LoadedModule.release
  split
  case isTrue  => exact .unload h
  case isFalse => exact .requestUnload h

-- Whatever rule the events name, if it is the one that is loaded for.
theorem of_turnover (h : Turnover data? t calls u)
    (hd : ∀ data, data? = some data → named? = some data) :
    Tracks (t.map (·.index)) (calls.map (.call named?)) (u.map (·.index)) := by
  induction h
  case stay            => exact .refl
  case load hr hs      => exact hd _ hr ▸ .load hs .refl
  case refused hr hs   => exact hd _ hr ▸ .refused hs .refl
  case release hi      => exact of_release hi

end Tracks

end ModuleEvent

-- What an operation asks of a host in a state. Nothing depends on the log.
def Asks (op : {τ : Type} → ModuleHost τ → τ → α × τ) (host : ModuleHost σ) (s : σ)
    (calls : List HostCall) : Prop :=
  ∀ log, op host.recorded (s, log) = ((op host s).1, (op host s).2, log ++ calls)

namespace ModuleSlots

open ModuleEvent

variable {σ : Type} {m : ModuleSlots} {d : Direction}

theorem release_recorded (loaded : LoadedModule) (host : ModuleHost σ) (s : σ)
    (log : List HostCall) :
    loaded.unload host.recorded (s, log) = (loaded.unload host s, log ++ [loaded.release]) := by
  unfold LoadedModule.unload LoadedModule.release
  split <;> rfl

theorem load_asks (h : m.get d = none) (data : Device.Data) (host : ModuleHost σ) (s : σ) :
    ∃ calls, Asks (fun host s => (m.load d data host s).2) host s calls ∧
      Turnover (some data) none calls ((m.load d data host s).2.1.get d) := by
  cases hd : data.module? with
  | none =>
    refine ⟨[], fun log => ?_, ?_⟩
    · simp [load, hd]
    · simpa [load, hd, h] using .stay
  | some spec =>
    cases hl : host.load spec.name spec.args s with
    | mk result s' =>
      refine ⟨[.load spec.name spec.args result], fun log => ?_, ?_⟩
      · cases result <;> simp [load, hd, hl, ModuleHost.recorded]
      · cases result with
        | error e  => simpa [load, hd, hl, h] using .refused rfl hd
        | ok index => simpa [load, hd, hl] using .load rfl hd

theorem update_asks (m : ModuleSlots) (d : Direction) (data : Device.Data) (host : ModuleHost σ)
    (s : σ) :
    ∃ calls, Asks (fun host s => (m.update d data host s).2) host s calls ∧
      Turnover (some data) (m.get d) calls ((m.update d data host s).2.1.get d) := by
  cases hm : m.get d with
  | none =>
    simpa [update, hm] using load_asks hm data host s
  | some loaded =>
    by_cases hs : data.module? = some loaded.spec
    case pos =>
      refine ⟨[], fun log => ?_, ?_⟩
      · simp [update, hm, hs]
      · simpa [update, hm, hs] using .stay
    case neg =>
      have hn : (m.set d none).get d = none := get_set
      have ⟨calls, ha, ht⟩ := load_asks hn data host (loaded.unload host s)
      refine ⟨loaded.release :: calls, fun log => ?_, ?_⟩
      · simpa [update, hm, hs, release_recorded] using ha (log ++ [loaded.release])
      · simpa [update, hm, hs] using .release ht

-- Nothing is loaded when types are reconciled.
theorem reconcile_asks (m : ModuleSlots) (d : Direction) (rule : Option Device.Rule)
    (host : ModuleHost σ) (s : σ) :
    ∃ calls, Asks (fun host s => (m.reconcile d rule host s).2) host s calls ∧
      Turnover none (m.get d) calls ((m.reconcile d rule host s).2.1.get d) := by
  cases hm : m.get d with
  | none => exact ⟨[], fun log => by simp [reconcile, hm], by simpa [reconcile, hm] using .stay⟩
  | some loaded =>
    cases rule with
    | none => exact ⟨[], fun log => by simp [reconcile, hm], by simpa [reconcile, hm] using .stay⟩
    | some rule =>
      by_cases hs : rule.data.module? = some loaded.spec
      case pos =>
        exact ⟨[], fun log => by simp [reconcile, hm, hs], by simpa [reconcile, hm, hs] using .stay⟩
      case neg =>
        refine ⟨[loaded.release], fun log => ?_, ?_⟩
        · simp [reconcile, hm, hs, release_recorded]
        · simpa [reconcile, hm, hs] using .release .stay

theorem shutdown_asks (m : ModuleSlots) (host : ModuleHost σ) (s : σ) :
    Asks (fun host s => m.shutdown host s) host s
      ((Direction.all.filterMap m.index?).map .unload) := by
  intro log
  cases hk : m.sink <;> cases ho : m.source <;>
    simp [shutdown, index?, get, Direction.all, hk, ho, ModuleHost.recorded]

theorem load_preserves (h : d' ≠ d) (m : ModuleSlots) (data : Device.Data) (host : ModuleHost σ)
    (s : σ) : (m.load d data host s).2.1.get d' = m.get d' := by
  unfold load
  split
  · rfl
  · split
    · exact get_set_of_ne h
    · rfl

theorem update_preserves (h : d' ≠ d) (m : ModuleSlots) (data : Device.Data) (host : ModuleHost σ)
    (s : σ) : (m.update d data host s).2.1.get d' = m.get d' := by
  unfold update
  split
  · exact load_preserves h m data host s
  · split
    · rfl
    · exact (load_preserves h ..).trans (get_set_of_ne h)

theorem reconcile_preserves (h : d' ≠ d) (m : ModuleSlots) (rule : Option Device.Rule)
    (host : ModuleHost σ) (s : σ) : (m.reconcile d rule host s).2.1.get d' = m.get d' := by
  unfold reconcile
  split
  · split
    · rfl
    · exact get_set_of_ne h
  · rfl

theorem index?_congr {m' : ModuleSlots} (h : m'.get d = m.get d) : m'.index? d = m.index? d := by
  simp [index?, h]

end ModuleSlots

namespace EngineCall

variable {σ : Type}

def hostCalls (host : ModuleHost σ) (c : Classifier) (s : σ) (call : EngineCall) : List HostCall :=
  (call.step host.recorded c (s, [])).2.2

-- What happens to the modules, each event with the direction that it concerns. Shutting down goes
-- over the directions that track a module.
def events (host : ModuleHost σ) (c : Classifier) (s : σ) :
    EngineCall → List (Direction × ModuleEvent)
  | updateModule d label =>
    ((updateModule d label).hostCalls host c s).map fun call =>
      (d, .call (((c.devices d).get? label).map (·.data)) call)
  | reconcileModules d label =>
    ((reconcileModules d label).hostCalls host c s).map fun call =>
      (d, .call (((c.devices d).get? label).map (·.data)) call)
  | invalidateModule d   => (c.invalidateModule d).1.toList.map fun loaded => (d, .lost loaded.index)
  | moduleUnlinked index => (c.moduleUnlinked index).1.toList.map fun d => (d, .lost index)
  | shutdown =>
    ((Direction.all.filter fun d => (c.modules.get d).isSome).zip (shutdown.hostCalls host c s)).map
      fun (d, call) => (d, .call none call)
  | _ => []

def journal (host : ModuleHost σ) (c : Classifier) (s : σ) :
    List EngineCall → List (Direction × ModuleEvent)
  | []            => []
  | call :: calls =>
    call.events host c s ++
      journal host (call.step host c s).1 (call.step host c s).2 calls

theorem journal_append_singleton (host : ModuleHost σ) (c : Classifier) (s : σ)
    (calls : List EngineCall) (call : EngineCall) :
    journal host c s (calls ++ [call]) = journal host c s calls ++
      call.events host (run host c s calls).1 (run host c s calls).2 := by
  induction calls generalizing c s with
  | nil                 => simp [journal, run]
  | cons first calls hi => simp [journal, run, hi]

-- The part of a journal that concerns one direction.
def history (d : Direction) (journal : List (Direction × ModuleEvent)) : List ModuleEvent :=
  journal.filterMap fun (d', event) => if d' = d then some event else none

@[simp]
theorem history_append (d : Direction) (es es' : List (Direction × ModuleEvent)) :
    history d (es ++ es') = history d es ++ history d es' :=
  List.filterMap_append

theorem history_map (d d' : Direction) (f : α → ModuleEvent) (as : List α) :
    history d (as.map fun a => (d', f a)) = if d' = d then as.map f else [] := by
  simp only [history, List.filterMap_map, Function.comp_def]
  split <;> simp

theorem hostCalls_eq {call : EngineCall} {host : ModuleHost σ}
    (h : Asks (fun host s => call.step host c s) host s calls) : call.hostCalls host c s = calls := by
  simp [EngineCall.hostCalls, h []]

end EngineCall

end AudioRules
