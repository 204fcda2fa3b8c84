import AudioRules.CommandLine.Group
import AudioRules.Proofs.CommandLine.Files
import AudioRules.Proofs.CommandLine.Session
import AudioRules.Proofs.KeyMap.Entries
import AudioRules.Proofs.Snapshot

namespace AudioRules

theorem Snapshot.direction_of_mem_sinks {s : Snapshot} (h : parse text = .ok s) {n : DeviceNode}
    (hn : n ∈ s.sinks) : n.direction = .sink := by
  obtain ⟨objects, _, rfl⟩ := parse_eq_ok_iff.1 h
  have ⟨node, _, hs⟩ := List.mem_filterMap.1 hn
  cases node with
  | device n' =>
    have ⟨hd, hn⟩ := Option.ite_none_right_eq_some.1 hs
    exact Option.some.inj hn ▸ hd
  | card _ | stream _ => cases hs

namespace StreamDescription

-- A description that says of a stream all that there is to say.
structure Describes (d : StreamDescription) (n : StreamNode) : Prop where
  client : d.client = n.client.map (·.name)
  appId  : d.appId = n.client.bind (·.appId)
  uid    : d.uid = n.client.bind (·.uid)
  exe    : d.exe = n.client.bind (·.exe)
  props  : ∃ es : List (String × String), es.Perm n.properties.entries ∧
    d.props = es.map fun (key, value) => key ++ "=" ++ value

-- One of them, with a route.
def ofStream (n : StreamNode) (route : Option String) : StreamDescription where
  appId  := n.client.bind (·.appId)
  client := n.client.map (·.name)
  uid    := n.client.bind (·.uid)
  exe    := n.client.bind (·.exe)
  props  := n.properties.entries.map fun (key, value) => key ++ "=" ++ value
  route  := route

theorem describes_ofStream (n : StreamNode) (route : Option String) :
    (ofStream n route).Describes n :=
  ⟨rfl, rfl, rfl, rfl, n.properties.entries, .refl _, rfl⟩

variable {d : StreamDescription} {n : StreamNode}

theorem setProperty_of_key {key : String} (h : '=' ∉ key.toList) (properties : Proplist)
    (value : String) :
    setProperty properties (key ++ "=" ++ value) = .ok (properties.insert key value) := by
  have hc : Text.cut? '=' (key ++ "=" ++ value) = some (key, value) :=
    Text.cut?_eq_some_iff.2 ⟨by simp, h⟩
  rw [setProperty, hc]

theorem foldlM_setProperty {es : List (String × String)} (h : ∀ e ∈ es, '=' ∉ e.1.toList)
    (properties : Proplist) :
    (es.map fun (key, value) => key ++ "=" ++ value).foldlM setProperty properties =
      .ok (es.foldl (fun properties e => properties.insert e.1 e.2) properties) := by
  induction es generalizing properties with
  | nil => rfl
  | cons e es hi =>
    have ⟨he, hes⟩ := List.forall_mem_cons.1 h
    rw [List.map_cons, List.foldlM_cons, setProperty_of_key he]
    exact hi hes _

namespace Describes

theorem clientInfo_eq (h : d.Describes n) : d.clientInfo = n.client := by
  rw [clientInfo, h.client, h.appId, h.uid, h.exe]
  cases n.client <;> rfl

theorem properties_eq (h : d.Describes n) (hk : ∀ e ∈ n.properties.entries, '=' ∉ e.1.toList) :
    d.properties = .ok n.properties := by
  obtain ⟨es, hp, hd⟩ := h.props
  have hg : d.props.foldlM setProperty .empty = .ok n.properties := by
    rw [hd, foldlM_setProperty fun e he => hk e (hp.mem_iff.1 he)]
    exact congrArg _ (KeyMap.ofList_of_perm_entries hp)
  -- There is no program to name, as a stream without a client says nothing of one.
  simp only [properties, hg, h.client, h.exe]
  cases n.client <;> rfl

end Describes

end StreamDescription

namespace Classify

variable {c : Classifier} {s : Snapshot}

-- A running sink that has a type.
structure IsActive (c : Classifier) (n : DeviceNode) : Prop where
  running : n.isRunning
  typed   : c.sinks.classify n.object .none .none ≠ []

-- The name of the first running sink that has a type, if there is one.
def IsRoute (c : Classifier) (s : Snapshot) (route : Option String) : Prop :=
  ∀ name, route = some name ↔ ∃ before n after, s.sinks = before ++ n :: after ∧
    IsActive c n ∧ (∀ n' ∈ before, ¬IsActive c n') ∧ n.name = name

theorem active?_name (c : Classifier) (ns : List DeviceNode) : (active? c ns).map (·.2) =
    (ns.find? fun n => n.isRunning && !(typesOf c n).isEmpty).map (·.name) := by
  induction ns with
  | nil => rfl
  | cons n ns hi =>
    rw [List.find?_cons, active?, List.filter_cons]
    cases n.isRunning with
    | false => exact hi
    | true =>
      cases ht : typesOf c n with
      | nil      => simpa [ht, active?] using hi
      | cons _ _ => simp [ht]

theorem typesOf_sink {n : DeviceNode} (h : n.direction = .sink) :
    typesOf c n = c.sinks.classify n.object .none .none := by
  unfold typesOf
  rw [h]
  rfl

theorem isActive_iff {n : DeviceNode} (h : n.direction = .sink) :
    (n.isRunning && !(typesOf c n).isEmpty) = true ↔ IsActive c n := by
  rw [Bool.and_eq_true, Bool.not_eq_true', List.isEmpty_eq_false_iff, typesOf_sink h]
  exact ⟨fun ⟨hr, ht⟩ => ⟨hr, ht⟩, fun ⟨hr, ht⟩ => ⟨hr, ht⟩⟩

theorem active?_eq_some_iff (hd : ∀ n ∈ s.sinks, n.direction = .sink) (name : String) :
    (active? c s.sinks).map (·.2) = some name ↔ ∃ before n after, s.sinks = before ++ n :: after ∧
      IsActive c n ∧ (∀ n' ∈ before, ¬IsActive c n') ∧ n.name = name := by
  simp only [active?_name, Option.map_eq_some_iff, List.find?_eq_some_iff_append]
  constructor
  case mp =>
    rintro ⟨n, ⟨ha, before, after, hs, hb⟩, hn⟩
    rw [hs, List.forall_mem_append, List.forall_mem_cons] at hd
    refine ⟨before, n, after, hs, (isActive_iff hd.2.1).1 ha, fun n' hm h => ?_, hn⟩
    have hn := hb n' hm
    rw [(isActive_iff (hd.1 n' hm)).2 h] at hn
    cases hn
  case mpr =>
    rintro ⟨before, n, after, hs, ha, hb, hn⟩
    rw [hs, List.forall_mem_append, List.forall_mem_cons] at hd
    refine ⟨n, ⟨(isActive_iff hd.2.1).2 ha, before, after, hs, fun n' hm => ?_⟩, hn⟩
    rw [Bool.not_eq_true', ← Bool.not_eq_true, isActive_iff (hd.1 n' hm)]
    exact hb n' hm

theorem isRoute_iff (hd : ∀ n ∈ s.sinks, n.direction = .sink) :
    IsRoute c s route ↔ route = (active? c s.sinks).map (·.2) := by
  simp only [IsRoute, ← active?_eq_some_iff hd]
  exact ⟨fun h => Option.ext h, fun h name => h ▸ Iff.rfl⟩

theorem routed_eq (c : Classifier) (s : Snapshot) :
    routed c s = Group.routed c ((active? c s.sinks).map (·.2)) := by
  unfold routed
  cases active? c s.sinks <;> rfl

end Classify

namespace Group

-- Whatever follows it, the properties of the stream.
structure Shows (o : Outcome) (g : StreamGroup) : Prop where
  success : o.failure = none
  lines   : ∃ rest, o.stdout = ["group:  " ++ g.group, "flags:  " ++ StreamFlag.report g.flags,
    "origin: " ++ g.origin.name] ++ rest

theorem run_shows {m : Machine τ} {d : StreamDescription} (hr : m.rules path = .ok rules)
    (hp : d.properties = .ok properties) :
    Shows (run m path d) (resolve rules d properties).1 := by
  rw [run, hr]
  dsimp only
  rw [hp]
  refine ⟨rfl, ?_⟩
  rw [Outcome.stdout, List.filterMap_append, Line.filterMap_logged, Line.filterMap_printed]
  exact ⟨_, rfl⟩

end Group

namespace Classify

variable {m : Machine τ} {options : ClassifyOptions} {s : Snapshot} {rules : RuleSet}

-- The line for a stream, with the group that is found for it.
def groupLine (n : StreamNode) (g : StreamGroup) : String :=
  let name := n.name.getD "<unnamed>"
  s!"  [{n.id}] {name}: {g.group} ({g.origin.name})"

theorem report_streams (c : Classifier) (groups : GroupDirectory) (again : Bool) (s : Snapshot) :
    ∃ before, report c groups again s =
      before ++ "Streams:" :: s.streams.map (streamLine c groups) := by
  refine ⟨"Sinks:" :: s.sinks.flatMap (deviceLines c) ++
    "" :: "Sources:" :: s.sources.flatMap (deviceLines c) ++
    "" :: "Cards:" :: s.cards.flatMap (cardLines c again) ++ [""], ?_⟩
  simp [report]

-- Modules have no part in the groups of streams.
theorem run_streams (hr : m.rules path = .ok rules) (hs : m.snapshot options.dump = .ok s) :
    ∃ before, (run m path options).stdout = before ++ "Streams:" ::
        s.streams.map (streamLine (routed rules.build.1 s) (.table rules.groupTable)) ∧
      (run m path options).failure = none := by
  have ⟨said, modules, ho, hf⟩ := stdout_run hr hs
  have ⟨before, hb⟩ := report_streams { routed rules.build.1 s with modules }
    (.table rules.groupTable) options.reclassify s
  refine ⟨said ++ before, ?_, hf⟩
  rw [ho, hb, List.append_assoc]
  rfl

-- What `group` makes of a description is what `classify` makes of the stream.
theorem groupOf_described {n : StreamNode} {d : StreamDescription}
    (hd : ∀ n ∈ s.sinks, n.direction = .sink) (h : d.Describes n)
    (hr : IsRoute rules.build.1 s d.route) : (Group.resolve rules d n.properties).1 =
      groupOf (routed rules.build.1 s) (.table rules.groupTable) n := by
  rw [Group.resolve, groupOf, h.clientInfo_eq, routed_eq, ← (isRoute_iff hd).1 hr]

-- For every stream in a dump there is a line with a group and an origin, and `group` shows the same
-- for any description of the stream on the route.
theorem agrees_with_group (hr : m.rules path = .ok rules) (hs : m.snapshot options.dump = .ok s) :
    ∃ before lines, (run m path options).stdout = before ++ "Streams:" :: lines ∧
      (run m path options).failure = none ∧
      List.Forall₂ (fun n line => ∃ g : StreamGroup,
        line = groupLine n g ∧
        ((∀ e ∈ n.properties.entries, '=' ∉ e.1.toList) → ∀ d : StreamDescription,
          d.Describes n → IsRoute rules.build.1 s d.route → Group.Shows (Group.run m path d) g))
        s.streams lines := by
  have ⟨before, ho, hf⟩ := run_streams hr hs
  have ⟨text, hp⟩ := Machine.parsed_of_snapshot hs
  refine ⟨before, _, ho, hf, List.forall₂_map_right_iff.2 (List.forall₂_same.2 fun n _ => ?_)⟩
  refine ⟨groupOf (routed rules.build.1 s) (.table rules.groupTable) n, rfl, fun hk d h hd => ?_⟩
  rw [← groupOf_described (fun _ => Snapshot.direction_of_mem_sinks hp) h hd]
  exact Group.run_shows hr (h.properties_eq hk)

-- A player while the sink that its group is bound to is running.
def player : RuleSet where
  groups  := [{ name := "player" }]
  sinks   := [{ label := "ihf", predicate := "equals:speaker" }]
  streams := [{ exe := "mpv", sink := "speaker", group := "player" }]

def music : StreamNode where
  id         := 50
  properties := .ofList [
    ("media.class", "Stream/Output/Audio"), ("node.name", "music"),
    ("application.process.binary", "mpv")]
  client     := none

def onSpeaker : Snapshot where
  sinks   := [{
    direction  := .sink
    name       := "speaker"
    properties := .ofList [("media.class", "Audio/Sink"), ("node.name", "speaker")]
    state      := .running }]
  streams := [music]

def onSpeakerFiles : List (String × List String) := [
  ("rules.json", [
    "\x7b\"groups\":[\x7b\"name\":\"player\"\x7d],",
    "\"sinks\":[\x7b\"type\":\"ihf\",\"predicate\":\"equals:speaker\"\x7d],",
    "\"streams\":[\x7b\"exe\":\"mpv\",\"sink\":\"speaker\",\"group\":\"player\"\x7d]\x7d"]),
  ("dump.json", [
    "[\x7b\"type\":\"PipeWire:Interface:Node\",",
    "\"info\":\x7b\"state\":\"running\",\"props\":\x7b",
    "\"media.class\":\"Audio/Sink\",",
    "\"node.name\":\"speaker\"\x7d\x7d\x7d,",
    "\x7b\"id\":50,\"type\":\"PipeWire:Interface:Node\",",
    "\"info\":\x7b\"props\":\x7b",
    "\"media.class\":\"Stream/Output/Audio\",",
    "\"node.name\":\"music\",",
    "\"application.process.binary\":\"mpv\"\x7d\x7d\x7d]"])]

theorem rules_onSpeaker : (Machine.ofFiles onSpeakerFiles).rules "rules.json" = .ok player :=
  Machine.rules_ofFiles rfl (by decide +kernel) (by decide +kernel)

theorem snapshot_onSpeaker :
    (Machine.ofFiles onSpeakerFiles).snapshot (some "dump.json") = .ok onSpeaker :=
  Machine.snapshot_ofFiles rfl (by decide +kernel) (by decide +kernel)

theorem agrees_on_speaker :
    let m := Machine.ofFiles onSpeakerFiles
    let options : ClassifyOptions := { dump := some "dump.json" }
    m.rules "rules.json" = .ok player ∧ m.snapshot options.dump = .ok onSpeaker ∧
      ∃ g, groupLine music g ∈ (run m "rules.json" options).stdout ∧
        Group.Shows (Group.run m "rules.json" (.ofStream music (some "speaker"))) g := by
  intro m options
  have hs : m.snapshot options.dump = .ok onSpeaker := snapshot_onSpeaker
  have hd : IsRoute player.build.1 onSpeaker (some "speaker") :=
    (isRoute_iff (by decide)).2 (by decide +kernel)
  have ⟨before, lines, ho, _, hl⟩ := agrees_with_group rules_onSpeaker hs
  cases hl with
  | cons h hl =>
    obtain ⟨g, rfl, hg⟩ := h
    refine ⟨rules_onSpeaker, hs, g, by rw [ho]; simp, ?_⟩
    exact hg (by decide +kernel) _ (StreamDescription.describes_ofStream ..) hd

end Classify

end AudioRules
