import AudioRules.Proofs.Json.Decode
import AudioRules.Proofs.KeyMap.Entries
import AudioRules.RuleSet.Document

namespace AudioRules

open Json

-- Numbers as documents have them. Delays have 64 bits, and user ids have 32.

def DeviceEntry.InRange (d : DeviceEntry) : Prop := d.delay < UInt64.size

def StreamEntry.InRange (s : StreamEntry) : Prop := ∀ uid, s.uid = some uid → uid < UInt32.size

structure RuleSet.InRange (r : RuleSet) : Prop where
  sinks   : ∀ d ∈ r.sinks, d.InRange
  sources : ∀ d ∈ r.sources, d.InRange
  streams : ∀ s ∈ r.streams, s.InRange

theorem EngineConfig.ofJson?_toJson (c : EngineConfig) : ofJson? c.toJson = some c := by
  refine bind_record?_ofFields rfl (by decide) ?_
  simp [Record.optional?]

theorem ModuleSpec.ofJson?_toJson (m : ModuleSpec) : ofJson? m.toJson = some m := by
  refine bind_record?_ofFields rfl (by decide) ?_
  simp [Record.required?, Record.optional?, List.lookup_cons]

theorem GroupEntry.ofJson?_toJson (g : GroupEntry) : ofJson? g.toJson = some g := by
  refine bind_record?_ofFields rfl (by decide) ?_
  simp [Record.required?, Record.optional?, List.lookup_cons, bool?]

theorem PortEntry.ofJson?_toJson (p : PortEntry) : ofJson? p.toJson = some p := by
  refine bind_record?_ofFields rfl (by decide) ?_
  simp [Record.required?, List.lookup_cons]

theorem DeviceEntry.ofJson?_toJson {d : DeviceEntry} (h : d.InRange) :
    ofJson? d.toJson = some d := by
  have hp := list?_array fun p (_ : p ∈ d.ports) => p.ofJson?_toJson
  have hm : nullable? ModuleSpec.ofJson? (d.module?.elim .null ModuleSpec.toJson) =
      some d.module? :=
    nullable?_elim (fun _ => nofun) fun m _ => m.ofJson?_toJson
  refine bind_record?_ofFields rfl (by decide) ?_
  simp [Record.required?, Record.optional?, List.lookup_cons, hp, hm, below?_natural h]

theorem CardSlotEntry.ofJson?_toJson (s : CardSlotEntry) : ofJson? s.toJson = some s := by
  refine bind_record?_ofFields rfl (by decide) ?_
  simp [Record.required?, Record.optional?, List.lookup_cons]

theorem CardEntry.ofJson?_toJson (c : CardEntry) : ofJson? c.toJson = some c := by
  have hs := list?_array fun s (_ : s ∈ c.slots) => s.ofJson?_toJson
  refine bind_record?_ofFields rfl (by decide) ?_
  simp [Record.required?, List.lookup_cons, hs]

theorem StreamEntry.ofJson?_toJson {s : StreamEntry} (h : s.InRange) :
    ofJson? s.toJson = some s := by
  have hu : nullable? (below? UInt32.size) (s.uid.elim .null natural) = some s.uid :=
    nullable?_elim (fun _ => nofun) fun uid hu => below?_natural (h uid hu)
  refine bind_record?_ofFields rfl (by decide) ?_
  simp [Record.optional?, List.lookup_cons, hu]

theorem AppIdSetting.ofJson?_toJson (a : AppIdSetting) : ofJson? a.toJson = some a := by
  refine bind_record?_ofFields rfl (by decide) ?_
  simp [Record.required?, Record.optional?, List.lookup_cons]

theorem Proplist.ofJson?_toJson (p : Proplist) : ofJson? p.toJson = some p := by
  rw [ofJson?, toJson, entries?_ofFields, Option.map_some, KeyMap.ofList_entries]

theorem RuleSet.ofJson?_toJson {r : RuleSet} (h : r.InRange) : ofJson? r.toJson = some r := by
  have hg := list?_array fun g (_ : g ∈ r.groups) => g.ofJson?_toJson
  have hk := list?_array fun d (hm : d ∈ r.sinks) => DeviceEntry.ofJson?_toJson (h.sinks d hm)
  have ho := list?_array fun d (hm : d ∈ r.sources) => DeviceEntry.ofJson?_toJson (h.sources d hm)
  have hc := list?_array fun c (_ : c ∈ r.cards) => c.ofJson?_toJson
  have hs := list?_array fun s (hm : s ∈ r.streams) => StreamEntry.ofJson?_toJson (h.streams s hm)
  have ha := list?_array fun a (_ : a ∈ r.appIds) => a.ofJson?_toJson
  refine bind_record?_ofFields rfl (by decide) ?_
  simp [Record.optional?, List.lookup_cons, EngineConfig.ofJson?_toJson,
    Proplist.ofJson?_toJson, hg, hk, ho, hc, hs, ha]

-- What comes from a document is in range.

variable {j : Json}

theorem DeviceEntry.inRange_of_ofJson? {d : DeviceEntry} (h : ofJson? j = some d) : d.InRange := by
  simp only [ofJson?, Option.bind_eq_bind, Option.bind_eq_some_iff, Option.pure_def,
    Option.some.injEq] at h
  obtain ⟨r, _, label, _, predicate, _, ports, _, module?, _, flags, _, delay, hd, rfl⟩ := h
  exact Record.of_optional? (P := (· < UInt64.size)) hd (by decide) fun _ => lt_of_below?

theorem StreamEntry.inRange_of_ofJson? {s : StreamEntry} (h : ofJson? j = some s) : s.InRange := by
  simp only [ofJson?, Option.bind_eq_bind, Option.bind_eq_some_iff, Option.pure_def,
    Option.some.injEq] at h
  obtain ⟨r, _, predicate, _, client, _, sink, _, uid?, hu, exe, _, group, _, flags, _, properties,
    _, rfl⟩ := h
  exact Record.of_optional? (P := fun uid? => ∀ uid, uid? = some uid → uid < UInt32.size) hu nofun
    fun _ hj uid he => lt_of_below? (eq_some_of_nullable? (he ▸ hj))

theorem RuleSet.inRange_of_ofJson? {r : RuleSet} (h : ofJson? j = some r) : r.InRange := by
  simp only [ofJson?, Option.bind_eq_bind, Option.bind_eq_some_iff, Option.pure_def,
    Option.some.injEq] at h
  obtain ⟨r, _, engine, _, vars, _, groups, _, sinks, hk, sources, ho, cards, _, streams, hs,
    appIds, _, rfl⟩ := h
  have hd {ds : List DeviceEntry} (name : String)
      (h : r.optional? name (list? DeviceEntry.ofJson?) [] = some ds) : ∀ d ∈ ds, d.InRange :=
    Record.of_optional? (P := fun ds => ∀ d ∈ ds, d.InRange) h nofun fun _ hj =>
      forall_of_list? (P := DeviceEntry.InRange) hj fun _ _ => DeviceEntry.inRange_of_ofJson?
  exact {
    sinks   := hd "sinks" hk
    sources := hd "sources" ho
    streams := Record.of_optional? (P := fun ss => ∀ s ∈ ss, s.InRange) hs nofun fun _ hj =>
      forall_of_list? (P := StreamEntry.InRange) hj fun _ _ => StreamEntry.inRange_of_ofJson? }

namespace RuleSet

-- A rule set with numbers that documents have is the same after it has been written and read. So is
-- any that comes from the text of a document, whatever that leaves out or has besides.
theorem survives_document :
    (∀ r : RuleSet, r.InRange → ofJson? r.toJson = some r) ∧
    (∀ text r, read? text = some r → r.InRange ∧ ofJson? r.toJson = some r) := by
  refine ⟨fun r h => ofJson?_toJson h, fun text r h => ?_⟩
  have ⟨j, _, hj⟩ := Option.bind_eq_some_iff.1 h
  have hr := inRange_of_ofJson? hj
  exact ⟨hr, ofJson?_toJson hr⟩

-- The largest numbers that documents have.
def largest : RuleSet where
  vars    := .ofList [("$media", "player")]
  sinks   := [{
    label     := "ihf"
    predicate := "equals:speaker"
    module?   := some ⟨"loopback", none⟩
    delay     := 18446744073709551615 }]
  streams := [{ uid := some 4294967295, group := "$media" }]

def rootStream : RuleSet where
  streams := [{ uid := some 0, group := "system" }]

theorem survives_document_of_largest :
    largest.InRange ∧ ofJson? largest.toJson = some largest ∧
      read? "\x7b\"streams\":[\x7b\"uid\":0,\"group\":\"system\",\"note\":null\x7d]\x7d" =
        some rootStream ∧
      ofJson? rootStream.toJson = some rootStream := by
  have hr : largest.InRange := by
    constructor
    case sinks   => simp [largest, DeviceEntry.InRange, UInt64.size]
    case sources => simp [largest]
    case streams => simp [largest, StreamEntry.InRange, UInt32.size]
  have ht : read? "\x7b\"streams\":[\x7b\"uid\":0,\"group\":\"system\",\"note\":null\x7d]\x7d" =
      some rootStream := by
    decide +kernel
  exact ⟨hr, survives_document.1 largest hr, ht, (survives_document.2 _ rootStream ht).2⟩

end RuleSet

end AudioRules
