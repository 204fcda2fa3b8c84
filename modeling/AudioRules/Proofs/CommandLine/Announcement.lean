import AudioRules.Proofs.CommandLine.Files
import AudioRules.Proofs.CommandLine.Session
import AudioRules.Proofs.Engine.Cards
import AudioRules.Proofs.Table.CardClassification

theorem List.forall₂_filterMap {R : α → β → Prop} {f : α → Option β} {as : List α}
    (h : ∀ a ∈ as, ∃ b, f a = some b ∧ R a b) : List.Forall₂ R as (as.filterMap f) := by
  induction as with
  | nil => exact .nil
  | cons a as hi =>
    have ⟨⟨b, hf, hb⟩, has⟩ := List.forall_mem_cons.1 h
    rw [List.filterMap_cons_some hf]
    exact .cons hb (hi has)

namespace AudioRules

namespace Card

-- Of two slots, the one after another is the last.
theorem Rule.Built.eq_pair {rule : Card.Rule} (h : rule.Built) {i j : Nat}
    {first second : Card.Slot} (hi : rule[i]? = some first) (hj : rule[j]? = some second)
    (hij : i < j) : i = 0 ∧ rule = [first, second] := by
  have ⟨hj', _⟩ := List.getElem?_eq_some_iff.1 hj
  have hl : rule.length = 2 := by
    have := h.size
    omega
  obtain rfl : i = 0 := by omega
  obtain rfl : j = 1 := by omega
  obtain ⟨a, b, rfl⟩ := List.length_eq_two.1 hl
  cases hi
  cases hj
  exact ⟨rfl, rfl⟩

namespace Slot

variable {s : Slot} {c : ProfileCatalog} {again : Bool}

-- The profile of the slot is none that the card has.
def Foreign (s : Slot) (c : ProfileCatalog) : Prop :=
  ∃ p, s.profile = some p ∧ c.availability? p = none

-- The card has the profile of the slot, and reports it as unavailable.
def Unavailable (s : Slot) (c : ProfileCatalog) : Prop :=
  ∃ p, s.profile = some p ∧ c.availability? p = some .no

theorem foreign_of_not_runnable (h : ¬s.Runnable c again) (ha : again → ¬s.Unavailable c) :
    s.Foreign c := by
  simp only [Runnable, not_forall] at h
  have ⟨p, hp, ho⟩ := h
  refine ⟨p, hp, Option.eq_none_iff_forall_ne_some.2 fun a hc => ho ⟨a, hc, fun hr => ?_⟩⟩
  rintro rfl
  exact ha hr ⟨p, hp, hc⟩

end Slot

end Card

namespace CardTable

variable {t : CardTable} {o : HostObject} {c : ProfileCatalog} {mask value : FlagSet}
  {again : Bool} {label : String}

-- The slot that is found for a type is one in which the card can be, unless the type only comes for
-- the other slot of its rule.
theorem Reachable.typeof?_of_mem_classify (h : t.Reachable)
    (hm : label ∈ t.classify o c mask value again) :
    ∃ slot priority, t.typeof? o label = some (slot, priority) ∧
      (slot.Runnable c again ∨
        ¬slot.Runnable c again ∧ priority = 0 ∧ ∃ second, t.get? label = some [slot, second] ∧
          second.Counts o c mask value again) := by
  obtain ⟨calls, rfl⟩ := h
  have ⟨rule, hr, second, hs, hc⟩ := mem_classify_iff.1 hm
  have ⟨slot, priority, hf, hp, _, hl⟩ := exists_typeof?_of_counts hr hs hc.accepts
  refine ⟨slot, priority, hf, ?_⟩
  by_cases hn : slot.Runnable c again
  case pos => exact .inl hn
  case neg =>
    have ⟨i, hi⟩ := List.mem_iff_getElem?.1 hs
    have hne : priority ≠ i := by
      rintro rfl
      obtain rfl : slot = second := Option.some.inj (hp.symm.trans hi)
      exact hn hc.runnable
    have hlt : priority < i := Nat.lt_of_le_of_ne (hl i second hi hc.accepts) hne
    have ⟨h₀, he⟩ := (built_of_get?_run hr).eq_pair hp hi hlt
    exact .inr ⟨hn, h₀, second, he ▸ hr, hc⟩

end CardTable

namespace Classify

variable {m : Machine τ} {options : ClassifyOptions} {s : Snapshot} {rules : RuleSet}
  {c : Classifier} {n : CardNode} {label : String}

theorem routed_cards (c : Classifier) (s : Snapshot) : (routed c s).cards = c.cards := by
  unfold routed
  split <;> rfl

theorem report_cards (c : Classifier) (groups : GroupDirectory) (again : Bool) (s : Snapshot) :
    ∃ before after, report c groups again s =
      before ++ "Cards:" :: (s.cards.map (cardLines c again)).flatten ++
        "" :: "Streams:" :: after := by
  refine ⟨"Sinks:" :: s.sinks.flatMap (deviceLines c) ++
    "" :: "Sources:" :: s.sources.flatMap (deviceLines c) ++ [""],
    s.streams.map (streamLine c groups), ?_⟩
  simp [report, List.flatMap_def]

-- The line for a type of a card, with the slot that is found for it.
def announcement (label : String) (slot : Card.Slot) (priority : Nat) : String :=
  let profile := slot.profile.getD "<current>"
  s!"      {label} -> profile {profile} (priority {priority})"

theorem profileLine?_of_typeof? {slot : Card.Slot} {priority : Nat}
    (h : c.cards.typeof? n.object label = some (slot, priority)) :
    profileLine? c n label = some (announcement label slot priority) := by
  rw [profileLine?, h]
  rfl

-- The line announces the first slot that accepts the card. The card can be in it, or has no such
-- profile while the other slot of the rule makes the type come. Nothing is said of a profile that is
-- reported as unavailable when classifying again.
def Announces (t : CardTable) (n : CardNode) (again : Bool) (label line : String) : Prop :=
  ∃ slot priority, t.typeof? n.object label = some (slot, priority) ∧
    line = announcement label slot priority ∧
    ((again → ¬slot.Unavailable n.profiles) →
      slot.Runnable n.profiles again ∨
        slot.Foreign n.profiles ∧ priority = 0 ∧ ∃ second, t.get? label = some [slot, second] ∧
          second.predicate.accepts n.object ∧ second.Runnable n.profiles again)

theorem exists_announces (h : c.cards.Reachable) {again : Bool}
    (hm : label ∈ c.cards.classify n.object n.profiles .none .none again) :
    ∃ line, profileLine? c n label = some line ∧ Announces c.cards n again label line := by
  have ⟨slot, priority, hf, hs⟩ := h.typeof?_of_mem_classify hm
  refine ⟨_, profileLine?_of_typeof? hf, slot, priority, hf, rfl, fun ha => hs.imp_right ?_⟩
  intro ⟨hn, hp, second, hr, hc⟩
  exact ⟨Card.Slot.foreign_of_not_runnable hn ha, hp, second, hr, hc.accepts, hc.runnable⟩

theorem cardLines_announce (h : c.cards.Reachable) (again : Bool) (n : CardNode) :
    let types := c.cards.classify n.object n.profiles .none .none again
    ∃ lines, cardLines c again n =
        ("  " ++ n.name ++ ": " ++ " ".intercalate types) :: lines ∧
      List.Forall₂ (Announces c.cards n again) types lines :=
  ⟨_, rfl, List.forall₂_filterMap fun _ hm => exists_announces h hm⟩

-- For every card in a dump there is a line with its types, and below it one for each of them, in
-- their order, that announces a profile.
theorem announced_profile (hr : m.rules path = .ok rules) (hs : m.snapshot options.dump = .ok s) :
    let t := rules.build.1.cards
    let again := options.reclassify
    ∃ before paragraphs after,
      (run m path options).stdout =
        before ++ "Cards:" :: paragraphs.flatten ++ "" :: "Streams:" :: after ∧
      List.Forall₂ (fun n paragraph =>
        let types := t.classify n.object n.profiles .none .none again
        ∃ lines, paragraph = ("  " ++ n.name ++ ": " ++ " ".intercalate types) :: lines ∧
          List.Forall₂ (Announces t n again) types lines) s.cards paragraphs := by
  intro t again
  have ⟨said, modules, ho, _⟩ := stdout_run hr hs
  let c : Classifier := { routed rules.build.1 s with modules }
  have ht : c.cards = t := routed_cards rules.build.1 s
  have hc : c.cards.Reachable := ht ▸ rules.build_cards
  have ⟨before, after, hb⟩ := report_cards c (.table rules.groupTable) again s
  refine ⟨said ++ before, s.cards.map (cardLines c again), after, ?_, ?_⟩
  · rw [ho, hb]
    simp only [List.append_assoc]
  · refine List.forall₂_map_right_iff.2 (List.forall₂_same.2 fun n _ => ?_)
    exact ht ▸ cardLines_announce hc again n

-- A headset for music and for calls, while its card only offers the profile for calls.
def headset : RuleSet where
  cards := [{
    label := "bt"
    slots := [
      { predicate := "equals:bluez_card.1", profile := "a2dp" },
      { predicate := "equals:bluez_card.1", profile := "hsp" }] }]

def callsOnly : CardNode where
  name       := "bluez_card.1"
  properties := .ofList [("device.name", "bluez_card.1"), ("media.class", "Audio/Device")]
  profiles   := [("hsp", .yes)]

def headsetFiles : List (String × List String) := [
  ("rules.json", [
    "\x7b\"cards\":[\x7b\"type\":\"bt\",\"slots\":[",
    "\x7b\"predicate\":\"equals:bluez_card.1\",\"profile\":\"a2dp\"\x7d,",
    "\x7b\"predicate\":\"equals:bluez_card.1\",\"profile\":\"hsp\"\x7d]\x7d]\x7d"]),
  ("dump.json", [
    "[\x7b\"type\":\"PipeWire:Interface:Device\",",
    "\"info\":\x7b\"props\":\x7b",
    "\"media.class\":\"Audio/Device\",",
    "\"device.name\":\"bluez_card.1\"\x7d,",
    "\"params\":\x7b\"EnumProfile\":[",
    "\x7b\"name\":\"hsp\",\"available\":\"yes\"\x7d]\x7d\x7d\x7d]"])]

theorem rules_headset : (Machine.ofFiles headsetFiles).rules "rules.json" = .ok headset :=
  Machine.rules_ofFiles rfl (by decide +kernel) (by decide +kernel)

theorem snapshot_headset :
    (Machine.ofFiles headsetFiles).snapshot (some "dump.json") = .ok { cards := [callsOnly] } :=
  Machine.snapshot_ofFiles rfl (by decide +kernel) (by decide +kernel)

-- Its slot for music.
def forMusic : Card.Slot := ⟨⟨.card, .name, .equals "bluez_card.1"⟩, some "a2dp", .none⟩

theorem classify_headset : headset.build.1.cards.classify callsOnly.object callsOnly.profiles
    .none .none true = ["bt"] := by
  decide +kernel

theorem typeof?_headset :
    headset.build.1.cards.typeof? callsOnly.object "bt" = some (forMusic, 0) := by
  decide +kernel

theorem announced_to_headset :
    let m := Machine.ofFiles headsetFiles
    let options : ClassifyOptions := { dump := some "dump.json", reclassify := true }
    m.rules "rules.json" = .ok headset ∧
      m.snapshot options.dump = .ok { cards := [callsOnly] } ∧
      ∃ before after, (run m "rules.json" options).stdout =
        before ++ "  bluez_card.1: bt" :: "      bt -> profile a2dp (priority 0)" :: after := by
  intro m options
  have hs : m.snapshot options.dump = .ok { cards := [callsOnly] } := snapshot_headset
  refine ⟨rules_headset, hs, ?_⟩
  have ⟨before, paragraphs, after, ho, hp⟩ := announced_profile rules_headset hs
  obtain ⟨_, _, ⟨lines, rfl, hl⟩, hn, rfl⟩ := List.forall₂_cons_left_iff.1 hp
  cases hn
  rw [classify_headset] at hl
  obtain ⟨_, _, ⟨slot, priority, hf, rfl, _⟩, hn, rfl⟩ := List.forall₂_cons_left_iff.1 hl
  cases hn
  cases typeof?_headset.symm.trans hf
  refine ⟨before ++ ["Cards:"], "" :: "Streams:" :: after, ho.trans ?_⟩
  rw [classify_headset]
  have ha : announcement "bt" forMusic 0 = "      bt -> profile a2dp (priority 0)" := by decide
  simp [ha, callsOnly]

-- Its type comes for the profile for calls, and the one for music is announced.
theorem not_runnable_of_announced :
    ¬∀ (rules : RuleSet) (n : CardNode) (again : Bool),
      ∀ label ∈ rules.build.1.cards.classify n.object n.profiles .none .none again,
        ∀ slot priority, rules.build.1.cards.typeof? n.object label = some (slot, priority) →
          slot.Runnable n.profiles again := by
  intro h
  have hm : "bt" ∈ headset.build.1.cards.classify callsOnly.object callsOnly.profiles
      .none .none true := by
    rw [classify_headset]
    exact List.mem_singleton_self "bt"
  have ⟨a, ha, _⟩ := h headset callsOnly true "bt" hm forMusic 0 typeof?_headset "a2dp" rfl
  cases ha

end Classify

end AudioRules
