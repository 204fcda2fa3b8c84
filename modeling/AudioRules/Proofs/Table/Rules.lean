import Mathlib.Data.List.Forall2
import AudioRules.Card
import AudioRules.Device
import AudioRules.Proofs.Predicate.Compiled
import AudioRules.Proofs.Table.Calls

namespace Except

theorem mapM_eq_ok {f : α → Except ε β} {as : List α} {bs : List β} :
    as.mapM f = .ok bs ↔ List.Forall₂ (fun a b => f a = .ok b) as bs := by
  induction as generalizing bs with
  | nil =>
    rw [List.mapM_nil, pure_eq_ok, List.forall₂_nil_left_iff]
    exact eq_comm
  | cons a as hi =>
    simp only [List.mapM_cons, bind_eq_ok, pure_eq_ok, hi, List.forall₂_cons_left_iff]
    grind

end Except

theorem List.Forall₂.exists_mem_left {R : α → β → Prop} (h : List.Forall₂ R as bs) (hb : b ∈ bs) :
    ∃ a ∈ as, R a b := by
  induction h with
  | nil => cases hb
  | @cons a b' as bs ha _ hi =>
    cases List.mem_cons.1 hb
    case inl he => exact ⟨a, List.mem_cons_self, he ▸ ha⟩
    case inr hb =>
      have ⟨a', hm, ha'⟩ := hi hb
      exact ⟨a', List.mem_cons_of_mem _ hm, ha'⟩

namespace AudioRules

-- Compiled for objects of a kind.
structure Predicate.BuiltFor (p : Predicate) (k : ObjectKind) : Prop where
  kind     : p.kind = k
  compiled : ∃ s, compile k s = .ok p

theorem Predicate.builtFor_of_compile {k : ObjectKind} (h : compile k s = .ok p) :
    p.BuiltFor k := by
  refine ⟨?_, s, h⟩
  obtain ⟨_, _, _, rfl⟩ := compile_eq_ok.1 h
  rfl

namespace Device

structure Rule.BuiltFor (r : Rule) (kind : ObjectKind) : Prop where
  predicate : r.predicate.BuiltFor kind
  ports     : ∀ p ∈ r.data.ports, p.name ≠ "" ∧ p.predicate.BuiltFor kind

structure Port.Compiles (kind : ObjectKind) (p : PortDef) (port : Port) : Prop where
  name      : port.name = p.port
  predicate : Predicate.compile kind p.predicate = .ok port.predicate

-- The rule says what the definition says, with its predicates compiled for objects of a kind.
structure Rule.Compiles (kind : ObjectKind) (d : RuleDef) (r : Rule) : Prop where
  predicate : Predicate.compile kind d.predicate = .ok r.predicate
  ports     : List.Forall₂ (Port.Compiles kind) d.ports r.data.ports
  module?   : r.data.module? = d.module?
  flags     : r.data.flags = d.flags
  delay     : r.data.delay = d.delay

theorem compile_eq_ok {kind : ObjectKind} :
    compile kind spec = .ok p ↔ Predicate.compile kind spec = .ok p :=
  Except.mapError_eq_ok

theorem PortDef.build_eq_ok {kind : ObjectKind} {p : PortDef} : p.build label kind = .ok built ↔
    p.port ≠ "" ∧ ∃ predicate, Predicate.compile kind p.predicate = .ok predicate ∧
      built = ⟨p.port, predicate⟩ := by
  unfold build
  by_cases h : p.port = ""
  case pos => simp [h]
  case neg => simp [h, compile_eq_ok, -bind_pure_comp, eq_comm (b := built)]

theorem RuleDef.build_eq_ok {kind : ObjectKind} {d : RuleDef} : d.build kind = .ok rule ↔
    d.label ≠ "" ∧ ∃ predicate, Predicate.compile kind d.predicate = .ok predicate ∧
      ∃ ports, d.ports.mapM (·.build d.label kind) = .ok ports ∧
        rule = ⟨predicate, { ports, module? := d.module?, flags := d.flags, delay := d.delay }⟩ := by
  unfold build
  by_cases h : d.label = ""
  case pos => simp [h]
  case neg => simp [h, compile_eq_ok, -bind_pure_comp, eq_comm (b := rule)]

theorem PortDef.build_iff {kind : ObjectKind} {p : PortDef} {port : Port} :
    p.build label kind = .ok port ↔ p.port ≠ "" ∧ port.Compiles kind p := by
  rw [build_eq_ok]
  constructor
  case mp =>
    intro ⟨hn, predicate, hp, he⟩
    cases he
    exact ⟨hn, rfl, hp⟩
  case mpr =>
    intro ⟨hn, hc⟩
    refine ⟨hn, port.predicate, hc.predicate, ?_⟩
    rw [← hc.name]

-- A definition is accepted if it has a label, all its ports have names, and its predicates compile.
theorem RuleDef.build_iff {kind : ObjectKind} {d : RuleDef} : d.build kind = .ok rule ↔
    d.label ≠ "" ∧ (∀ p ∈ d.ports, p.port ≠ "") ∧ rule.Compiles kind d := by
  have hports {ports : List Port} : d.ports.mapM (·.build d.label kind) = .ok ports ↔
      (∀ p ∈ d.ports, p.port ≠ "") ∧ List.Forall₂ (Port.Compiles kind) d.ports ports := by
    simp only [Except.mapM_eq_ok, PortDef.build_iff, List.forall₂_and_left]
  simp only [build_eq_ok, hports]
  constructor
  case mp =>
    intro ⟨hl, predicate, hp, ports, ⟨hn, hs⟩, he⟩
    cases he
    exact ⟨hl, hn, hp, hs, rfl, rfl, rfl⟩
  case mpr =>
    intro ⟨hl, hn, hc⟩
    refine ⟨hl, rule.predicate, hc.predicate, rule.data.ports, ⟨hn, hc.ports⟩, ?_⟩
    rw [← hc.module?, ← hc.flags, ← hc.delay]

theorem RuleDef.builtFor_of_build {kind : ObjectKind} {d : RuleDef} (h : d.build kind = .ok rule) :
    rule.BuiltFor kind := by
  have ⟨_, hn, hc⟩ := build_iff.1 h
  refine ⟨Predicate.builtFor_of_compile hc.predicate, fun port hm => ?_⟩
  have ⟨p, hp, hs⟩ := hc.ports.exists_mem_left hm
  exact ⟨hs.name ▸ hn p hp, Predicate.builtFor_of_compile hs.predicate⟩

end Device

namespace Card

structure Rule.Built (r : Rule) : Prop where
  size  : r.length = 1 ∨ r.length = 2
  slots : ∀ s ∈ r, s.predicate.test ≠ .always ∧ s.predicate.BuiltFor .card

-- The slot says what the definition says, with its predicate compiled for cards.
structure Slot.Compiles (s : SlotDef) (slot : Slot) : Prop where
  predicate : Predicate.compile .card s.predicate = .ok slot.predicate
  profile   : slot.profile = s.profile
  flags     : slot.flags = s.flags

theorem SlotDef.build_eq_ok {s : SlotDef} : s.build label = .ok slot ↔
    s.predicate.method ≠ .always ∧ ∃ predicate, Predicate.compile .card s.predicate = .ok predicate ∧
      slot = { predicate, profile := s.profile, flags := s.flags } := by
  unfold build
  by_cases h : s.predicate.method = .always
  case pos => simp [h]
  case neg => simp [h, -bind_pure_comp, eq_comm (b := slot)]

theorem RuleDef.build_eq_ok {d : RuleDef} : d.build = .ok rule ↔
    d.label ≠ "" ∧ d.slots ≠ [] ∧ d.slots.length ≤ maxCardSlots ∧
      d.slots.mapM (·.build d.label) = .ok rule := by
  unfold build
  by_cases hl : d.label = ""
  case pos => simp [hl]
  case neg =>
    by_cases hs : d.slots = []
    case pos => simp [hl, hs, -bind_pure_comp]
    case neg =>
      by_cases hm : maxCardSlots < d.slots.length
      case pos => simp [hl, hs, hm, Nat.not_le.2 hm]
      case neg => simp [hl, hs, hm, Nat.not_lt.1 hm]

theorem SlotDef.build_iff {s : SlotDef} {slot : Slot} : s.build label = .ok slot ↔
    s.predicate.method ≠ .always ∧ slot.Compiles s := by
  rw [build_eq_ok]
  constructor
  case mp =>
    intro ⟨hn, predicate, hp, he⟩
    cases he
    exact ⟨hn, hp, rfl, rfl⟩
  case mpr =>
    intro ⟨hn, hc⟩
    refine ⟨hn, slot.predicate, hc.predicate, ?_⟩
    rw [← hc.profile, ← hc.flags]

-- A definition is accepted if it has a label and one slot or two, none of them unconditional, and
-- its predicates compile.
theorem RuleDef.build_iff {d : RuleDef} : d.build = .ok rule ↔
    d.label ≠ "" ∧ (d.slots.length = 1 ∨ d.slots.length = 2) ∧
      (∀ s ∈ d.slots, s.predicate.method ≠ .always) ∧
      List.Forall₂ Slot.Compiles d.slots rule := by
  have hlength : d.slots ≠ [] ∧ d.slots.length ≤ maxCardSlots ↔
      d.slots.length = 1 ∨ d.slots.length = 2 := by
    rw [← List.length_pos_iff, maxCardSlots]
    omega
  simp only [build_eq_ok, Except.mapM_eq_ok, SlotDef.build_iff, List.forall₂_and_left, ← hlength,
    and_assoc]

theorem RuleDef.built_of_build {d : RuleDef} (h : d.build = .ok rule) : Rule.Built rule := by
  have ⟨_, hl, hn, hc⟩ := build_iff.1 h
  constructor
  case size => exact hc.length_eq ▸ hl
  case slots =>
    intro slot hm
    have ⟨s, hs, hp⟩ := hc.exists_mem_left hm
    refine ⟨fun ha => hn s hs ?_, Predicate.builtFor_of_compile hp.predicate⟩
    obtain ⟨_, test, ht, he⟩ := Predicate.compile_eq_ok.1 hp.predicate
    have ha : test = .always := by simpa [he] using ha
    exact (Test.method_arg_of_compile (ha ▸ ht)).1.symm

end Card

def DeviceTable.kind (d : Direction) : TableKind Device.RuleDef Device.Rule (DeviceTable d) where
  labelOf := Device.RuleDef.label
  build   := (·.build d.objectKind)
  empty   := .empty
  get?    := DeviceTable.get?
  add     := DeviceTable.add
  remove  := DeviceTable.remove
  rules   := DeviceTable.rules
  ofRules := DeviceTable.mk
  rules_ofRules := rfl
  ofRules_rules := rfl
  rules_empty   := rfl
  get?_eq       := rfl
  add_eq        := rfl
  remove_eq     := rfl
  labelOf_ne_empty h := (Device.RuleDef.build_eq_ok.1 h).1

def CardTable.kind : TableKind Card.RuleDef Card.Rule CardTable where
  labelOf := Card.RuleDef.label
  build   := Card.RuleDef.build
  empty   := .empty
  get?    := CardTable.get?
  add     := CardTable.add
  remove  := CardTable.remove
  rules   := CardTable.rules
  ofRules := CardTable.mk
  rules_ofRules := rfl
  ofRules_rules := rfl
  rules_empty   := rfl
  get?_eq       := rfl
  add_eq        := rfl
  remove_eq     := rfl
  labelOf_ne_empty h := (Card.RuleDef.build_eq_ok.1 h).1

-- Whatever calls a table has been through, it is an ordered map, and its rules are built: those of
-- devices for the objects of the table, and those of cards with one slot or two. What a definition
-- builds is the definition with its predicates compiled.
theorem tables_refine_ordered_maps :
    (∀ d : Direction,
      (∀ calls : List (TableCall Device.RuleDef), (DeviceTable.kind d).Follows calls ∧
        ∀ entry ∈ ((DeviceTable.kind d).run calls).rules.entries,
          entry.2.BuiltFor d.objectKind) ∧
      ∀ rule built, (DeviceTable.kind d).build rule = .ok built ↔
        rule.label ≠ "" ∧ (∀ p ∈ rule.ports, p.port ≠ "") ∧ built.Compiles d.objectKind rule) ∧
    (∀ calls : List (TableCall Card.RuleDef), CardTable.kind.Follows calls ∧
      ∀ entry ∈ (CardTable.kind.run calls).rules.entries, entry.2.Built) ∧
    ∀ rule built, CardTable.kind.build rule = .ok built ↔
      rule.label ≠ "" ∧ (rule.slots.length = 1 ∨ rule.slots.length = 2) ∧
        (∀ s ∈ rule.slots, s.predicate.method ≠ .always) ∧
        List.Forall₂ Card.Slot.Compiles rule.slots built := by
  refine ⟨fun d => ⟨fun calls => ⟨TableKind.follows _ calls, fun (label, rule) h => ?_⟩, ?_⟩,
    fun calls => ⟨TableKind.follows _ calls, fun (label, rule) h => ?_⟩, ?_⟩
  · have ⟨_, _, hb⟩ := TableKind.built_of_mem_run (K := DeviceTable.kind d) h
    exact Device.RuleDef.builtFor_of_build hb
  · exact fun _ _ => Device.RuleDef.build_iff
  · have ⟨_, _, hb⟩ := TableKind.built_of_mem_run (K := CardTable.kind) h
    exact Card.RuleDef.built_of_build hb
  · exact fun _ _ => Card.RuleDef.build_iff

end AudioRules
