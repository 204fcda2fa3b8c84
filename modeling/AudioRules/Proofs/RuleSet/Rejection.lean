import AudioRules.Proofs.Engine.Registration
import AudioRules.Proofs.RuleSet.Verdict

namespace AudioRules

namespace Verdict

@[simp]
theorem accepted_map_none (es : List Entry) : accepted (es.map (⟨·, none⟩)) = es := by
  simp [accepted, List.filter_map, Function.comp_def]

@[simp]
theorem rejections_map_none (es : List Entry) : rejections (es.map (⟨·, none⟩)) = [] := by
  simp [rejections, rejection?]

theorem rejections_sublist (vs : List Verdict) :
    ((rejections vs).map fun j => (j.part, j.label)).Sublist
      (vs.map fun v => (v.entry.part, v.entry.label)) := by
  induction vs with
  | nil => exact .slnil
  | cons v vs hi =>
    simp only [rejections, rejection?] at hi ⊢
    cases hv : v.error? with
    | none       => simpa [hv] using hi.cons _
    | some error => simpa [hv] using hi

end Verdict

open Verdict

namespace Entry

theorem register_of_error {enlist : δ → Except ε α × Classifier} {definition : Except MatchError δ}
    {ofError : ε → PolicyError} (ha : ∀ d e, (enlist d).1 = .error e → (enlist d).2 = c)
    (h : (register c definition ofError enlist).1 = .error error) :
    (register c definition ofError enlist).2 = c := by
  cases definition with
  | error e => rfl
  | ok d    =>
    cases hd : (enlist d).1 with
    | error e => exact ha d e hd
    | ok a    =>
      rw [register, Prod.map_fst, hd] at h
      cases h

theorem install_of_error {c : Classifier} {e : Entry} (h : (e.install c).1 = .error error) :
    (e.install c).2 = c := by
  cases e <;> rw [install] at h ⊢ <;> refine register_of_error (fun d e ha => ?_) h
  case device => exact Classifier.enlistDevice_of_error ha
  case card   => exact Classifier.enlistCard_of_error ha
  case stream => exact Classifier.enlistStream_of_error ha
  case appId  => exact Classifier.enlistAppId_of_error ha

theorem installed_of_error (h : (verdict c e).error? = some error) : installed c e = c :=
  install_of_error (Except.error?_eq_some.1 h)

-- Without the entries that are refused, each of the others comes to the same state as with them.
theorem verdicts_accepted (c : Classifier) (es : List Entry) :
    verdicts c (accepted (verdicts c es)) = (accepted (verdicts c es)).map (⟨·, none⟩) := by
  induction es generalizing c with
  | nil => rfl
  | cons e es hi =>
    cases he : (e.verdict c).error? with
    | none =>
      have hn : e.verdict c = ⟨e, none⟩ := by rw [← he]; rfl
      simpa [verdicts, accepted, hn] using hi (e.installed c)
    | some error => simpa [verdicts, accepted, he, installed_of_error he] using hi c

theorem installedAll_accepted (c : Classifier) (es : List Entry) :
    installedAll c (accepted (verdicts c es)) = installedAll c es := by
  induction es generalizing c with
  | nil => rfl
  | cons e es hi =>
    have hv : (e.verdict c).entry = e := rfl
    cases he : (e.verdict c).error? with
    | none => simpa [verdicts, accepted, he, hv, installedAll] using hi (e.installed c)
    | some error => simpa [verdicts, accepted, he, installed_of_error he, installedAll] using hi c

def device? (d : Direction) : Entry → Option DeviceEntry
  | device d' e => if d' = d then some e else none
  | _           => none

def card? : Entry → Option CardEntry
  | card e => some e
  | _      => none

def stream? : Entry → Option StreamEntry
  | stream e => some e
  | _        => none

def appId? : Entry → Option AppIdSetting
  | appId e => some e
  | _       => none

end Entry

namespace RuleSet

-- The same document with other entries.
def withEntries (r : RuleSet) (es : List Entry) : RuleSet :=
  { r with
    sinks := es.filterMap (·.device? .sink)
    sources := es.filterMap (·.device? .source)
    cards := es.filterMap (·.card?)
    streams := es.filterMap (·.stream?)
    appIds := es.filterMap (·.appId?) }

theorem entries_withEntries {r : RuleSet} (h : es.Sublist r.entries) :
    (r.withEntries es).entries = es := by
  -- The sections of the document divide the list.
  simp only [entries, List.sublist_append_iff, List.sublist_map_iff] at h
  obtain ⟨_, _, rfl, ⟨_, _, rfl, ⟨_, _, rfl, ⟨_, _, rfl, ⟨sinks, _, rfl⟩, ⟨sources, _, rfl⟩⟩,
    ⟨cards, _, rfl⟩⟩, ⟨streams, _, rfl⟩⟩, ⟨appIds, _, rfl⟩⟩ := h
  have hn {α β : Type} (as : List α) : as.filterMap (fun _ => (none : Option β)) = [] := by simp
  simp only [withEntries, entries, List.filterMap_append, List.filterMap_map, Function.comp_def,
    Entry.device?, Entry.card?, Entry.stream?, Entry.appId?]
  simp [hn]

-- The document without the entries that are refused.
def accepted (r : RuleSet) (c : Classifier) : RuleSet :=
  r.withEntries (Verdict.accepted (r.verdicts c))

theorem accepted_entries (r : RuleSet) (c : Classifier) :
    (r.accepted c).entries = Verdict.accepted (r.verdicts c) := by
  refine entries_withEntries ?_
  have hs : (Verdict.accepted (r.verdicts c)).Sublist ((r.verdicts c).map (·.entry)) :=
    List.filter_sublist.map _
  rwa [verdicts, Entry.verdicts_entries] at hs

theorem apply_accepted (r : RuleSet) (c : Classifier) : (r.accepted c).apply c =
    ((r.apply c).1, { (r.apply c).2 with rejected := [] }) := by
  have hd : (r.accepted c).declare c = r.declare c := rfl
  have hv : (r.accepted c).verdicts c = (Verdict.accepted (r.verdicts c)).map (⟨·, none⟩) := by
    rw [verdicts, accepted_entries, hd]
    exact Entry.verdicts_accepted ..
  have hi : Entry.installedAll (r.declare c) (r.accepted c).entries =
      Entry.installedAll (r.declare c) r.entries := by
    rw [accepted_entries]
    exact Entry.installedAll_accepted ..
  rw [apply_eq_verdicts, apply_eq_verdicts, hv, hd, hi, report, accepted_map_none,
    rejections_map_none]
  rfl

-- What is refused is listed section by section, and within a section as the document has it.
theorem rejected_sublist (r : RuleSet) (c : Classifier) :
    ((r.apply c).2.rejected.map fun j => (j.part, j.label)).Sublist
      (r.sinks.map (fun e => (.sink, e.label)) ++ r.sources.map (fun e => (.source, e.label)) ++
        r.cards.map (fun e => (.card, e.label)) ++ r.streams.map (fun e => (.stream, e.group)) ++
        r.appIds.map fun e => (.appId, e.appId)) := by
  have hentries : (r.verdicts c).map (fun v => (v.entry.part, v.entry.label)) =
      r.entries.map fun e => (e.part, e.label) := by
    rw [← Entry.verdicts_entries (r.declare c) r.entries, List.map_map]
    rfl
  have hsections := rejections_sublist (r.verdicts c)
  rw [hentries] at hsections
  rw [apply_eq_verdicts, report]
  simpa [entries, Function.comp_def, Entry.part, Entry.label, Section.ofDirection] using hsections

theorem refusal_leaves_no_trace (r : RuleSet) (c : Classifier) :
    (r.accepted c).apply c = ((r.apply c).1, { (r.apply c).2 with rejected := [] }) ∧
    (r.accepted c).entries = ((r.verdicts c).filter (·.error?.isNone)).map (·.entry) ∧
    (r.apply c).2.rejected = (r.verdicts c).filterMap (·.rejection?) ∧
    (r.verdicts c).map (·.entry) = r.entries ∧
    ((r.apply c).2.rejected.map fun j => (j.part, j.label)).Sublist
      (r.sinks.map (fun e => (.sink, e.label)) ++ r.sources.map (fun e => (.source, e.label)) ++
        r.cards.map (fun e => (.card, e.label)) ++ r.streams.map (fun e => (.stream, e.group)) ++
        r.appIds.map fun e => (.appId, e.appId)) ∧
    (r.apply c).2.applied + (r.apply c).2.rejected.length =
      r.sinks.length + r.sources.length + r.cards.length + r.streams.length +
        r.appIds.length := by
  refine ⟨r.apply_accepted c, r.accepted_entries c, ?_, Entry.verdicts_entries ..,
    r.rejected_sublist c, ?_⟩
  · rw [apply_eq_verdicts]
    rfl
  · rw [apply_eq_verdicts, report, accepted_add_rejections, verdicts_length]
    simp [entries, Nat.add_assoc]

end RuleSet

end AudioRules
