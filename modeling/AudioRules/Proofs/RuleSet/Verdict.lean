import AudioRules.Proofs.Except
import AudioRules.RuleSet.Apply

namespace AudioRules

-- What is said of an entry: with which error it is refused, if it is.
structure Verdict where
  entry  : Entry
  error? : Option PolicyError

namespace Verdict

def rejection? (v : Verdict) : Option Rejection :=
  v.error?.map (⟨v.entry.part, v.entry.label, ·⟩)

def accepted (vs : List Verdict) : List Entry :=
  (vs.filter (·.error?.isNone)).map (·.entry)

def rejections (vs : List Verdict) : List Rejection :=
  vs.filterMap (·.rejection?)

def report (vs : List Verdict) : LoadReport where
  applied  := (accepted vs).length
  rejected := rejections vs

theorem accepted_add_rejections (vs : List Verdict) :
    (accepted vs).length + (rejections vs).length = vs.length := by
  induction vs with
  | nil => rfl
  | cons v vs hi =>
    simp only [accepted, rejections, rejection?, List.length_map] at hi ⊢
    cases hv : v.error? <;> simp [hv] <;> omega

end Verdict

open Verdict

namespace Entry

def verdict (c : Classifier) (e : Entry) : Verdict where
  entry  := e
  error? := (e.install c).1.error?

def installed (c : Classifier) (e : Entry) : Classifier := (e.install c).2

theorem apply_eq_verdict (e : Entry) (c : Classifier) (report : LoadReport) : e.apply c report =
    (e.installed c, {
      applied := report.applied + (accepted [e.verdict c]).length
      rejected := report.rejected ++ rejections [e.verdict c] }) := by
  unfold apply installed verdict
  obtain ⟨result, c'⟩ := e.install c
  cases result <;> simp [accepted, rejections, rejection?, Except.error?]

def installedAll (c : Classifier) (es : List Entry) : Classifier :=
  es.foldl installed c

-- What is said of each entry, in the state that those before it have left.
def verdicts (c : Classifier) : List Entry → List Verdict
  | []      => []
  | e :: es => e.verdict c :: verdicts (e.installed c) es

theorem verdicts_entries (c : Classifier) (es : List Entry) :
    (verdicts c es).map (·.entry) = es := by
  induction es generalizing c with
  | nil          => rfl
  | cons e es hi => simp [verdicts, verdict, hi]

theorem foldl_apply (c : Classifier) (es : List Entry) (report : LoadReport) :
    es.foldl (fun (c, report) e => e.apply c report) (c, report) =
      (installedAll c es, {
        applied := report.applied + (accepted (verdicts c es)).length
        rejected := report.rejected ++ rejections (verdicts c es) }) := by
  induction es generalizing c report with
  | nil => simp [installedAll, verdicts, accepted, rejections]
  | cons e es hi =>
    change es.foldl (fun (c, report) e => e.apply c report) (e.apply c report) = _
    rw [apply_eq_verdict, hi]
    cases he : (e.verdict c).error? <;>
      simp [installedAll, verdicts, accepted, rejections, rejection?, he, Nat.add_assoc,
        Nat.add_comm 1]

end Entry

namespace RuleSet

def verdicts (r : RuleSet) (c : Classifier) : List Verdict :=
  Entry.verdicts (r.declare c) r.entries

theorem verdicts_length (r : RuleSet) (c : Classifier) :
    (r.verdicts c).length = r.entries.length := by
  have h := congrArg List.length (Entry.verdicts_entries (r.declare c) r.entries)
  rwa [List.length_map] at h

theorem apply_eq_verdicts (r : RuleSet) (c : Classifier) : r.apply c =
    (Entry.installedAll (r.declare c) r.entries, report (r.verdicts c)) := by
  simp [apply, verdicts, Entry.foldl_apply, report]

end RuleSet

end AudioRules
