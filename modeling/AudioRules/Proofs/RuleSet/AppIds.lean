import AudioRules.Proofs.KeyMap.Entries
import AudioRules.Proofs.RuleSet.Rejection
import AudioRules.Proofs.RuleSet.Substitution

namespace AudioRules

namespace AppIdSetting

def toEntry (a : AppIdSetting) : Except MatchError AppIdEntry := do
  let spec ← PredicateSpec.parseOpt a.predicate
  let predicate ← AppIds.compile? spec
  return { predicate, group := a.group }

-- What is registered under which id, if the setting is not refused.
def registration? (a : AppIdSetting) : Option (String × AppIdEntry) :=
  a.toEntry.toOption.map (a.appId, ·)

theorem item_eq (a : AppIdSetting) (vars : Variables) :
    (Entry.appId a).item vars = (a.toEntry.mapError .ofMatch).map (.appId a.appId) := by
  simp only [Entry.item, toEntry]
  cases PredicateSpec.parseOpt a.predicate with
  | error e => rfl
  | ok spec => cases hc : AppIds.compile? spec <;> simp [bind, Except.bind, hc] <;> rfl

end AppIdSetting

namespace Item

def appId? : Item → Option (String × AppIdEntry)
  | appId id entry => some (id, entry)
  | _              => none

theorem put_appIds (i : Item) (c : Classifier) :
    (i.put c).appIds = i.appId?.elim c.appIds fun e => c.appIds.insert e.1 e.2 := by
  cases i
  case device d _ _ => cases d <;> rfl
  all_goals rfl

theorem putAll_appIds (is : List Item) (c : Classifier) :
    (writes.putAll is c).appIds = c.appIds.merge (.ofList (is.filterMap appId?)) := by
  rw [← KeyMap.foldl_insert]
  induction is generalizing c with
  | nil          => rfl
  | cons i is hi =>
    refine (hi (i.put c)).trans ?_
    rw [put_appIds, List.filterMap_cons]
    cases i.appId? <;> rfl

end Item

namespace Entry

theorem appId?_of_item {e : Entry} (h : e.item vars = .ok i) (hn : e.appId? = none) :
    i.appId? = none := by
  cases e
  case appId a => cases hn
  all_goals
    simp only [item, Except.bind_eq_ok, Except.pure_eq_ok] at h
    obtain ⟨_, _, _, _, rfl⟩ := h
    rfl

theorem appId?_item (vars : Variables) (e : Entry) :
    (e.item vars).toOption.bind Item.appId? = e.appId?.bind (·.registration?) := by
  cases ha : e.appId? with
  | none =>
    cases hi : e.item vars with
    | error _ => rfl
    | ok i    => exact appId?_of_item hi ha
  | some a =>
    cases e <;> cases ha
    rw [AppIdSetting.item_eq, Option.bind_some, AppIdSetting.registration?]
    cases a.toEntry <;> rfl

theorem items_appIds (vars : Variables) (es : List Entry) :
    (items vars es).filterMap Item.appId? =
      (es.filterMap (·.appId?)).filterMap (·.registration?) := by
  rw [items, List.filterMap_filterMap, List.filterMap_filterMap]
  exact List.filterMap_congr fun e _ => e.appId?_item vars

end Entry

-- Application ids and variables

namespace Variables

def inAppId (vars : Variables) (a : AppIdSetting) : AppIdSetting :=
  { a with predicate := a.predicate.map vars.inText, group := vars.replace a.group }

-- No field of a setting names a variable, nor does the key or the argument in its predicate.
structure PassesOver (vars : Variables) (a : AppIdSetting) : Prop where
  group : vars.get? a.group = none
  key : ∀ text s key, a.predicate = some text → PredicateSpec.parse text = .ok s →
    s.target = .property key → vars.get? key = none
  arg : ∀ text s arg, a.predicate = some text → PredicateSpec.parse text = .ok s →
    s.arg = some arg → vars.get? arg = none

theorem resolve_of_get? {vars : Variables} {text : String} (h : vars.get? text = none) :
    vars.resolve text = text := by
  simp [resolve, h]

namespace PassesOver

variable {vars : Variables} {a : AppIdSetting}

theorem inPredicate_eq (h : vars.PassesOver a) (ht : a.predicate = some text)
    (hs : PredicateSpec.parse text = .ok s) : vars.inPredicate s = s := by
  have hk (key : String) (hk : s.target = .property key) : vars.resolve key = key :=
    resolve_of_get? (h.key text s key ht hs hk)
  have ha : vars.resolveOpt s.arg = s.arg := by
    cases ha : s.arg with
    | none     => rfl
    | some arg => exact congrArg some (resolve_of_get? (h.arg text s arg ht hs ha))
  obtain ⟨target, method, arg⟩ := s
  simp only at ha
  cases target with
  | property key => simp only [inPredicate, ha, hk key rfl]
  | _            => simp only [inPredicate, ha]

theorem parseOpt_inText (h : vars.PassesOver a) :
    PredicateSpec.parseOpt (a.predicate.map vars.inText) = PredicateSpec.parseOpt a.predicate := by
  have hf : ∀ text ∈ a.predicate, vars.KeyFits text := by
    intro text ht s key value hs hk hv
    cases (h.key text s key ht hs hk).symm.trans hv
  rw [Variables.parseOpt_inText hf]
  cases ht : a.predicate with
  | none      => rfl
  | some text =>
    simp only [PredicateSpec.parseOpt]
    cases hs : PredicateSpec.parse text with
    | error e => rfl
    | ok s    => simp only [Except.map, Option.map_some, h.inPredicate_eq ht hs]

theorem registration?_inAppId (h : vars.PassesOver a) :
    (vars.inAppId a).registration? = a.registration? := by
  simp only [AppIdSetting.registration?, AppIdSetting.toEntry, inAppId, h.parseOpt_inText,
    vars.replace_eq_resolve, resolve_of_get? h.group]

end PassesOver

end Variables

namespace RuleSet

theorem entries_appIds (r : RuleSet) : r.entries.filterMap (·.appId?) = r.appIds := by
  have hn {α β : Type} (as : List α) : as.filterMap (fun _ => (none : Option β)) = [] := by simp
  simp [entries, List.filterMap_append, List.filterMap_map, hn, Entry.appId?]

-- There are no variables on the right.
theorem apply_appIds {c : Classifier} (h : c.Compiled) (r : RuleSet) :
    (r.apply c).1.appIds = c.appIds.merge (.ofList (r.appIds.filterMap (·.registration?))) := by
  rw [apply_eq h, Item.putAll_appIds, Entry.items_appIds, entries_appIds, declare_eq]

-- The document with every variable replaced, in the application ids as well.
def substitutedThroughout (r : RuleSet) : RuleSet :=
  { r.substituted with appIds := r.appIds.map (Variables.inAppId r.vars) }

-- Whatever the engine has been through:
-- 1. a rule set registers its application ids as they are written, and the last that is not refused
--    counts
-- 2. so replacing variables in them makes no difference where no field names a variable
theorem appIds_as_written (host : ModuleHost σ) (config : EngineConfig) (s : σ)
    (calls : List EngineCall) (r : RuleSet) :
    let c := (EngineCall.run host { config } s calls).1
    (r.apply c).1.appIds = c.appIds.merge (.ofList (r.appIds.filterMap (·.registration?))) ∧
      ((∀ a ∈ r.appIds, Variables.PassesOver r.vars a) →
        (r.apply c).1.appIds = (r.substitutedThroughout.apply c).1.appIds) := by
  intro c
  have hc : c.Compiled := EngineCall.run_compiled host config s calls
  refine ⟨apply_appIds hc r, fun h => ?_⟩
  rw [apply_appIds hc, apply_appIds hc, substitutedThroughout, List.filterMap_map]
  congr 2
  exact List.filterMap_congr fun a ha => (h a ha).registration?_inAppId.symm

-- A group that is named by a variable.
def behindVariable : RuleSet where
  vars   := .ofList [("$media", "player")]
  appIds := [{ appId := "org.example.Player", group := "$media" }]

theorem appIds_not_substituted :
    ¬∀ r : RuleSet, (r.apply {}).1.appIds = (r.substitutedThroughout.apply {}).1.appIds := by
  intro h
  have hw : (behindVariable.apply {}).1.appIds.get? "org.example.Player" =
      some ⟨none, "$media"⟩ := by decide +kernel
  have hs : (behindVariable.substitutedThroughout.apply {}).1.appIds.get? "org.example.Player" =
      some ⟨none, "player"⟩ := by decide +kernel
  rw [h behindVariable, hs] at hw
  exact absurd hw (by decide)

end RuleSet

end AudioRules
