import AudioRules.Keyed

namespace AudioRules

-- Whether a rule came under a new label or took the place of one.
inductive RuleChange
  | added | updated
deriving DecidableEq, Repr

namespace RuleChange

def name : RuleChange → String
  | added   => "added"
  | updated => "updated"

end RuleChange

-- In the order in which the labels were first added.
structure RuleTable (α : Type) where
  entries  : List (String × α)
  distinct : (entries.map Prod.fst).Nodup
deriving DecidableEq

namespace RuleTable

def empty : RuleTable α := ⟨[], .nil⟩

instance : Inhabited (RuleTable α) := ⟨empty⟩

def labels (t : RuleTable α) : List String := t.entries.map Prod.fst

def get? (t : RuleTable α) (label : String) : Option α := t.entries.lookup label

def contains (t : RuleTable α) (label : String) : Bool := t.labels.contains label

def size (t : RuleTable α) : Nat := t.entries.length

def isEmpty (t : RuleTable α) : Bool := t.entries.isEmpty

-- Entries go by their labels, and a new one takes the place of the old.
def byLabel : Keyed (String × α) String where
  key           := Prod.fst
  revise _ new  := new
  key_revise    := Eq.symm
  revise_revise := rfl

def put (t : RuleTable α) (label : String) (rule : α) : RuleTable α :=
  ⟨byLabel.put (label, rule) t.entries, Keyed.nodup_keys_put (K := byLabel) t.distinct⟩

@[simp]
theorem mem_labels_put {t : RuleTable α} :
    label' ∈ (t.put label rule).labels ↔ label' ∈ t.labels ∨ label' = label :=
  Keyed.mem_keys_put (K := byLabel)

theorem put_put (t : RuleTable α) (label : String) (rule rule' : α) :
    (t.put label rule).put label rule' = t.put label rule' := by
  have h : byLabel.put (label, rule') (byLabel.put (label, rule) t.entries) =
      byLabel.put (label, rule') t.entries := Keyed.put_put_of_key_eq rfl rfl
  simp only [put, h]

theorem put_comm {t : RuleTable α} (h : label ≠ label') (hm : label ∈ t.labels) (rule rule' : α) :
    (t.put label rule).put label' rule' = (t.put label' rule').put label rule := by
  have h : byLabel.put (label', rule') (byLabel.put (label, rule) t.entries) =
      byLabel.put (label, rule) (byLabel.put (label', rule') t.entries) :=
    Keyed.put_comm h (.inl hm)
  simp only [put, h]

-- What putting a rule under a label amounts to.
def changeOf (t : RuleTable α) (label : String) : RuleChange :=
  if t.contains label then .updated else .added

-- The answer to a definition, with what it leaves of the table.
def define (t : RuleTable α) (label : String) : Except ε α → Except ε RuleChange × RuleTable α
  | .ok rule => (.ok (t.changeOf label), t.put label rule)
  | .error e => (.error e, t)

def erase (t : RuleTable α) (label : String) : RuleTable α where
  entries := t.entries.filter (·.1 != label)
  distinct := t.distinct.sublist (List.filter_sublist.map _)

end RuleTable

end AudioRules
