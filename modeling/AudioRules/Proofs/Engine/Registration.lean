import AudioRules.Classifier
import AudioRules.Proofs.AppId
import AudioRules.Proofs.RuleTable
import AudioRules.Proofs.Stream.Registration

namespace AudioRules.Classifier

variable {c : Classifier} {d : Direction}

@[simp]
theorem devices_setDevices (t : DeviceTable d) : (c.setDevices d t).devices d = t := by
  cases d <;> rfl

@[simp]
theorem setDevices_devices (c : Classifier) (d : Direction) : c.setDevices d (c.devices d) = c := by
  cases d <;> rfl

@[simp]
theorem setDevices_setDevices (t t' : DeviceTable d) :
    (c.setDevices d t).setDevices d t' = c.setDevices d t' := by
  cases d <;> rfl

-- A definition that is refused leaves its table as it is, and with it everything.

theorem enlistDevice_of_error {rule : Device.RuleDef} (h : (c.enlistDevice d rule).1 = .error e) :
    (c.enlistDevice d rule).2 = c := by
  have ht : ((c.devices d).add (c.vars.inDevice rule)).2 = c.devices d :=
    congrArg DeviceTable.mk (RuleTable.define_of_error h)
  exact (congrArg (c.setDevices d) ht).trans (c.setDevices_devices d)

theorem enlistCard_of_error {rule : Card.RuleDef} (h : (c.enlistCard rule).1 = .error e) :
    (c.enlistCard rule).2 = c := by
  have ht : (c.cards.add (c.vars.inCard rule)).2 = c.cards :=
    congrArg CardTable.mk (RuleTable.define_of_error h)
  exact congrArg (fun cards => { c with cards }) ht

theorem enlistStream_of_error {rule : Stream.RuleDef} (h : (c.enlistStream rule).1 = .error e) :
    (c.enlistStream rule).2 = c :=
  congrArg (fun streams => { c with streams }) (StreamRules.add_of_error h)

theorem enlistAppId_of_error {id : String} {spec : Option PredicateSpec}
    (h : (c.enlistAppId id spec group).1 = .error e) : (c.enlistAppId id spec group).2 = c :=
  congrArg (fun appIds => { c with appIds }) (AppIds.register_of_error h)

end AudioRules.Classifier
