import AudioRules.Text.Blank

namespace AudioRules

abbrev FlagSet := UInt32

namespace FlagSet

def none : FlagSet := 0

def has (flags flag : FlagSet) : Bool := flags &&& flag == flag

-- Whether the flags under the mask are exactly those of `value`.
def agrees (flags mask value : FlagSet) : Bool := flags &&& mask == value

abbrev Names := List (String × FlagSet)

-- Names that the section does not know count for nothing, nor do blanks around a name.
def ofNames (known : Names) (names : List String) : FlagSet :=
  names.foldl (fun flags name => flags ||| (known.lookup (Text.trim name)).getD none) none

end FlagSet

namespace DeviceFlag

def disableNotify           : FlagSet := 1
def refreshAlways           : FlagSet := 2
def delayedPortChange       : FlagSet := 4
def moduleUnloadImmediately : FlagSet := 8

def names : FlagSet.Names :=
  [("disable_notify", disableNotify),
   ("refresh_always", refreshAlways),
   ("delayed_port_change", delayedPortChange),
   ("module_unload_immediately", moduleUnloadImmediately)]

end DeviceFlag

namespace CardFlag

def disableNotify        : FlagSet := 1
def notifyProfileChanged : FlagSet := 2

def names : FlagSet.Names :=
  [("disable_notify", disableNotify), ("notify_profile_changed", notifyProfileChanged)]

end CardFlag

namespace StreamFlag

-- has no name of its own in rule sets
def localRoute     : FlagSet := 1
def localMute      : FlagSet := 2
def localMaxVolume : FlagSet := 4

def names : FlagSet.Names := [("mute_if_active", localMute), ("max_volume", localMaxVolume)]

def labels : FlagSet.Names :=
  [("LOCAL_ROUTE", localRoute), ("LOCAL_MUTE", localMute), ("LOCAL_VOLMAX", localMaxVolume)]

def hex (n : Nat) : String := "0x" ++ String.ofList (Nat.toDigits 16 n)

-- The flags by their labels, and what has no label as a number.
def report (flags : FlagSet) : String :=
  let named := labels.filter fun (_, flag) => flags.has flag
  let rest := flags &&& ~~~(labels.foldl (fun known l => known ||| l.2) .none)
  let parts := named.map (·.1) ++ if rest == 0 && flags != 0 then [] else [hex rest.toNat]
  "StreamFlags(" ++ " | ".intercalate parts ++ ")"

end StreamFlag

end AudioRules
