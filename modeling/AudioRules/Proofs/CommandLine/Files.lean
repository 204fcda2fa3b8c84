import AudioRules.CommandLine.Classify
import AudioRules.Proofs.Except
import AudioRules.Proofs.Snapshot
import AudioRules.Proofs.Text.Bytes

namespace AudioRules

namespace Bytes

-- Whether characters are one byte each.
def isAscii (cs : List Char) : Bool := cs.all (·.toNat < 0x80)

def ofAscii (cs : List Char) : Bytes := cs.map fun c => .ofNat c.toNat

theorem pieces_ofAscii {cs : List Char} (h : isAscii cs) : pieces (ofAscii cs) = cs.map .char := by
  simp only [isAscii, List.all_eq_true, decide_eq_true_eq] at h
  unfold ofAscii
  induction cs with
  | nil => rfl
  | cons c cs hi =>
    have ⟨hc, hcs⟩ := List.forall_mem_cons.1 h
    rw [List.map_cons, pieces_cons_of_lt hc, hi hcs, Char.ofNat_toNat, List.map_cons]

theorem text?_ofAscii {cs : List Char} (h : isAscii cs) :
    (ofAscii cs).text? = some (.ofList cs) := by
  have hm (cs : List Char) : (cs.map Piece.char).mapM Piece.char? = some cs := by
    induction cs with
    | nil          => rfl
    | cons c cs hi => simp [hi, Piece.char?]
  rw [text?, pieces_ofAscii h, hm, Option.map_some]

end Bytes

def Json.ofChars? (cs : List Char) : Option Json := do
  let (value, rest) ← readValue (cs.length + 1) cs
  guard (skipSpace rest).isEmpty
  return value

theorem Json.read?_ofList (cs : List Char) : read? (.ofList cs) = ofChars? cs := by
  rw [read?, ofChars?, String.toList_ofList, String.length_ofList]

def Snapshot.ofDocument? : Json → Option Snapshot
  | .array objects =>
    if isReadable depthLimit (.array objects) then some (ofObjects objects) else none
  | _ => none

theorem Snapshot.parse_eq_ok {text : String} {s : Snapshot}
    (h : (Json.read? text).bind ofDocument? = some s) : parse text = .ok s := by
  obtain ⟨j, hj, hd⟩ := Option.bind_eq_some_iff.1 h
  cases j with
  | array objects =>
    have ⟨hr, hs⟩ := Option.ite_none_right_eq_some.1 hd
    exact parse_eq_ok_iff.2 ⟨objects, document?_eq_array_iff.2 ⟨hj, hr⟩, (Option.some.inj hs).symm⟩
  | _ => cases hd

namespace Machine

variable {m : Machine τ} {path text : String} {r : RuleSet} {s : Snapshot}

theorem readText_eq_ok : m.readText path = .ok text ↔
    ∃ bytes, m.read path = .ok bytes ∧ bytes.text? = some text := by
  unfold readText
  cases m.read path with
  | error e  => simp
  | ok bytes => cases ht : bytes.text? <;> simp [ht]

theorem rules_eq_ok : m.rules path = .ok r ↔
    ∃ text, m.readText path = .ok text ∧ RuleSet.read? text = some r := by
  simp only [rules, Except.bind_eq_ok]
  refine exists_congr fun text => and_congr_right fun _ => ?_
  cases RuleSet.read? text <;> simp

theorem snapshot_eq_ok : m.snapshot (some path) = .ok s ↔
    ∃ text, m.readText path = .ok text ∧ Snapshot.parse text = .ok s := by
  simp [snapshot, dumpFrom]

theorem parsed_of_snapshot {dump : Option String} (h : m.snapshot dump = .ok s) :
    ∃ text, Snapshot.parse text = .ok s := by
  cases dump with
  | some path =>
    obtain ⟨text, _, hs⟩ := snapshot_eq_ok.1 h
    exact ⟨text, hs⟩
  | none =>
    simp only [snapshot, Except.bind_eq_ok, Except.mapError_eq_ok] at h
    obtain ⟨text, _, hs⟩ := h
    exact ⟨text, hs⟩

def ofLines (lines : List String) : List Char := lines.flatMap fun line => line.toList ++ ['\n']

-- A machine with the given files and no programs.
def ofFiles (files : List (String × List String)) : Machine Unit where
  read path :=
    (files.lookup path).elim (.error .notFound) fun lines => .ok (.ofAscii (ofLines lines))
  configDirectory := "/home/.config"
  dump := .error .notFound
  pactl := Tool.missing
  state := ()

variable {files : List (String × List String)} {lines : List String}

theorem readText_ofFiles (hf : files.lookup path = some lines)
    (ha : Bytes.isAscii (ofLines lines)) :
    (ofFiles files).readText path = .ok (.ofList (ofLines lines)) :=
  readText_eq_ok.2 ⟨.ofAscii (ofLines lines), by simp [ofFiles, hf], Bytes.text?_ofAscii ha⟩

theorem rules_ofFiles (hf : files.lookup path = some lines) (ha : Bytes.isAscii (ofLines lines))
    (hr : (Json.ofChars? (ofLines lines)).bind RuleSet.ofJson? = some r) :
    (ofFiles files).rules path = .ok r := by
  refine rules_eq_ok.2 ⟨_, readText_ofFiles hf ha, ?_⟩
  rwa [RuleSet.read?, Json.read?_ofList]

theorem snapshot_ofFiles (hf : files.lookup path = some lines) (ha : Bytes.isAscii (ofLines lines))
    (hs : (Json.ofChars? (ofLines lines)).bind Snapshot.ofDocument? = some s) :
    (ofFiles files).snapshot (some path) = .ok s := by
  refine snapshot_eq_ok.2 ⟨_, readText_ofFiles hf ha, Snapshot.parse_eq_ok ?_⟩
  rwa [Json.read?_ofList]

end Machine

end AudioRules
