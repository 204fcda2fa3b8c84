import AudioRules.Module.Pactl
import AudioRules.Proofs.Module.Journal
import AudioRules.Proofs.Text.Bytes
import AudioRules.Proofs.Text.Words

namespace AudioRules

inductive HostRequest
  | load (name : String) (args : Option String)
  | unload (index : ModuleIndex)
  | requestUnload (index : ModuleIndex)

namespace HostRequest

def isLoad : HostRequest → Bool
  | load _ _ => true
  | _        => false

-- What `pactl` is asked for.
def arguments : HostRequest → List String
  | load name args                     => Pactl.loadArgs name args
  | unload index | requestUnload index => Pactl.unloadArgs index

-- Modules are named by one word, and a program can take the arguments.
def Plain : HostRequest → Prop
  | load name args => Text.IsWord name ∧ Tool.canTake name ∧ ∀ text ∈ args, Tool.canTake text
  | _              => True

instance : (r : HostRequest) → Decidable r.Plain
  | load name args =>
    inferInstanceAs <| Decidable <|
      Text.IsWord name ∧ Tool.canTake name ∧ ∀ text ∈ args, Tool.canTake text
  | unload _ | requestUnload _ => inferInstanceAs (Decidable True)

end HostRequest

namespace ModuleHost

-- The call with what came of it.
def serve (host : ModuleHost σ) (s : σ) : HostRequest → HostCall × σ
  | .load name args      => let (result, s) := host.load name args s; (.load name args result, s)
  | .unload index        => (.unload index, host.unload index s)
  | .requestUnload index => (.requestUnload index, host.requestUnload index s)

def serveAll (host : ModuleHost σ) (s : σ) : List HostRequest → List HostCall × σ
  | []      => ([], s)
  | r :: rs =>
    let (call, s)  := host.serve s r
    let (calls, s) := host.serveAll s rs
    (call :: calls, s)

end ModuleHost

namespace Tool

def after (tool : Tool τ) (t : τ) (runs : List (List String)) : τ :=
  runs.foldl (fun t args => (tool args t).2) t

theorem after_append_singleton (tool : Tool τ) (t : τ) (runs : List (List String)) :
    tool.after t (runs ++ [args]) = (tool args (tool.after t runs)).2 := by
  simp [after]

theorem canTake_iff : canTake arg ↔ '\x00' ∉ arg.toList := by
  simp [canTake]

end Tool

namespace Pactl

def isLoad (args : List String) : Bool := args.head? == some "load-module"

theorem isLoad_arguments (r : HostRequest) : isLoad r.arguments = r.isLoad := by
  cases r <;> simp [isLoad, HostRequest.isLoad, HostRequest.arguments, loadArgs, unloadArgs]

-- A number, and blanks around it.
def Shows (output : Bytes) (n : Nat) : Prop :=
  ∃ before after, Text.Blank before ∧ Text.Blank after ∧
    output = Bytes.ofString (before ++ Nat.repr n ++ after)

theorem Shows.index?_eq (h : Shows output n) (hn : n < UInt32.size) :
    index? output.lossyText = some (UInt32.ofNat n) := by
  obtain ⟨before, after, hb, ha, rfl⟩ := h
  rw [Bytes.lossyText_ofString, index?, Text.trim_append hb (Text.isWord_repr n) ha,
    Text.naturalBelow?, Text.natural?_repr, Option.filter_some, if_pos (by simpa using hn)]
  rfl

-- Whatever it has been run for, `pactl` does not fail, and a load shows how many there have been.
def Numbers (pactl : Tool τ) (t : τ) : Prop :=
  ∀ runs args, ∃ output,
    (pactl args (pactl.after t runs)).1 = .ok output ∧ output.isSuccess ∧
      (isLoad args → Shows output.stdout (runs.countP isLoad + 1))

variable {pactl : Tool τ} {s : PactlSession τ}

theorem run_of_numbers (hp : Numbers pactl t) (hs : s.state = pactl.after t s.runs)
    (ha : args.all Tool.canTake) :
    ∃ output,
      s.run pactl args =
        (.ok output,
          { s with state := pactl.after t (s.runs ++ [args]), runs := s.runs ++ [args] }) ∧
      output.isSuccess ∧ (isLoad args → Shows output.stdout (s.runs.countP isLoad + 1)) := by
  have ⟨output, ho, h⟩ := hp s.runs args
  have hr : pactl args s.state = (.ok output, pactl.after t (s.runs ++ [args])) := by
    rw [hs, Tool.after_append_singleton, ← ho]
  exact ⟨output, by rw [PactlSession.run, Tool.start, if_pos ha, hr], h⟩

theorem loaded_of_shows (hs : output.isSuccess) (h : Shows output.stdout n)
    (hn : n < UInt32.size) : loaded name (.ok output) = .ok (UInt32.ofNat n) := by
  simp only [loaded, hs, if_true, h.index?_eq hn]

theorem words_printed_load (h : Text.IsWord name) (args : Option String) :
    Text.words ("pactl load-module " ++ name ++ " " ++ args.getD "") =
      "pactl" :: loadArgs name args := by
  have hl : "pactl load-module " ++ name ++ " " ++ args.getD "" =
      "pactl" ++ " " ++ ("load-module" ++ " " ++ (name ++ " " ++ args.getD "")) := by
    simp [← String.toList_inj]
  rw [hl, Text.words_append (by decide), Text.words_append (by decide), Text.words_append h]
  cases args <;> rfl

theorem words_printed_unload (index : ModuleIndex) :
    Text.words s!"pactl unload-module {index.toNat}" = "pactl" :: unloadArgs index := by
  have hl : s!"pactl unload-module {index.toNat}" =
      "pactl" ++ " " ++ ("unload-module" ++ " " ++ Nat.repr index.toNat) := by
    simp [← String.toList_inj]
    rfl
  rw [hl, Text.words_append (by decide), Text.words_append (by decide),
    Text.words_eq_singleton (Text.isWord_repr _)]
  rfl

theorem canTake_arguments {r : HostRequest} (h : r.Plain) : r.arguments.all Tool.canTake := by
  have hu (index : ModuleIndex) : (unloadArgs index).all Tool.canTake := by
    have hi : Tool.canTake (Nat.repr index.toNat) :=
      Tool.canTake_iff.mpr fun hc => absurd (Text.isDigit_of_mem_repr hc) (by decide)
    simp only [unloadArgs, List.all_cons, hi]
    decide
  match r, h with
  | .load name none, ⟨_, hn, _⟩ =>
    simp only [HostRequest.arguments, loadArgs, List.all_cons, hn]
    decide
  | .load name (some text), ⟨_, hn, ha⟩ =>
    have hw : (Text.words text).all Tool.canTake := List.all_eq_true.mpr fun w hw =>
      Tool.canTake_iff.mpr fun hc =>
        Tool.canTake_iff.mp (ha text rfl) (Text.mem_of_mem_words hw hc)
    simp only [HostRequest.arguments, loadArgs, List.all_cons, hn, Option.map_some,
      Option.getD_some, hw]
    decide
  | .unload index, _ | .requestUnload index, _ => exact hu index

-- A real session and a dry one, after the same requests.
structure Alike (pactl : Tool τ) (t : τ) (real : PactlSession τ) (dry : PactlSession υ) : Prop where
  state_eq : real.state = pactl.after t real.runs
  loads_eq : dry.loads = UInt32.ofNat (real.runs.countP isLoad)
  words_eq : dry.printed.map Text.words = real.runs.map ("pactl" :: ·)

namespace Alike

variable {real : PactlSession τ} {dry : PactlSession υ}

theorem next (h : Alike pactl t real dry) (hw : Text.words line = "pactl" :: args)
    (hl : loads = UInt32.ofNat ((real.runs ++ [args]).countP isLoad)) :
    Alike pactl t
      { real with state := pactl.after t (real.runs ++ [args]), runs := real.runs ++ [args] }
      { dry with printed := dry.printed ++ [line], loads } where
  state_eq := rfl
  loads_eq := hl
  words_eq := by simp [h.words_eq, hw]

theorem load (hp : Numbers pactl t) (h : Alike pactl t real dry)
    (hr : HostRequest.Plain (.load name args)) (hl : real.runs.countP isLoad + 1 < UInt32.size) :
    (dryRun.load name args dry).1 = ((host pactl).load name args real).1 ∧
      ((host pactl).load name args real).2.runs = real.runs ++ [loadArgs name args] ∧
      Alike pactl t ((host pactl).load name args real).2 (dryRun.load name args dry).2 := by
  have ⟨output, hrun, hs, hshows⟩ := run_of_numbers hp h.state_eq (canTake_arguments hr)
  have hreal : (host pactl).load name args real = (loaded name (.ok output), _) :=
    congrArg (fun result => (loaded name result.1, result.2)) hrun
  have hloads : dry.loads + 1 = UInt32.ofNat (real.runs.countP isLoad + 1) := by
    rw [h.loads_eq, UInt32.ofNat_add]
    rfl
  rw [hreal, loaded_of_shows hs (hshows rfl) hl]
  refine ⟨congrArg Except.ok hloads, rfl, h.next (words_printed_load hr.1 args) ?_⟩
  refine hloads.trans (congrArg UInt32.ofNat ?_)
  rw [List.countP_append]
  rfl

theorem unload (hp : Numbers pactl t) (h : Alike pactl t real dry) (index : ModuleIndex) :
    (Pactl.unload pactl index real).runs = real.runs ++ [unloadArgs index] ∧
      Alike pactl t (Pactl.unload pactl index real) (printUnload index dry) := by
  have ⟨_, hrun, _⟩ :=
    run_of_numbers hp h.state_eq (canTake_arguments (r := .unload index) trivial)
  have hreal : Pactl.unload pactl index real = _ := congrArg Prod.snd hrun
  rw [hreal]
  refine ⟨rfl, h.next (words_printed_unload index) ?_⟩
  rw [h.loads_eq, List.countP_append]
  rfl

-- Both answer alike, and the dry one prints what the real one runs.
theorem serve (hp : Numbers pactl t) (h : Alike pactl t real dry) {r : HostRequest} (hr : r.Plain)
    (hl : (real.runs ++ [r.arguments]).countP isLoad < UInt32.size) :
    (dryRun.serve dry r).1 = ((host pactl).serve real r).1 ∧
      ((host pactl).serve real r).2.runs = real.runs ++ [r.arguments] ∧
      Alike pactl t ((host pactl).serve real r).2 (dryRun.serve dry r).2 := by
  cases r
  case load name args =>
    rw [List.countP_append] at hl
    have ⟨ha, h⟩ := h.load hp hr hl
    exact ⟨congrArg (HostCall.load name args) ha, h⟩
  case unload index        => exact ⟨rfl, h.unload hp index⟩
  case requestUnload index => exact ⟨rfl, h.unload hp index⟩

-- Alike at the start, they are alike at the end.
theorem serveAll (hp : Numbers pactl t) (h : Alike pactl t real dry) {rs : List HostRequest}
    (hr : ∀ r ∈ rs, r.Plain)
    (hl : (real.runs ++ rs.map (·.arguments)).countP isLoad < UInt32.size) :
    (dryRun.serveAll dry rs).1 = ((host pactl).serveAll real rs).1 ∧
      ((host pactl).serveAll real rs).2.runs = real.runs ++ rs.map (·.arguments) ∧
      Alike pactl t ((host pactl).serveAll real rs).2 (dryRun.serveAll dry rs).2 := by
  induction rs generalizing real dry
  case nil => exact ⟨rfl, (List.append_nil _).symm, h⟩
  case cons r rs hi =>
    have ⟨hr, hrs⟩ := List.forall_mem_cons.mp hr
    rw [List.map_cons, List.append_cons] at hl ⊢
    have hl' : (real.runs ++ [r.arguments]).countP isLoad < UInt32.size := by
      rw [List.countP_append] at hl
      exact Nat.lt_of_le_of_lt (Nat.le_add_right _ _) hl
    have ⟨hc, hruns, h⟩ := h.serve hp hr hl'
    rw [← hruns] at hl ⊢
    have ⟨hcs, h⟩ := hi h hrs hl
    exact ⟨congr (congrArg List.cons hc) hcs, h⟩

end Alike

-- With fewer loads than there are indices, of modules that are named by one word, a dry run answers
-- as a real one does, and what it prints for a request is what `pactl` is run with for it.
theorem dryRun_agrees {u : υ} (hp : Numbers pactl t) (hr : ∀ r ∈ rs, HostRequest.Plain r)
    (hl : rs.countP (·.isLoad) < UInt32.size) :
    let real := (host pactl).serveAll { state := t } rs
    let dry  := dryRun.serveAll { state := u } rs
    dry.1 = real.1 ∧ real.2.runs = rs.map (·.arguments) ∧
      dry.2.printed.map Text.words = real.2.runs.map ("pactl" :: ·) := by
  have h : Alike pactl t { state := t } { state := u } := ⟨rfl, rfl, rfl⟩
  have hl' : (rs.map (·.arguments)).countP isLoad < UInt32.size := by
    simpa [List.countP_map, Function.comp_def, isLoad_arguments] using hl
  have ⟨hc, hruns, h⟩ := h.serveAll hp hr hl'
  exact ⟨hc, hruns, h.words_eq⟩

-- A `pactl` that only counts.
def counting : Tool Nat := fun args n =>
  if isLoad args then (.ok { stdout := Bytes.ofString (Nat.repr (n + 1) ++ "\n") }, n + 1)
  else (.ok {}, n)

theorem after_counting (n : Nat) (runs : List (List String)) :
    counting.after n runs = n + runs.countP isLoad := by
  induction runs generalizing n
  case nil => rfl
  case cons args runs hi =>
    have hc : (counting args n).2 = n + if isLoad args then 1 else 0 := by
      unfold counting
      split <;> rfl
    rw [Tool.after, List.foldl_cons, hc]
    refine (hi _).trans ?_
    rw [List.countP_cons]
    omega

theorem numbers_counting : Numbers counting 0 := by
  intro runs args
  rw [after_counting, Nat.zero_add]
  unfold counting
  split
  case isTrue h  => exact ⟨_, rfl, rfl, fun _ => ⟨"", "\n", by decide, by decide, by simp⟩⟩
  case isFalse h => exact ⟨_, rfl, rfl, fun h' => absurd h' h⟩

-- A loopback of a null sink that is named with more blanks than needed.
def nullSink : List HostRequest :=
  [.load "module-null-sink" (some " sink_name=aux  rate=48000\t"), .load "module-loopback" none,
    .requestUnload 2, .unload 1]

theorem dryRun_nullSink :
    let real := (host counting).serveAll { state := 0 } nullSink
    let dry  := dryRun.serveAll { state := () } nullSink
    dry.1 = real.1 ∧
      dry.2.printed =
        ["pactl load-module module-null-sink  sink_name=aux  rate=48000\t",
          "pactl load-module module-loopback ", "pactl unload-module 2",
          "pactl unload-module 1"] ∧
      dry.2.printed.map Text.words = real.2.runs.map ("pactl" :: ·) ∧
      real.2.runs =
        [["load-module", "module-null-sink", "sink_name=aux", "rate=48000"],
          ["load-module", "module-loopback"], ["unload-module", "2"], ["unload-module", "1"]] := by
  intro real dry
  have hr : ∀ r ∈ nullSink, r.Plain := by decide +kernel
  have ⟨hc, hruns, hw⟩ := dryRun_agrees (u := ()) numbers_counting hr (by decide +kernel)
  exact ⟨hc, rfl, hw, hruns.trans (by decide +kernel)⟩

end Pactl

end AudioRules
