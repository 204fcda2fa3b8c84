import Mathlib.Data.List.Forall2
import AudioRules.Snapshot

namespace AudioRules

namespace Snapshot

variable {text : String} {objects : List Json} {j : Json} {id : Nat} {info : ClientInfo}
  {clients : List (Nat × ClientInfo)} {n : Node}

-- The JSON document that a text is, if everything in it can be read.
def document? (text : String) : Option Json := (Json.read? text).filter (isReadable depthLimit)

theorem document?_eq_array_iff : document? text = some (.array objects) ↔
    Json.read? text = some (.array objects) ∧ isReadable depthLimit (.array objects) :=
  Option.filter_eq_some_iff

theorem parse_eq_ok_iff {s : Snapshot} : parse text = .ok s ↔
    ∃ objects, document? text = some (.array objects) ∧ s = ofObjects objects := by
  simp only [document?_eq_array_iff]
  unfold parse
  split
  case h_1 items hr =>
    by_cases h : isReadable depthLimit (.array items)
    case pos => simp [h, hr, eq_comm (a := s)]
    case neg => simp [h, hr]
  case h_2 hn =>
    simp only [reduceCtorEq, false_iff]
    intro ⟨objects, ⟨hr, _⟩, _⟩
    exact hn objects hr

def isClient (j : Json) : Bool := string? j "type" == some "PipeWire:Interface:Client"

-- A client with an id and a section of properties.
structure DescribesClient (j : Json) (id : Nat) (props : KeyMap Json) : Prop where
  isClient   : isClient j
  id         : id? j = some id
  properties : props? j = some props

-- A property that is a text.
def Has (props : KeyMap Json) (key text : String) : Prop := props.get? key = some (.text (some text))

-- A property that is a number, or a text that is one.
def HasNumber (props : KeyMap Json) (key : String) (n : Nat) : Prop :=
  props.get? key = some (.natural n) ∨
    ∃ text, Has props key text ∧ Text.naturalBelow? UInt64.size text = some n

-- What the properties of a client say of it:
-- 1. it has the name of its application, if that is given, or else its own name, if that is given
-- 2. its application id and its program are texts
-- 3. a user is a number that fits
structure Identifies (props : KeyMap Json) (info : ClientInfo) : Prop where
  name  : Has props "application.name" info.name ∨
    (∀ name, ¬Has props "application.name" name) ∧ (Has props "client.name" info.name ∨
      (∀ name, ¬Has props "client.name" name) ∧ info.name = "")
  appId : ∀ id, info.appId = some id ↔ Has props "application.id" id
  uid   : ∀ uid, info.uid = some uid ↔ uid < UInt32.size ∧ HasNumber props "pipewire.sec.uid" uid
  exe   : ∀ exe, info.exe = some exe ↔ Has props "application.process.binary" exe

-- The elements that a snapshot shows.
inductive Kind
  | sink | source | card | stream

namespace Kind

def interface : Kind → String
  | card => "PipeWire:Interface:Device"
  | _    => "PipeWire:Interface:Node"

def mediaClass : Kind → String
  | sink   => "Audio/Sink"
  | source => "Audio/Source"
  | card   => "Audio/Device"
  | stream => "Stream/Output/Audio"

def nameKey : Kind → String
  | card => "device.name"
  | _    => "node.name"

structure Names (k : Kind) (j : Json) (props : KeyMap Json) (name : String) : Prop where
  interface  : string? j "type" = some k.interface
  properties : props? j = some props
  mediaClass : propString? props "media.class" = some k.mediaClass
  name       : propString? props k.nameKey = some name

def is (k : Kind) (j : Json) : Bool :=
  string? j "type" == some k.interface && (props? j).any fun props =>
    propString? props "media.class" == some k.mediaClass && (propString? props k.nameKey).isSome

theorem is_iff {k : Kind} : k.is j ↔ ∃ props name, k.Names j props name := by
  simp only [is, Bool.and_eq_true, beq_iff_eq, Option.any_eq_true, Option.isSome_iff_exists]
  constructor
  case mp =>
    intro ⟨hi, props, hp, hm, name, hn⟩
    exact ⟨props, name, hi, hp, hm, hn⟩
  case mpr =>
    intro ⟨props, name, hi, hp, hm, hn⟩
    exact ⟨hi, props, hp, hm, name, hn⟩

-- What an element is shown as.
def node (k : Kind) (clients : List (Nat × ClientInfo)) (j : Json) (props : KeyMap Json)
    (name : String) : Node :=
  match k with
  | sink   => .device { direction := .sink, name, properties := proplist props, state := state j }
  | source => .device { direction := .source, name, properties := proplist props, state := state j }
  | card   => .card { name, properties := proplist props, profiles := profiles j }
  | stream => .stream {
      id := (id? j).getD 0
      properties := proplist props
      client := (propNumber? props "client.id").bind (clientOf? clients) }

end Kind

theorem propString?_eq_some_iff {props : KeyMap Json} {key text : String} :
    propString? props key = some text ↔ Has props key text := by
  unfold propString? Has
  cases props.get? key with
  | none   => simp
  | some j => cases j <;> simp

theorem propNumber?_eq_some_iff {props : KeyMap Json} {key : String} {n : Nat} (h : n < UInt64.size) :
    propNumber? props key = some n ↔ HasNumber props key n := by
  unfold propNumber? HasNumber Has
  cases props.get? key with
  | none => simp
  | some j =>
    cases j with
    | text s? => cases s? <;> simp
    | natural m =>
      simp only [Option.bind_some, natural?, Option.some.injEq, Json.natural.injEq]
      grind
    | _ => simp [natural?]

theorem names_client_iff {props : KeyMap Json} {name : String} :
    (Has props "application.name" name ∨
      (∀ name, ¬Has props "application.name" name) ∧ (Has props "client.name" name ∨
        (∀ name, ¬Has props "client.name" name) ∧ name = "")) ↔ name = (client props).name := by
  simp only [client, ← propString?_eq_some_iff]
  cases propString? props "application.name" with
  | some _ => simp [eq_comm]
  | none   => cases propString? props "client.name" <;> simp [eq_comm]

theorem uid_client_iff {props : KeyMap Json} {uid : Nat} : (client props).uid = some uid ↔
    uid < UInt32.size ∧ HasNumber props "pipewire.sec.uid" uid := by
  simp only [client, Option.filter_eq_some_iff, decide_eq_true_eq]
  constructor
  case mp =>
    intro ⟨hn, hu⟩
    exact ⟨hu, (propNumber?_eq_some_iff (Nat.lt_trans hu (by decide))).1 hn⟩
  case mpr =>
    intro ⟨hu, hn⟩
    exact ⟨(propNumber?_eq_some_iff (Nat.lt_trans hu (by decide))).2 hn, hu⟩

-- There is just one client that some properties identify.
theorem identifies_iff {props : KeyMap Json} : Identifies props info ↔ info = client props := by
  obtain ⟨name, appId, uid, exe⟩ := info
  constructor
  case mp =>
    intro h
    have hname : name = (client props).name := names_client_iff.1 h.name
    have happId : appId = (client props).appId :=
      Option.ext fun id => (h.appId id).trans propString?_eq_some_iff.symm
    have huid : uid = (client props).uid :=
      Option.ext fun uid => (h.uid uid).trans uid_client_iff.symm
    have hexe : exe = (client props).exe :=
      Option.ext fun exe => (h.exe exe).trans propString?_eq_some_iff.symm
    rw [hname, happId, huid, hexe]
  case mpr =>
    intro h
    rw [h]
    exact ⟨names_client_iff.2 rfl, fun _ => propString?_eq_some_iff, fun _ => uid_client_iff,
      fun _ => propString?_eq_some_iff⟩

theorem client?_eq_some_iff : client? j = some (id, info) ↔
    ∃ props, DescribesClient j id props ∧ info = client props := by
  unfold client?
  by_cases hi : string? j "type" = some "PipeWire:Interface:Client"
  case pos =>
    simp only [hi, ↓reduceIte, Option.bind_eq_bind, Option.bind_eq_some_iff, Option.pure_def,
      Option.some.injEq, Prod.mk.injEq]
    constructor
    case mp =>
      rintro ⟨_, hj, props, hp, rfl, rfl⟩
      exact ⟨props, ⟨beq_iff_eq.2 hi, hj, hp⟩, rfl⟩
    case mpr =>
      rintro ⟨props, h, rfl⟩
      exact ⟨id, h.id, props, h.properties, rfl, rfl⟩
  case neg =>
    simp only [hi, ↓reduceIte, reduceCtorEq, false_iff]
    intro ⟨_, h, _⟩
    exact hi (beq_iff_eq.1 h.isClient)

theorem node?_eq_some_iff : node? clients j = some n ↔
    ∃ (k : Kind) (props : KeyMap Json) (name : String),
      k.Names j props name ∧ n = k.node clients j props name := by
  simp only [node?, Option.bind_eq_bind, Option.bind_eq_some_iff, discard, Option.pure_def]
  constructor
  case mp =>
    intro ⟨type, ht, props, hp, h⟩
    split at h
    case h_1 _ hm =>
      have ⟨name, hn, he⟩ := Option.bind_eq_some_iff.1 h
      exact ⟨.sink, props, name, ⟨ht, hp, hm, hn⟩, (Option.some.inj he).symm⟩
    case h_2 _ hm =>
      have ⟨name, hn, he⟩ := Option.bind_eq_some_iff.1 h
      exact ⟨.source, props, name, ⟨ht, hp, hm, hn⟩, (Option.some.inj he).symm⟩
    case h_3 _ hm =>
      have ⟨_, hu, he⟩ := Option.bind_eq_some_iff.1 h
      have ⟨name, hn, _⟩ := Option.map_eq_some_iff.1 hu
      exact ⟨.stream, props, name, ⟨ht, hp, hm, hn⟩, (Option.some.inj he).symm⟩
    case h_4 _ hm =>
      have ⟨name, hn, he⟩ := Option.bind_eq_some_iff.1 h
      exact ⟨.card, props, name, ⟨ht, hp, hm, hn⟩, (Option.some.inj he).symm⟩
    case h_5 => cases h
  case mpr =>
    rintro ⟨k, props, name, h, rfl⟩
    refine ⟨_, h.interface, props, h.properties, ?_⟩
    have hn := h.name
    rw [h.mediaClass]
    cases k
    all_goals
      simp only [Kind.nameKey] at hn
      simp only [Kind.interface, Kind.mediaClass, Kind.node, hn]
      rfl

theorem client?_eq_none_of_not_isClient (h : ¬isClient j) : client? j = none := by
  unfold client?
  rw [if_neg (by simpa [isClient] using h)]

theorem node?_eq_none_of_isClient (h : isClient j) : node? clients j = none := by
  refine Option.eq_none_iff_forall_ne_some.2 fun node hn => ?_
  have ⟨k, props, name, hk, _⟩ := node?_eq_some_iff.1 hn
  have ht : "PipeWire:Interface:Client" = k.interface :=
    Option.some.inj ((beq_iff_eq.1 h).symm.trans hk.interface)
  cases k <;> exact absurd ht (by decide)

-- The last client with an id, and with properties, that is in a list.
def LastClient (objects : List Json) (id : Nat) (info : ClientInfo) : Prop :=
  ∃ before j after props, objects = before ++ j :: after ∧ DescribesClient j id props ∧
    Identifies props info ∧ ∀ k ∈ after, ∀ props, ¬DescribesClient k id props

theorem clientOf?_eq_some_iff :
    clientOf? (objects.filterMap client?) id = some info ↔ LastClient objects id info := by
  simp only [LastClient, identifies_iff]
  rw [clientOf?, ← List.filterMap_reverse, List.lookup_eq_some_iff]
  constructor
  case mp =>
    intro ⟨later, _, he, hl⟩
    have ⟨xs, _, hr, hx, hy⟩ := List.filterMap_eq_append_iff.1 he
    obtain ⟨ys, j, before, rfl, hn, hj, _⟩ := List.filterMap_eq_cons_iff.1 hy
    have ⟨props, hd, hi⟩ := client?_eq_some_iff.1 hj
    refine ⟨before.reverse, j, (xs ++ ys).reverse, props, ?_, hd, hi, fun k hk props hd => ?_⟩
    · rw [← List.reverse_reverse objects, hr]
      simp
    · have hk' := client?_eq_some_iff.2 ⟨props, hd, rfl⟩
      cases List.mem_append.1 (List.mem_reverse.1 hk)
      case inl hm =>
        have hm := hx ▸ List.mem_filterMap.2 ⟨k, hm, hk'⟩
        exact absurd rfl (bne_iff_ne.1 (hl _ hm))
      case inr hm => cases (hn k hm).symm.trans hk'
  case mpr =>
    rintro ⟨before, j, after, props, rfl, hd, rfl, hn⟩
    have hj := client?_eq_some_iff.2 ⟨props, hd, rfl⟩
    refine ⟨after.reverse.filterMap client?, before.reverse.filterMap client?, by simp [hj], ?_⟩
    intro (id', info) hm
    have ⟨k, hk, hk'⟩ := List.mem_filterMap.1 hm
    have ⟨props, hd, _⟩ := client?_eq_some_iff.1 hk'
    refine bne_iff_ne.2 fun he => hn k (List.mem_reverse.1 hk) props ?_
    exact he ▸ hd

-- What is passed over may be left out before.
theorem filterMap_filter_of_eq_none {p : α → Bool} {f : α → Option β} (h : ∀ a, ¬p a → f a = none)
    (as : List α) : (as.filter p).filterMap f = as.filterMap f := by
  rw [List.filterMap_filter]
  refine List.filterMap_congr fun a _ => ?_
  split
  case isTrue => rfl
  case isFalse ha => exact (h a ha).symm

theorem ofObjects_congr {objects objects' : List Json}
    (hc : objects.filter isClient = objects'.filter isClient)
    (ho : objects.filter (!isClient ·) = objects'.filter (!isClient ·)) :
    ofObjects objects = ofObjects objects' := by
  have hcs : objects.filterMap client? = objects'.filterMap client? := by
    have hn (j : Json) (h : ¬isClient j) := client?_eq_none_of_not_isClient h
    rw [← filterMap_filter_of_eq_none hn, hc, filterMap_filter_of_eq_none hn]
  have hns (clients : List (Nat × ClientInfo)) :
      objects.filterMap (node? clients) = objects'.filterMap (node? clients) := by
    have hn (j : Json) (h : ¬(!isClient j) = true) : node? clients j = none :=
      node?_eq_none_of_isClient (by simpa using h)
    rw [← filterMap_filter_of_eq_none hn, ho, filterMap_filter_of_eq_none hn]
  unfold ofObjects
  rw [hcs, hns]

theorem ofObjects_remove {before after : List Json} (hc : ¬(isClient j ∧ (id? j).isSome))
    (hk : ∀ k : Kind, ¬k.is j) :
    ofObjects (before ++ j :: after) = ofObjects (before ++ after) := by
  have hcj : client? j = none := by
    refine Option.eq_none_iff_forall_ne_some.2 fun (id, info) h => hc ?_
    have ⟨_, h, _⟩ := client?_eq_some_iff.1 h
    exact ⟨h.isClient, by simp [h.id]⟩
  have hnj (clients : List (Nat × ClientInfo)) : node? clients j = none := by
    refine Option.eq_none_iff_forall_ne_some.2 fun node h => ?_
    have ⟨k, props, name, h, _⟩ := node?_eq_some_iff.1 h
    exact hk k (Kind.is_iff.2 ⟨props, name, h⟩)
  simp only [ofObjects, List.filterMap_append, List.filterMap_cons_none hcj,
    List.filterMap_cons_none (hnj _)]

-- What is shown

theorem forall₂_filter_filterMap {p : α → Bool} {f : α → Option β} {R : α → β → Prop}
    (hp : ∀ a, p a → ∃ b, f a = some b ∧ R a b) (hn : ∀ a, ¬p a → f a = none) (as : List α) :
    List.Forall₂ R (as.filter p) (as.filterMap f) := by
  induction as with
  | nil => exact .nil
  | cons a as hi =>
    by_cases ha : p a
    case pos =>
      have ⟨b, hb, hr⟩ := hp a ha
      rw [List.filter_cons_of_pos ha, List.filterMap_cons_some hb]
      exact .cons hr hi
    case neg =>
      rw [List.filter_cons_of_neg ha, List.filterMap_cons_none (hn a ha)]
      exact hi

-- Part of the nodes of a snapshot, if it is of one kind.
theorem forall₂_part {part : Node → Option β} {R : Json → β → Prop} (k : Kind)
    (hk : ∀ j props name, k.Names j props name →
      ∃ b, part (k.node clients j props name) = some b ∧ R j b)
    (hn : ∀ (k' : Kind) j props name, k' ≠ k → part (k'.node clients j props name) = none)
    (objects : List Json) :
    List.Forall₂ R (objects.filter k.is) ((objects.filterMap (node? clients)).filterMap part) := by
  rw [List.filterMap_filterMap]
  refine forall₂_filter_filterMap (fun j h => ?_) (fun j h => ?_) objects
  · have ⟨props, name, h⟩ := Kind.is_iff.1 h
    have hj : node? clients j = some (k.node clients j props name) :=
      node?_eq_some_iff.2 ⟨k, props, name, h, rfl⟩
    rw [hj]
    exact hk j props name h
  · cases hj : node? clients j with
    | none      => rfl
    | some node =>
      obtain ⟨k', props, name, hk', rfl⟩ := node?_eq_some_iff.1 hj
      refine hn k' j props name ?_
      rintro rfl
      exact h (Kind.is_iff.2 ⟨props, name, hk'⟩)

def ShowsDevice (k : Kind) (d : Direction) (j : Json) (n : DeviceNode) : Prop :=
  ∃ props name, k.Names j props name ∧
    n = { direction := d, name, properties := proplist props, state := state j }

def ShowsCard (j : Json) (n : CardNode) : Prop :=
  ∃ props name, Kind.card.Names j props name ∧
    n = { name, properties := proplist props, profiles := profiles j }

def ShowsStream (objects : List Json) (j : Json) (n : StreamNode) : Prop :=
  ∃ props name, Kind.stream.Names j props name ∧
    n.id = (id? j).getD 0 ∧ n.properties = proplist props ∧
    ∀ info, n.client = some info ↔
      ∃ id, propNumber? props "client.id" = some id ∧ LastClient objects id info

-- Every element of a kind is shown, in the order of the elements, and nothing else is.
structure Shows (objects : List Json) (s : Snapshot) : Prop where
  sinks   : List.Forall₂ (ShowsDevice .sink .sink) (objects.filter Kind.sink.is) s.sinks
  sources : List.Forall₂ (ShowsDevice .source .source) (objects.filter Kind.source.is) s.sources
  cards   : List.Forall₂ ShowsCard (objects.filter Kind.card.is) s.cards
  streams : List.Forall₂ (ShowsStream objects) (objects.filter Kind.stream.is) s.streams

theorem shows_ofObjects (objects : List Json) : Shows objects (ofObjects objects) := by
  constructor
  case' sinks =>
    refine forall₂_part .sink (fun j props name h => ?shown) ?others objects
    case shown => exact ⟨_, rfl, props, name, h, rfl⟩
  case' sources =>
    refine forall₂_part .source (fun j props name h => ?shown) ?others objects
    case shown => exact ⟨_, rfl, props, name, h, rfl⟩
  case' cards =>
    refine forall₂_part .card (fun j props name h => ?shown) ?others objects
    case shown => exact ⟨_, rfl, props, name, h, rfl⟩
  case' streams =>
    refine forall₂_part .stream (fun j props name h => ?shown) ?others objects
    case shown =>
      refine ⟨_, rfl, props, name, h, rfl, rfl, fun info => ?_⟩
      simp only [Option.bind_eq_some_iff, clientOf?_eq_some_iff]
  -- No part has nodes of another kind.
  all_goals
    intro k _ _ _ hk
    cases k <;> first | rfl | exact absurd rfl hk

-- Of dumps:
-- 1. a text is one if it is a JSON array, whatever is in it
-- 2. the order between clients and other elements makes no difference
-- 3. neither does an element that is no client with an id and none of those that are shown
-- 4. all that are shown are shown once, in their order, and a stream with the last client of its id
theorem parse_of_elements :
    (∀ text, (∃ s, parse text = .ok s) ↔ ∃ objects, document? text = some (.array objects)) ∧
    (∀ text objects, document? text = some (.array objects) →
      parse text = .ok (ofObjects objects)) ∧
    (∀ objects objects' : List Json, objects.filter isClient = objects'.filter isClient →
      objects.filter (!isClient ·) = objects'.filter (!isClient ·) →
        ofObjects objects = ofObjects objects') ∧
    (∀ before j after, ¬(isClient j ∧ (id? j).isSome) → (∀ k : Kind, ¬k.is j) →
      ofObjects (before ++ j :: after) = ofObjects (before ++ after)) ∧
    ∀ objects, Shows objects (ofObjects objects) := by
  refine ⟨fun text => ?_, fun text objects h => parse_eq_ok_iff.2 ⟨objects, h, rfl⟩,
    fun _ _ => ofObjects_congr, fun _ _ _ => ofObjects_remove, shows_ofObjects⟩
  simp [parse_eq_ok_iff, exists_comm (α := Snapshot)]

end Snapshot

end AudioRules
