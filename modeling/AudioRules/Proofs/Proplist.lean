import Mathlib.Data.List.TakeWhile
import AudioRules.Proofs.Except
import AudioRules.Proofs.KeyMap.Entries
import AudioRules.Proplist

namespace AudioRules

-- The longest beginning whose members are of a class ends where the next one is not.
theorem takeWhile_dropWhile_iff {p : α → Bool} {as before after : List α} :
    as.takeWhile p = before ∧ as.dropWhile p = after ↔
      as = before ++ after ∧ (∀ a ∈ before, p a) ∧ ∀ a ∈ after.head?, ¬p a := by
  constructor
  case mp =>
    rintro ⟨rfl, rfl⟩
    refine ⟨List.takeWhile_append_dropWhile.symm, fun a => List.mem_takeWhile_imp, fun a ha => ?_⟩
    have hn := List.head?_dropWhile_not p as
    rw [Option.mem_def.1 ha] at hn
    exact Bool.eq_false_iff.1 hn
  case mpr =>
    rintro ⟨rfl, hb, ha⟩
    rw [List.takeWhile_append_of_pos hb, List.dropWhile_append_of_pos hb]
    cases after with
    | nil => simp
    | cons a after =>
      have hn : ¬p a := ha a rfl
      simp [hn]

namespace Proplist

def IsGap (cs : List Char) : Prop := ∀ c ∈ cs, isSeparator c

structure IsKey (key : String) : Prop where
  ne_empty  : key ≠ ""
  no_equals : '=' ∉ key.toList
  no_gap    : ∀ c ∈ key.toList, ¬isSeparator c

-- The forms of a value, and what may follow them: after the quotes there may be anything, and
-- without them there has to be a separator, so that the value is as long as it can be.
inductive WritesValue (v : String) : List Char → List Char → Prop
  | quoted : '"' ∉ v.toList → WritesValue v ('"' :: v.toList ++ ['"']) rest
  | plain : (∀ c ∈ v.toList, ¬isSeparator c) → v.toList.head? ≠ some '"' →
      (∀ c ∈ rest.head?, isSeparator c) → WritesValue v v.toList rest

-- The pairs of a text, with gaps before and after each of them.
inductive Written : List (String × String) → List Char → Prop
  | nil : IsGap gap → Written [] gap
  | cons : IsGap gap → IsKey key → WritesValue v written rest → Written es rest →
      Written ((key, v) :: es) (gap ++ (key.toList ++ '=' :: (written ++ rest)))

-- Pairs that can be written with quotes.
structure Quotable (e : String × String) : Prop where
  key   : IsKey e.1
  value : '"' ∉ e.2.toList

-- A pair with its value in quotes.
def quotedPair (e : String × String) : String := e.1 ++ "=\"" ++ e.2 ++ "\""

-- Pairs with gaps between them, each of its own.
inductive Joined : List (String × String) → String → Prop
  | nil : Joined [] ""
  | single : Joined [e] (quotedPair e)
  | cons : IsGap gap.toList → Joined (e' :: es) text →
      Joined (e :: e' :: es) (quotedPair e ++ gap ++ text)

-- Pairs as they are read, and as texts.
def chars (e : String × String) : List Char × List Char := (e.1.toList, e.2.toList)

def texts (p : List Char × List Char) : String × String := (String.ofList p.1, String.ofList p.2)

-- By the characters of the texts alone; a search for an instance may try every character there is.
instance (cs : List Char) : Decidable (IsGap cs) :=
  decidable_of_iff (cs.all isSeparator) List.all_eq_true

instance (key : String) : Decidable (IsKey key) :=
  decidable_of_iff (key ≠ "" ∧ '=' ∉ key.toList ∧ key.toList.all (!isSeparator ·))
    ⟨fun h => ⟨h.1, h.2.1, by simpa using h.2.2⟩,
      fun h => ⟨h.ne_empty, h.no_equals, by simpa using h.no_gap⟩⟩

instance (e : String × String) : Decidable (Quotable e) :=
  decidable_of_iff (IsKey e.1 ∧ '"' ∉ e.2.toList) ⟨fun h => ⟨h.1, h.2⟩, fun h => ⟨h.key, h.value⟩⟩

variable {cs vs rest gap written : List Char} {key v : String} {es : List (String × String)}
  {e : String × String}

@[simp]
theorem chars_texts (p : List Char × List Char) : chars (texts p) = p := by
  simp [chars, texts]

@[simp]
theorem texts_chars (e : String × String) : texts (chars e) = e := by
  simp [chars, texts]

theorem IsKey.toList_ne_nil (h : IsKey key) : key.toList ≠ [] :=
  mt String.toList_eq_nil_iff.1 h.ne_empty

theorem forall_not_isKeyEnd_iff :
    (∀ c ∈ cs, !isKeyEnd c) ↔ '=' ∉ cs ∧ ∀ c ∈ cs, ¬isSeparator c := by
  constructor
  case mp =>
    intro h
    refine ⟨fun hm => ?_, fun c hc hs => ?_⟩
    · have hn := h '=' hm
      contradiction
    · simpa [isKeyEnd, hs] using h c hc
  case mpr =>
    rintro ⟨he, hs⟩ c hc
    have hn : c ≠ '=' := fun hce => he (hce ▸ hc)
    simp [isKeyEnd, hn, hs c hc]

theorem value_quoted : value ('"' :: cs) = .ok (vs, rest) ↔ cs = vs ++ '"' :: rest ∧ '"' ∉ vs := by
  have hv : (∀ c ∈ vs, c != '"') ↔ '"' ∉ vs := by
    simp [List.forall_mem_ne']
  constructor
  case mp =>
    intro h
    simp only [value] at h
    split at h
    case h_1 q _ hd =>
      cases h
      have ⟨he, hs, hq⟩ := takeWhile_dropWhile_iff.1 ⟨rfl, hd⟩
      have hq : q = '"' := by simpa using hq
      exact ⟨hq ▸ he, hv.1 hs⟩
    case h_2 => cases h
  case mpr =>
    intro ⟨he, hn⟩
    have ⟨ht, hd⟩ := takeWhile_dropWhile_iff.2 ⟨he, hv.2 hn, by simp⟩
    simp only [value, ht, hd]

theorem value_plain (h : cs.head? ≠ some '"') : value cs = .ok (vs, rest) ↔
    cs = vs ++ rest ∧ (∀ c ∈ vs, ¬isSeparator c) ∧ ∀ c ∈ rest.head?, isSeparator c := by
  have he : value cs = .ok (cs.takeWhile (!isSeparator ·), cs.dropWhile (!isSeparator ·)) := by
    unfold value
    split
    case h_1 => exact absurd rfl h
    case h_2 => rfl
  rw [he, Except.ok.injEq, Prod.mk.injEq, takeWhile_dropWhile_iff]
  simp

-- A quote is no separator.
theorem head?_append_eq_quote_iff (h : ∀ c ∈ rest.head?, isSeparator c) :
    (vs ++ rest).head? = some '"' ↔ vs.head? = some '"' := by
  cases vs with
  | nil =>
    refine ⟨fun hq => ?_, nofun⟩
    have hs := h '"' hq
    contradiction
  | cons => rfl

theorem value_eq_ok_iff : value cs = .ok (v.toList, rest) ↔
    ∃ written, cs = written ++ rest ∧ WritesValue v written rest := by
  constructor
  case mp =>
    intro h
    by_cases hq : cs.head? = some '"'
    case pos =>
      obtain ⟨cs, rfl⟩ := List.head?_eq_some_iff.1 hq
      obtain ⟨rfl, hv⟩ := value_quoted.1 h
      exact ⟨_, by simp, .quoted hv⟩
    case neg =>
      obtain ⟨rfl, hv, hr⟩ := (value_plain hq).1 h
      exact ⟨_, rfl, .plain hv (mt (head?_append_eq_quote_iff hr).2 hq) hr⟩
  case mpr =>
    rintro ⟨written, rfl, h⟩
    cases h
    case quoted hv => exact value_quoted.2 ⟨by simp, hv⟩
    case plain hv hq hr =>
      have hq : (v.toList ++ rest).head? ≠ some '"' := mt (head?_append_eq_quote_iff hr).1 hq
      exact (value_plain hq).2 ⟨rfl, hv, hr⟩

theorem pair_eq_ok : pair cs = .ok ((ks, vs), rest) ↔ ks ≠ [] ∧
    ∃ after, (cs.takeWhile (!isKeyEnd ·) = ks ∧ cs.dropWhile (!isKeyEnd ·) = '=' :: after) ∧
      value after = .ok (vs, rest) := by
  unfold pair
  constructor
  case mp =>
    intro h
    simp only at h
    split at h
    case h_1 k ks after hk hd =>
      obtain ⟨_, hv, he⟩ := Except.map_eq_ok.1 h
      cases he
      exact ⟨hk ▸ List.cons_ne_nil k ks, after, ⟨rfl, hd⟩, hv⟩
    case h_2 => cases h
  case mpr =>
    rintro ⟨hk, after, ⟨ht, hd⟩, hv⟩
    have ⟨k, ks', he⟩ := List.exists_cons_of_ne_nil hk
    simp only [ht, hd, he, hv]
    rfl

theorem pair_eq_ok_iff : pair cs = .ok ((key.toList, v.toList), rest) ↔
    ∃ written, cs = key.toList ++ '=' :: (written ++ rest) ∧ IsKey key ∧
      WritesValue v written rest := by
  simp only [pair_eq_ok, takeWhile_dropWhile_iff, forall_not_isKeyEnd_iff, value_eq_ok_iff]
  constructor
  case mp =>
    rintro ⟨hk, after, ⟨rfl, ⟨he, hs⟩, _⟩, written, rfl, hw⟩
    exact ⟨written, rfl, ⟨mt String.toList_eq_nil_iff.2 hk, he, hs⟩, hw⟩
  case mpr =>
    rintro ⟨written, rfl, hk, hw⟩
    have he : ∀ c ∈ ('=' :: (written ++ rest)).head?, ¬(!isKeyEnd c) := by simp [isKeyEnd]
    exact ⟨hk.toList_ne_nil, _, ⟨rfl, ⟨hk.no_equals, hk.no_gap⟩, he⟩, written, rfl, hw⟩

-- Every pair takes its equals sign at least.
theorem length_lt_of_pair (h : pair cs = .ok (p, rest)) : rest.length < cs.length := by
  rw [← chars_texts p] at h
  obtain ⟨written, rfl, _⟩ := pair_eq_ok_iff.1 h
  simp only [List.length_append, List.length_cons]
  omega

theorem written_nil_iff : Written [] cs ↔ cs.dropWhile isSeparator = [] := by
  rw [List.dropWhile_eq_nil_iff]
  constructor
  case mp =>
    intro h
    cases h
    assumption
  case mpr => exact .nil

-- What comes after a gap begins with a key.
theorem dropWhile_gap (hg : IsGap gap) (hk : IsKey key) (cs : List Char) :
    (gap ++ (key.toList ++ cs)).dropWhile isSeparator = key.toList ++ cs := by
  refine (takeWhile_dropWhile_iff.2 ⟨rfl, hg, fun c hc => ?_⟩).2
  have ⟨k, ks, he⟩ := List.exists_cons_of_ne_nil hk.toList_ne_nil
  have hm : c ∈ key.toList := by
    rw [he, List.cons_append, List.head?_cons, Option.mem_some] at hc
    rw [he, hc]
    exact List.mem_cons_self
  exact hk.no_gap c hm

theorem written_cons_iff : Written ((key, v) :: es) cs ↔
    ∃ rest, pair (cs.dropWhile isSeparator) = .ok ((key.toList, v.toList), rest) ∧
      Written es rest := by
  simp only [pair_eq_ok_iff]
  constructor
  case mp =>
    intro h
    cases h
    case cons gap written rest hg hk hw h =>
      exact ⟨rest, ⟨written, dropWhile_gap hg hk _, hk, hw⟩, h⟩
  case mpr =>
    rintro ⟨rest, ⟨written, hd, hk, hw⟩, h⟩
    have ⟨he, hg, _⟩ := takeWhile_dropWhile_iff.1 ⟨rfl, hd⟩
    exact he ▸ .cons hg hk hw h

theorem pairs_eq_ok_nil_iff :
    pairs (fuel + 1) cs = .ok [] ↔ cs.dropWhile isSeparator = [] := by
  rw [pairs]
  split
  case h_1 hd => simp [hd]
  case h_2 hd =>
    refine ⟨fun h => ?_, fun h => absurd h hd⟩
    obtain ⟨⟨p, rest⟩, _, h⟩ := Except.bind_eq_ok.1 h
    obtain ⟨_, _, h⟩ := Except.bind_eq_ok.1 h
    cases h

theorem pairs_eq_ok_cons_iff : pairs (fuel + 1) cs = .ok (p :: ps) ↔
    ∃ rest, pair (cs.dropWhile isSeparator) = .ok (p, rest) ∧ pairs fuel rest = .ok ps := by
  rw [pairs]
  split
  case h_1 hd =>
    rw [hd]
    constructor
    case mp => exact nofun
    case mpr =>
      intro ⟨_, h, _⟩
      cases h
  case h_2 =>
    constructor
    case mp =>
      intro h
      obtain ⟨⟨p, rest⟩, hp, h⟩ := Except.bind_eq_ok.1 h
      obtain ⟨ps, hps, h⟩ := Except.bind_eq_ok.1 h
      cases h
      exact ⟨rest, hp, hps⟩
    case mpr =>
      intro ⟨rest, hp, hps⟩
      rw [hp, Except.bind_eq_ok]
      exact ⟨_, rfl, Except.bind_eq_ok.2 ⟨ps, hps, rfl⟩⟩

-- Fuel enough for every character is fuel enough.
theorem pairs_eq_ok_iff (h : cs.length < fuel) :
    pairs fuel cs = .ok (es.map chars) ↔ Written es cs := by
  induction es generalizing fuel cs with
  | nil =>
    have ⟨fuel', he⟩ := Nat.exists_eq_add_of_lt h
    rw [he, List.map_nil, written_nil_iff, pairs_eq_ok_nil_iff]
  | cons e es hi =>
    obtain ⟨key, v⟩ := e
    have ⟨fuel', he⟩ := Nat.exists_eq_add_of_lt h
    rw [he, List.map_cons, written_cons_iff, pairs_eq_ok_cons_iff]
    refine exists_congr fun rest => and_congr_right fun hp => hi ?_
    have hl := length_lt_of_pair hp
    have hd := cs.length_dropWhile_le isSeparator
    omega

theorem pairs_of_lt (h : cs.length < fuel) (h' : cs.length < fuel') :
    pairs fuel cs = pairs fuel' cs := by
  induction fuel generalizing cs fuel' with
  | zero => omega
  | succ fuel hi =>
    have ⟨fuel', he⟩ := Nat.exists_eq_add_of_lt h'
    rw [he, pairs, pairs]
    split
    case h_1 => rfl
    case h_2 =>
      cases hp : pair (cs.dropWhile isSeparator) with
      | error => rfl
      | ok x =>
        obtain ⟨p, rest⟩ := x
        have hl := length_lt_of_pair hp
        have hd := cs.length_dropWhile_le isSeparator
        have ht : pairs fuel rest = pairs (cs.length + fuel') rest := hi (by omega) (by omega)
        simp only [bind, Except.bind, ht]

variable {text : String} {list : Proplist}

theorem parse_of_written (h : Written es text.toList) : parse text = .ok (KeyMap.ofList es) := by
  have hp := (pairs_eq_ok_iff (Nat.lt_succ_self _)).2 h
  have he : (es.map chars).map texts = es := by simp [Function.comp_def]
  rw [String.length_toList] at hp
  simp only [parse, hp]
  exact congrArg (fun es => Except.ok (KeyMap.ofList es)) he

theorem parse_eq_ok_iff : parse text = .ok list ↔
    ∃ es, Written es text.toList ∧ list = KeyMap.ofList es := by
  constructor
  case mp =>
    intro h
    unfold parse at h
    split at h
    case h_1 ps hp =>
      have he : (ps.map texts).map chars = ps := by simp [Function.comp_def]
      rw [← he, ← String.length_toList] at hp
      exact ⟨ps.map texts, (pairs_eq_ok_iff (Nat.lt_succ_self _)).1 hp, (Except.ok.inj h).symm⟩
    case h_2 => cases h
  case mpr =>
    rintro ⟨es, h, rfl⟩
    exact parse_of_written h

-- A pair may follow a quote at once, a value may be empty or hold a quote behind its beginning, and
-- the last one counts.
example : parse "a=\"x\"b= ,c=d\"e a=z" =
    .ok (KeyMap.ofList [("a", "z"), ("b", ""), ("c", "d\"e")]) := by decide

theorem IsGap.nil : IsGap [] := nofun

theorem IsGap.append (h : IsGap cs) (h' : IsGap gap) : IsGap (cs ++ gap) :=
  fun c hc => (List.mem_append.1 hc).elim (h c) (h' c)

theorem Written.gap_append (hg : IsGap gap) (h : Written es cs) : Written es (gap ++ cs) := by
  cases h
  case nil hg' => exact .nil (hg.append hg')
  case cons hg' hk hw h =>
    rw [← List.append_assoc]
    exact .cons (hg.append hg') hk hw h

theorem Written.quotedPair_append (hq : Quotable e) (h : Written es cs) :
    Written (e :: es) ((quotedPair e).toList ++ cs) := by
  have hw : WritesValue e.2 ('"' :: e.2.toList ++ ['"']) cs := .quoted hq.value
  have hc := Written.cons .nil hq.key hw h
  simpa [quotedPair] using hc

theorem Joined.toWritten (h : Joined es text) (hq : ∀ e ∈ es, Quotable e) :
    Written es text.toList := by
  induction h with
  | nil => exact .nil .nil
  | @single e =>
    have he : Quotable e := hq e List.mem_cons_self
    have hw := Written.quotedPair_append he (.nil .nil)
    rwa [List.append_nil] at hw
  | @cons gap e' es text e hg _ hi =>
    have ⟨he, hes⟩ := List.forall_mem_cons.1 hq
    have hw := ((hi hes).gap_append hg).quotedPair_append he
    simpa using hw

theorem parse_of_joined (hj : Joined es text) (hp : es.Perm list.entries)
    (hq : ∀ e ∈ list.entries, Quotable e) : parse text = .ok list := by
  have hw := hj.toWritten fun e he => hq e (hp.mem_iff.1 he)
  rw [parse_of_written hw, KeyMap.ofList_of_perm_entries hp]

-- Property lists as texts:
-- 1. what can be read are the texts of the grammar, and then the last value of a key counts
-- 2. reading comes to an end by itself: with more fuel than characters, it makes no difference how
--    much there is
-- 3. a property list whose keys and values can be quoted is read back from its pairs, in whatever
--    order they are written and with whatever gaps between them
theorem parse_of_grammar :
    (∀ text list, parse text = .ok list ↔
      ∃ es, Written es text.toList ∧ ∀ key, list.get? key = es.reverse.lookup key) ∧
    (∀ (text : String) fuel, text.length < fuel →
      pairs fuel text.toList = pairs (text.length + 1) text.toList) ∧
    ∀ (list : Proplist) es text, (∀ e ∈ list.entries, Quotable e) → es.Perm list.entries →
      Joined es text → parse text = .ok list := by
  refine ⟨fun text list => parse_eq_ok_iff.trans ?_, fun text fuel h => ?_,
    fun list es text hq hp hj => parse_of_joined hj hp hq⟩
  · refine exists_congr fun es => and_congr_right fun _ => ?_
    constructor
    case mp =>
      rintro rfl key
      exact KeyMap.get?_ofList es key
    case mpr =>
      intro hl
      refine KeyMap.ext_get? fun key => ?_
      rw [hl, KeyMap.get?_ofList]
  · rw [← String.length_toList] at h ⊢
    exact pairs_of_lt h (Nat.lt_succ_self _)

theorem parse_of_reordered_pairs : parse "media.role=\"\",\tmedia.name=\"a, b = c\"" =
    .ok (KeyMap.ofList [("media.name", "a, b = c"), ("media.role", "")]) := by
  have hj : Joined [("media.role", ""), ("media.name", "a, b = c")]
      (quotedPair ("media.role", "") ++ ",\t" ++ quotedPair ("media.name", "a, b = c")) :=
    .cons (by decide) .single
  exact parse_of_grammar.2.2 _ _ _ (by decide) (.swap ..) hj

end Proplist

end AudioRules
