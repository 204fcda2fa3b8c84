import AudioRules.Text.Blank
import AudioRules.Text.Natural

namespace AudioRules

namespace Text

def Blank (s : String) : Prop := ∀ c ∈ s.toList, isBlank c

structure IsWord (s : String) : Prop where
  ne_empty  : s ≠ ""
  not_blank : ∀ c ∈ s.toList, ¬isBlank c

-- By the characters of the text alone; a search for an instance may try every character there is.
instance : Decidable (Blank s) := decidable_of_iff (s.toList.all isBlank) List.all_eq_true

instance : Decidable (IsWord s) :=
  decidable_of_iff (s ≠ "" ∧ s.toList.all (!isBlank ·))
    ⟨fun h => ⟨h.1, by simpa using h.2⟩, fun h => ⟨h.ne_empty, by simpa using h.not_blank⟩⟩

theorem IsWord.toList_ne_nil (h : IsWord s) : s.toList ≠ [] :=
  fun hn => h.ne_empty (String.toList_eq_nil_iff.mp hn)

-- What is no blank goes to the current word.
theorem wordsFrom_append (h : ∀ c ∈ w, ¬isBlank c) :
    wordsFrom run (w ++ cs) = wordsFrom (w.reverse ++ run) cs := by
  induction w generalizing run
  case nil => rfl
  case cons c w hi =>
    have ⟨hc, hw⟩ := List.forall_mem_cons.mp h
    rw [List.cons_append, wordsFrom, if_neg hc, hi hw, List.reverse_cons, List.append_assoc]
    rfl

theorem wordsFrom_word (h : IsWord w) (cs : List Char) :
    wordsFrom [] (w.toList ++ cs) = wordsFrom w.toList.reverse cs := by
  rw [wordsFrom_append h.not_blank, List.append_nil]

theorem words_append (h : IsWord w) (s : String) : words (w ++ " " ++ s) = w :: words s := by
  have hr : w.toList.reverse.isEmpty = false := by simp [h.ne_empty]
  have ht : (w ++ " " ++ s).toList = w.toList ++ ' ' :: s.toList := by simp
  rw [words, ht, wordsFrom_word h, wordsFrom, if_pos (by decide), hr]
  simp [words]

theorem words_eq_singleton (h : IsWord w) : words w = [w] := by
  have hr : w.toList.reverse.isEmpty = false := by simp [h.ne_empty]
  rw [words, ← List.append_nil w.toList, wordsFrom_word h, wordsFrom, hr]
  simp

theorem mem_of_mem_wordsFrom (hw : w ∈ wordsFrom run cs) (hc : c ∈ w) : c ∈ run ∨ c ∈ cs := by
  fun_induction wordsFrom run cs
  case case1 => cases hw
  case case2 run hr =>
    rw [List.mem_singleton.mp hw] at hc
    exact .inl (List.mem_reverse.mp hc)
  case case3 run d cs hd hr hi =>
    exact .inr (List.mem_cons_of_mem d ((hi hw).resolve_left List.not_mem_nil))
  case case4 run d cs hd hr hi =>
    cases hw
    case head    => exact .inl (List.mem_reverse.mp hc)
    case tail hw => exact .inr (List.mem_cons_of_mem d ((hi hw).resolve_left List.not_mem_nil))
  case case5 hi => simpa [or_assoc, or_left_comm] using hi hw

theorem mem_of_mem_words (hw : w ∈ words s) (hc : c ∈ w.toList) : c ∈ s.toList := by
  have ⟨_, hw, he⟩ := List.mem_map.mp hw
  rw [← he, String.toList_ofList] at hc
  exact (mem_of_mem_wordsFrom hw hc).resolve_left List.not_mem_nil

theorem dropBlanks_append (h : ∀ c ∈ w, ¬isBlank c) (hn : w ≠ []) (cs : List Char) :
    dropBlanks (w ++ cs) = w ++ cs := by
  cases w
  case nil      => exact absurd rfl hn
  case cons c w => exact List.dropWhile_cons_of_neg (h c List.mem_cons_self)

-- Trimming leaves a word of the blanks around it.
theorem trim_append (hb : Blank before) (h : IsWord w) (ha : Blank after) :
    trim (before ++ w ++ after) = w := by
  have hd : dropBlanks (before ++ w ++ after).toList = w.toList ++ after.toList := by
    rw [String.toList_append, String.toList_append, List.append_assoc, dropBlanks,
      List.dropWhile_append_of_pos hb]
    exact dropBlanks_append h.not_blank h.toList_ne_nil _
  have hr : dropBlanks (w.toList ++ after.toList).reverse = w.toList.reverse := by
    rw [List.reverse_append, dropBlanks,
      List.dropWhile_append_of_pos fun c hc => ha c (List.mem_reverse.mp hc)]
    rw [← List.append_nil w.toList.reverse]
    exact dropBlanks_append (fun c hc => h.not_blank c (List.mem_reverse.mp hc))
      (fun hn => h.toList_ne_nil (List.reverse_eq_nil_iff.mp hn)) _
  rw [trim, trimChars, hd, hr, List.reverse_reverse, String.ofList_toList]

theorem not_isBlank_of_isDigit (h : c.isDigit) : ¬isBlank c := by
  have : 48 ≤ c.toNat ∧ c.toNat ≤ 57 := by
    simpa [Char.isDigit, UInt32.le_iff_toNat_le] using h
  simp only [isBlank]
  simp
  omega

theorem isDigit_of_mem_repr (h : c ∈ (Nat.repr n).toList) : c.isDigit :=
  Nat.isDigit_of_mem_toDigits (by decide) (by decide) (Nat.toList_repr ▸ h)

theorem isWord_repr (n : Nat) : IsWord (Nat.repr n) where
  ne_empty h  := Nat.toDigits_ne_nil (Nat.toList_repr.symm.trans (String.toList_eq_nil_iff.mpr h))
  not_blank _ h := not_isBlank_of_isDigit (isDigit_of_mem_repr h)

theorem digits?_toDigits (n : Nat) : digits? (Nat.toDigits 10 n) = some n := by
  have hd : (Nat.toDigits 10 n).all Char.isDigit :=
    List.all_eq_true.mpr fun _ => Nat.isDigit_of_mem_toDigits (by decide) (by decide)
  rw [digits?, if_neg (by simp [hd, Nat.toDigits_ne_nil])]
  exact congrArg some Nat.ofDigitChars_ten_toDigits

theorem natural?_repr (n : Nat) : natural? (Nat.repr n) = some n := by
  unfold natural?
  split
  case h_1 cs h =>
    have : '+'.isDigit := isDigit_of_mem_repr (n := n) (h ▸ List.mem_cons_self)
    contradiction
  case h_2 => rw [Nat.toList_repr, digits?_toDigits]

end Text

end AudioRules
