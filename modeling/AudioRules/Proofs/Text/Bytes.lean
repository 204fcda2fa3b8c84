import Mathlib.Tactic.SplitIfs
import AudioRules.Text.Bytes

namespace ByteArray

theorem toList_loop_eq (bs : ByteArray) (i : Nat) (read : List UInt8) :
    toList.loop bs i read = read.reverse ++ bs.data.toList.drop i := by
  fun_induction toList.loop bs i read
  case case1 i read h hi =>
    have hl : i < bs.data.toList.length := by simpa using h
    rw [hi, List.drop_eq_getElem_cons hl]
    simp [get!, h]
  case case2 i read h =>
    rw [List.drop_eq_nil_of_le (by simpa using Nat.le_of_not_lt h), List.append_nil]

theorem toList_toByteArray (bs : List UInt8) : bs.toByteArray.toList = bs := by
  rw [toList, toList_loop_eq, List.toList_data_toByteArray]
  rfl

end ByteArray

namespace AudioRules

namespace Bytes

-- The number of a character without the six bits of each of its last `k` bytes.
def leading (n : Nat) : Nat → Nat
  | 0     => n
  | k + 1 => leading n k / 64

-- A byte other than the first one, with `k` more behind it.
def laterByte (n k : Nat) : Nat := leading n k % 64 + 0x80

theorem le_laterByte : 0x80 ≤ laterByte n k := Nat.le_add_left _ _

theorem laterByte_le : laterByte n k ≤ 0xBF := by
  unfold laterByte
  omega

theorem toNat_laterByte : (UInt8.ofNat (laterByte n k)).toNat = laterByte n k :=
  UInt8.toNat_ofNat_of_lt' (Nat.lt_of_le_of_lt laterByte_le (by decide))

def laterBytes (n : Nat) : Nat → Bytes
  | 0     => []
  | k + 1 => UInt8.ofNat (laterByte n k) :: laterBytes n k

namespace Open

-- The bytes so far are the first ones of a character, whose next byte is within the limits.
structure Begins (o : Open) (n : Nat) : Prop where
  value_eq : o.value = leading n (o.others + 1)
  low_le   : o.low ≤ laterByte n o.others
  le_high  : laterByte n o.others ≤ o.high

namespace Begins

theorem of_leading {t : Nat} (k : Nat) :
    Begins { value := leading n (k + 1), taken := t, others := k } n where
  value_eq := rfl
  low_le   := le_laterByte
  le_high  := laterByte_le

theorem value_next (h : Begins o n) :
    o.value * 64 + (laterByte n o.others - 0x80) = leading n o.others := by
  rw [h.value_eq, laterByte, Nat.add_sub_cancel, leading, Nat.div_add_mod']

theorem step_last (h : Begins o n) (ho : o.others = 0) :
    step (some o) (laterByte n 0) = ([.char (Char.ofNat n)], none) := by
  have hl := ho ▸ h.low_le
  have hh := ho ▸ h.le_high
  have hv := ho ▸ h.value_next
  simp only [step, next?, ho, hl, hh, and_self, if_true, hv]
  rfl

theorem step_more (h : Begins o n) (ho : o.others = k + 1) :
    step (some o) (laterByte n (k + 1)) =
      ([], some { value := leading n (k + 1), taken := o.taken + 1, others := k }) := by
  have hl := ho ▸ h.low_le
  have hh := ho ▸ h.le_high
  have hv := ho ▸ h.value_next
  simp only [step, next?, ho, hl, hh, and_self, if_true, hv]
  rfl

-- The bytes that are still to come complete the character.
theorem piecesFrom_append (h : Begins o n) (bs : Bytes) :
    piecesFrom (some o) (laterBytes n (o.others + 1) ++ bs) =
      .char (Char.ofNat n) :: pieces bs := by
  generalize hk : o.others = k
  induction k generalizing o
  case zero =>
    rw [laterBytes, List.cons_append, piecesFrom, toNat_laterByte, h.step_last hk]
    rfl
  case succ k hi =>
    rw [laterBytes, List.cons_append, piecesFrom, toNat_laterByte, h.step_more hk]
    exact hi (of_leading k) rfl

end Begins

end Open

-- The first byte of a character with `k + 1` more.
structure Leads (b n k : Nat) : Prop where
  lt     : b < 256
  begins : ∃ o, first b = .inr o ∧ o.others = k ∧ o.Begins n

namespace Leads

theorem pieces_append (h : Leads b n k) (bs : Bytes) :
    pieces (UInt8.ofNat b :: laterBytes n (k + 1) ++ bs) = .char (Char.ofNat n) :: pieces bs := by
  obtain ⟨o, hf, rfl, ho⟩ := h.begins
  rw [pieces, List.cons_append, piecesFrom, UInt8.toNat_ofNat_of_lt' h.lt, step, hf]
  exact ho.piecesFrom_append bs

theorem of_two (h : 0x80 ≤ n) (h' : n < 0x800) : Leads (n / 64 % 32 + 0xC0) n 0 := by
  have hb : 0xC2 ≤ n / 64 % 32 + 0xC0 ∧ n / 64 % 32 + 0xC0 ≤ 0xDF := by omega
  refine ⟨by omega, _, by rw [first, if_neg (by omega), if_pos hb], rfl, ?_⟩
  constructor <;> simp only [laterByte, leading] <;> omega

-- `first` has cases for the bytes after which not every byte can come. What the limits keep out
-- after them is written with fewer bytes, is a surrogate or is no character.
theorem of_three (h : 0x800 ≤ n) (h' : n < 0xD800 ∨ 0xDFFF < n ∧ n < 0x10000) :
    Leads (n / 4096 % 16 + 0xE0) n 1 := by
  refine ⟨by omega, ?_⟩
  unfold first
  split_ifs
  all_goals first | omega | refine ⟨_, rfl, rfl, ?_⟩
  all_goals constructor <;> simp only [laterByte, leading] <;> omega

theorem of_four (h : 0x10000 ≤ n) (h' : n < 0x110000) : Leads (n / 262144 % 8 + 0xF0) n 2 := by
  refine ⟨by omega, ?_⟩
  unfold first
  split_ifs
  all_goals first | omega | refine ⟨_, rfl, rfl, ?_⟩
  all_goals constructor <;> simp only [laterByte, leading] <;> omega

end Leads

theorem pieces_cons_of_lt (h : n < 0x80) (bs : Bytes) :
    pieces (UInt8.ofNat n :: bs) = .char (Char.ofNat n) :: pieces bs := by
  have hb : (UInt8.ofNat n).toNat = n := UInt8.toNat_ofNat_of_lt' (Nat.lt_trans h (by decide))
  rw [pieces, piecesFrom, hb, step, first, if_pos h]
  rfl

theorem pieces_utf8EncodeChar_append (c : Char) (bs : Bytes) :
    pieces (String.utf8EncodeChar c ++ bs) = .char c :: pieces bs := by
  have hv : c.val.toNat < 0xD800 ∨ 0xDFFF < c.val.toNat ∧ c.val.toNat < 0x110000 := c.valid
  have hc : Char.ofNat c.val.toNat = c := Char.ofNat_toNat c
  fun_cases String.utf8EncodeChar c
  case case1 v h₁ =>
    rw [List.singleton_append, pieces_cons_of_lt (by omega), hc]
  case case2 v h₁ h₂ =>
    have h : Leads (v / 64 % 32 + 0xC0) v 0 := .of_two (by omega) (by omega)
    simpa [laterBytes, laterByte, leading, Nat.div_div_eq_div_mul, v, hc] using h.pieces_append bs
  case case3 v h₁ h₂ h₃ =>
    have h : Leads (v / 4096 % 16 + 0xE0) v 1 := .of_three (by omega) (by omega)
    simpa [laterBytes, laterByte, leading, Nat.div_div_eq_div_mul, v, hc] using h.pieces_append bs
  case case4 v h₁ h₂ h₃ =>
    have h : Leads (v / 262144 % 8 + 0xF0) v 2 := .of_four (by omega) (by omega)
    simpa [laterBytes, laterByte, leading, Nat.div_div_eq_div_mul, v, hc] using h.pieces_append bs

theorem pieces_flatMap (cs : List Char) :
    pieces (cs.flatMap String.utf8EncodeChar) = cs.map .char := by
  induction cs
  case nil          => rfl
  case cons c cs hi => rw [List.flatMap_cons, pieces_utf8EncodeChar_append, hi, List.map_cons]

theorem ofString_eq (s : String) : ofString s = s.toList.flatMap String.utf8EncodeChar := by
  conv => lhs; rw [← String.ofList_toList (s := s)]
  rw [ofString, String.toUTF8_eq_toByteArray]
  exact ByteArray.toList_toByteArray _

@[simp]
theorem lossyText_ofString (s : String) : lossyText (ofString s) = s := by
  rw [lossyText, ofString_eq, pieces_flatMap, List.map_map]
  simp [Function.comp_def, Piece.char?]

end Bytes

end AudioRules
