import Firewall.Text.Shown
import Mathlib.Data.List.Basic

/-!
# Bytes told apart by their texts

The text of a string of bytes determines it (`shownBytes_inj`): the second character is the quote,
and under either quote the texts of single bytes are a code in which no word begins another.
-/

namespace Firewall.Text

/-! ## Codes -/

/-- No word of the code is empty, and none begins that of another letter. -/
def IsCode {α β : Type} (code : α → List β) : Prop :=
  (∀ a, code a ≠ []) ∧ ∀ a b, code a <+: code b → a = b

/-- Texts in a code tell their letters. -/
theorem IsCode.flatMap_inj {α β : Type} {code : α → List β} (h : IsCode code) :
    ∀ {as bs : List α}, as.flatMap code = bs.flatMap code → as = bs := by
  intro as
  induction as with
  | nil =>
    intro bs heq
    cases bs with
    | nil => rfl
    | cons b bs =>
      rw [List.flatMap_nil, List.flatMap_cons] at heq
      exact absurd (List.append_eq_nil_iff.1 heq.symm).1 (h.1 b)
  | cons a as ih =>
    intro bs heq
    cases bs with
    | nil =>
      rw [List.flatMap_nil, List.flatMap_cons] at heq
      exact absurd (List.append_eq_nil_iff.1 heq).1 (h.1 a)
    | cons b bs =>
      rw [List.flatMap_cons, List.flatMap_cons] at heq
      -- of two words in front of the same text, the shorter begins the longer
      have hab : a = b := by
        rcases List.prefix_or_prefix_of_prefix (List.prefix_append (code a) _)
          (heq ▸ List.prefix_append (code b) _) with hpre | hpre
        · exact h.2 a b hpre
        · exact (h.2 b a hpre).symm
      subst hab
      rw [ih (List.append_cancel_left heq)]

/-! ## Bytes -/

/-- The length of the word of a byte, by its first two characters: a backslash begins four
characters with an `x` behind it, and else two. -/
def wordLength : List Char → Nat
  | '\\' :: 'x' :: _ => 4
  | '\\' :: _ => 2
  | _ => 1

/-- The number of the byte of a word. -/
def readByte : List Char → Nat
  | ['\\', 'x', high, low] => (digitValue? high).getD 0 * 16 + (digitValue? low).getD 0
  | ['\\', 't'] => 9
  | ['\\', 'n'] => 10
  | ['\\', 'r'] => 13
  | ['\\', c] => c.toNat
  | [c] => c.toNat
  | _ => 0

theorem shownByte_spec {quote : Char} (hq : quote = '\'' ∨ quote = '"') (b : UInt8) :
    (shownByte quote b).length = wordLength (shownByte quote b) ∧
      readByte (shownByte quote b) = b.toNat := by
  have hall : (['\'', '"'].all fun q => (List.range 256).all fun n =>
      (shownByte q (UInt8.ofNat n)).length == wordLength (shownByte q (UInt8.ofNat n)) &&
        readByte (shownByte q (UInt8.ofNat n)) == n) = true := by
    decide +kernel
  have hquote := List.all_eq_true.1 hall quote (by simpa using hq)
  have hbyte := List.all_eq_true.1 hquote b.toNat (List.mem_range.2 b.toNat_lt)
  rwa [UInt8.ofNat_toNat, Bool.and_eq_true, beq_iff_eq, beq_iff_eq] at hbyte

theorem wordLength_pos (cs : List Char) : 0 < wordLength cs := by
  unfold wordLength
  split <;> decide

theorem wordLength_eq_of_prefix {cs ds : List Char} (h : cs <+: ds)
    (hcs : cs.length = wordLength cs) : wordLength ds = wordLength cs := by
  obtain ⟨rest, rfl⟩ := h
  rcases cs with _ | ⟨c, _ | ⟨d, cs⟩⟩
  · exact absurd hcs (by decide)
  · -- a word of one character is no backslash
    by_cases hc : c = '\\'
    · subst hc
      exact absurd hcs (by decide)
    · simp [wordLength, hc]
  · by_cases hc : c = '\\'
    · by_cases hd : d = 'x'
      · subst hc hd
        rfl
      · simp [wordLength, hc, hd]
    · simp [wordLength, hc]

/-- The words of bytes under a quote are a code. -/
theorem isCode_shownByte {quote : Char} (hq : quote = '\'' ∨ quote = '"') :
    IsCode (shownByte quote) := by
  refine ⟨fun b hb => ?_, fun a b h => ?_⟩
  · have hlength := (shownByte_spec hq b).1
    have hpos := wordLength_pos (shownByte quote b)
    rw [← hlength, hb] at hpos
    exact absurd hpos (by decide)
  · obtain ⟨halength, haread⟩ := shownByte_spec hq a
    obtain ⟨hblength, hbread⟩ := shownByte_spec hq b
    have hsame : (shownByte quote a).length = (shownByte quote b).length := by
      rw [halength, hblength, wordLength_eq_of_prefix h halength]
    rw [h.eq_of_length hsame] at haread
    exact UInt8.toNat_inj.1 (haread.symm.trans hbread)

theorem quoteFor_cases (cs : List Char) : quoteFor cs = '\'' ∨ quoteFor cs = '"' := by
  unfold quoteFor
  split
  · exact .inr rfl
  · exact .inl rfl

theorem shownBytes_inj {as bs : List UInt8} (h : shownBytes as = shownBytes bs) : as = bs := by
  have hchars := congrArg String.toList h
  simp only [shownBytes, String.toList_ofList, List.cons.injEq, true_and] at hchars
  obtain ⟨hquote, hwords⟩ := hchars
  rw [hquote] at hwords
  exact (isCode_shownByte (quoteFor_cases _)).flatMap_inj (List.append_cancel_right hwords)

end Firewall.Text
