import Firewall.Proofs.Ruleset.Reading

/-!
# Quoting is undone by reading

`readWordsBy_words`: texts that are written as words, with a space between them, read back as they
were, whatever characters are in them and whatever a reader makes of a quote inside a word. So no
two texts are written as the same word.

1. A word reads back before a space and at the end of a line (`readsBackBy_word`), so that the line
   reads back word by word (`readBy_words`).
2. The characters between quotes are escaped in one pass. Doubling the backslashes and then putting
   one in front of each quote is the same (`flatMap_escapeChar`).
-/

namespace Firewall.Ruleset

/-! ## Escaping in two passes -/

/-- A text with a backslash in front of every `c`. -/
def guardEach (c : Char) (cs : List Char) : List Char :=
  cs.flatMap fun d => if d = c then ['\\', d] else [d]

/-- Escaping is guarding the backslashes and then the quotes; the backslashes in front of the quotes
come last and are not doubled. -/
theorem flatMap_escapeChar (cs : List Char) :
    cs.flatMap escapeChar = guardEach '"' (guardEach '\\' cs) := by
  rw [guardEach, guardEach, List.flatMap_assoc]
  refine List.flatMap_congr fun c _ => ?_
  by_cases hslash : c = '\\'
  · subst hslash
    rfl
  · by_cases hquote : c = '"'
    · subst hquote
      rfl
    · simp [escapeChar, hslash, hquote]

/-! ## Lines of words -/

variable {inside : Bool}

theorem readBy_words (ts : List String) :
    readBy inside .bare [] (" ".intercalate (ts.map word)).toList = ts.map String.toList := by
  induction ts with
  | nil => rfl
  | cons t ts ih =>
    have hword := @readsBackBy_word inside t.toList
    cases ts with
    | nil => simpa using hword.1
    | cons u ts =>
      have hne : (u :: ts).map word ≠ [] := List.cons_ne_nil _ _
      rw [List.map_cons, String.intercalate_cons_of_ne_nil hne, String.toList_append,
        String.toList_append, toList_word, List.append_assoc]
      exact (hword.2 _).trans (congrArg (t.toList :: ·) ih)

/-- **Quoting.** Words with a space between them read back to their texts, and no two texts are the
same word. -/
theorem readWordsBy_words :
    (∀ (inside : Bool) (ts : List String),
      readWordsBy inside (" ".intercalate (ts.map word)) = ts) ∧
    Function.Injective word := by
  have hread : ∀ (inside : Bool) (ts : List String),
      readWordsBy inside (" ".intercalate (ts.map word)) = ts := by
    intro inside ts
    rw [readWordsBy, readBy_words, List.map_map]
    simp [Function.comp_def]
  refine ⟨hread, fun s t h => ?_⟩
  have hs := hread false [s]
  rw [List.map_singleton, h, ← List.map_singleton, hread] at hs
  exact (List.singleton_inj.1 hs).symm

/-- A text that could be quoted, one that ends in a backslash, and the empty text. -/
example : " ".intercalate (["a \"b\"", "c\\", ""].map word) = "\"a \\\"b\\\"\" c\\ \"\"" := by
  decide +kernel

end Firewall.Ruleset
