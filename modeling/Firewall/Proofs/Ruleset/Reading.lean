import Firewall.Ruleset.Word
import Mathlib.Data.List.Basic

/-!
# Reading lines

How a restore program reads a line: words stand between blanks, a quote opens a part of a word in
which blanks stand for themselves and a backslash makes the next character literal, and the next
quote ends the word.

A word that was quoted reads back, also for a reader that takes a quote inside a word as it is
(`readsBackBy_word`). For the other reader a word that was written as it is reads back exactly when
it is plain, that is, not empty and without blanks and quotes (`readBy_self_iff`). If it is not
plain but begins with a plain character, then no line that begins with it reads back
(`head?_readBy_ne`), whatever quotes are opened and closed further on. So a line reads back exactly
when each of its words does (`readWords_lineOf_iff`).
-/

namespace Firewall.Ruleset

def isSeparator (c : Char) : Bool := c == ' ' || c == '\t' || c == '\n'

/-- Whether `c` stands for itself outside quotes. -/
def isPlain (c : Char) : Bool := !isSeparator c && c != '"'

/-- Where a reader is: outside quotes, between quotes, or after a backslash between quotes. -/
inductive Mode where
  | bare
  | quoted
  | escaped
  deriving DecidableEq, Repr

/-- The word that ends at a blank or at the end of a line, if there is one. -/
def finished (word : List Char) : List (List Char) := if word.isEmpty then [] else [word]

/-- The words of the rest of a line, the first of which has begun with `word`. Readers differ on a
quote inside a word: where `inside` does not hold, it is like any other character, and only a quote
at the beginning of a word opens quotes. -/
def readBy (inside : Bool) : Mode → (word : List Char) → List Char → List (List Char)
  | _, word, [] => finished word
  | .escaped, word, c :: cs => readBy inside .quoted (word ++ [c]) cs
  | .quoted, word, c :: cs =>
    if c = '\\' then readBy inside .escaped word cs
    else if c = '"' then word :: readBy inside .bare [] cs
    else readBy inside .quoted (word ++ [c]) cs
  | .bare, word, c :: cs =>
    if c = '"' ∧ (word = [] ∨ inside = true) then readBy inside .quoted word cs
    else if isSeparator c then finished word ++ readBy inside .bare [] cs
    else readBy inside .bare (word ++ [c]) cs

def readWordsBy (inside : Bool) (line : String) : List String :=
  (readBy inside .bare [] line.toList).map String.ofList

/-- The words of a line for a reader that every quote opens quotes for. -/
def readWords (line : String) : List String := readWordsBy true line

/-! ## One word -/

theorem finished_of_ne_nil {word : List Char} (h : word ≠ []) : finished word = [word] := by
  simp [finished, h]

theorem flatten_finished (word : List Char) : (finished word).flatten = word := by
  cases word <;> simp [finished]

theorem isBlank_of_isSeparator {c : Char} (h : isSeparator c = true) : Text.isBlank c = true := by
  simp only [isSeparator, Bool.or_eq_true, beq_iff_eq] at h
  rcases h with (rfl | rfl) | rfl <;> decide

section Readers

variable {inside : Bool}

theorem readBy_nil (m : Mode) (word : List Char) : readBy inside m word [] = finished word := by
  cases m <;> rfl

theorem readBy_true_bare (word : List Char) (c : Char) (cs : List Char) :
    readBy true .bare word (c :: cs) =
      if c = '"' then readBy true .quoted word cs
      else if isSeparator c then finished word ++ readBy true .bare [] cs
      else readBy true .bare (word ++ [c]) cs := by
  simp only [readBy, or_true, and_true]

theorem readBy_bare_plain {c : Char} (hc : isPlain c = true) (word cs : List Char) :
    readBy inside .bare word (c :: cs) = readBy inside .bare (word ++ [c]) cs := by
  simp only [isPlain, Bool.and_eq_true, Bool.not_eq_true', bne_iff_ne] at hc
  rw [readBy, if_neg (fun h => hc.2 h.1), if_neg (by rw [hc.1]; exact Bool.false_ne_true)]

theorem readBy_bare_append {p : List Char} (hp : ∀ c ∈ p, isPlain c = true) (word cs : List Char) :
    readBy inside .bare word (p ++ cs) = readBy inside .bare (word ++ p) cs := by
  induction p generalizing word with
  | nil => simp
  | cons c p ih =>
    rw [List.forall_mem_cons] at hp
    rw [List.cons_append, readBy_bare_plain hp.1, ih hp.2, List.append_assoc,
      List.singleton_append]

theorem readBy_bare_space (word cs : List Char) :
    readBy inside .bare word (' ' :: cs) = finished word ++ readBy inside .bare [] cs := by
  rw [readBy, if_neg (fun h => absurd h.1 (by decide)), if_pos (by decide)]

/-- Between quotes, escaped characters read as themselves. -/
theorem readBy_quoted_escape (u word cs : List Char) :
    readBy inside .quoted word (u.flatMap escapeChar ++ '"' :: cs) =
      (word ++ u) :: readBy inside .bare [] cs := by
  induction u generalizing word with
  | nil => simp [readBy]
  | cons c u ih =>
    rw [List.flatMap_cons, List.append_assoc]
    by_cases hc : c = '"' ∨ c = '\\'
    · rw [escapeChar, if_pos hc, List.cons_append, List.singleton_append, readBy, if_pos rfl,
        readBy, ih, List.append_assoc, List.singleton_append]
    · rw [escapeChar, if_neg hc, List.singleton_append, readBy, if_neg (fun h => hc (.inr h)),
        if_neg (fun h => hc (.inl h)), ih, List.append_assoc, List.singleton_append]

/-- The word `u` is what a reader makes of `e`, at the end of a line and before a blank. -/
def ReadsBackBy (inside : Bool) (e u : List Char) : Prop :=
  readBy inside .bare [] e = [u] ∧
    ∀ cs, readBy inside .bare [] (e ++ ' ' :: cs) = u :: readBy inside .bare [] cs

theorem readsBackBy_of_plain {e : List Char} (hne : e ≠ []) (he : ∀ c ∈ e, isPlain c = true) :
    ReadsBackBy inside e e := by
  constructor
  · have := @readBy_bare_append inside _ he [] []
    rwa [List.append_nil, List.nil_append, readBy_nil, finished_of_ne_nil hne] at this
  · intro cs
    rw [readBy_bare_append he, List.nil_append, readBy_bare_space, finished_of_ne_nil hne]
    rfl

theorem readsBackBy_word (u : List Char) : ReadsBackBy inside (wordChars u) u := by
  unfold wordChars
  split
  case isTrue h =>
    simp only [isBareWord, Bool.and_eq_true, Bool.not_eq_true', List.all_eq_true,
      List.isEmpty_eq_false_iff] at h
    refine readsBackBy_of_plain h.1 fun c hc => ?_
    obtain ⟨hb, hq⟩ := h.2 c hc
    have hs : isSeparator c = false := by
      rw [← Bool.not_eq_true]
      intro hs
      rw [isBlank_of_isSeparator hs] at hb
      cases hb
    rw [isPlain, hs, hq]
    rfl
  case isFalse =>
    have hq : ∀ cs, readBy inside .bare [] ('"' :: (u.flatMap escapeChar ++ ['"']) ++ cs) =
        u :: readBy inside .bare [] cs := by
      intro cs
      rw [List.cons_append, readBy, if_pos ⟨rfl, .inl rfl⟩, List.append_assoc,
        List.singleton_append, readBy_quoted_escape, List.nil_append]
    constructor
    · have := hq []
      rwa [List.append_nil, readBy_nil] at this
    · intro cs
      rw [hq, readBy_bare_space]
      rfl

end Readers

/-! ## A word that is written as it is -/

theorem length_readBy_le (m : Mode) (word cs : List Char) :
    (readBy true m word cs).flatten.length ≤ word.length + cs.length := by
  induction cs generalizing m word with
  | nil => rw [readBy_nil, flatten_finished]; simp
  | cons c cs ih =>
    have hq := ih .quoted (word ++ [c])
    have hb := ih .bare (word ++ [c])
    have hs := ih .bare []
    rw [List.length_append, List.length_singleton] at hq hb
    rw [List.length_nil] at hs
    rw [List.length_cons]
    cases m with
    | escaped => rw [readBy]; omega
    | quoted =>
      rw [readBy]
      split_ifs
      · have := ih .escaped word
        omega
      · rw [List.flatten_cons, List.length_append]
        omega
      · omega
    | bare =>
      rw [readBy]
      split_ifs
      · have := ih .quoted word
        omega
      · rw [List.flatten_append, flatten_finished, List.length_append]
        omega
      · omega

/-- Reading drops no character of a text only if all of them are plain. -/
theorem forall_isPlain_of_length_le (word : List Char) {cs : List Char}
    (h : word.length + cs.length ≤ (readBy true .bare word cs).flatten.length) :
    ∀ c ∈ cs, isPlain c = true := by
  induction cs generalizing word with
  | nil => exact fun c hc => absurd hc List.not_mem_nil
  | cons c cs ih =>
    rw [List.length_cons] at h
    by_cases hc : isPlain c = true
    · rw [readBy_bare_plain hc] at h
      refine List.forall_mem_cons.2 ⟨hc, ih (word ++ [c]) ?_⟩
      rw [List.length_append, List.length_singleton]
      omega
    · exfalso
      rw [readBy_true_bare] at h
      split_ifs at h with hq hs
      · have := length_readBy_le .quoted word cs
        omega
      · have := length_readBy_le .bare [] cs
        rw [List.flatten_append, flatten_finished, List.length_append] at h
        rw [List.length_nil] at this
        omega
      · simp [isPlain, hq, hs] at hc

/-- A text is one word that stands for itself when it is not empty and plain throughout. -/
theorem readBy_self_iff {v : List Char} :
    readBy true .bare [] v = [v] ↔ v ≠ [] ∧ ∀ c ∈ v, isPlain c = true := by
  constructor
  · intro h
    constructor
    · rintro rfl
      cases h
    · refine forall_isPlain_of_length_le [] ?_
      rw [h]
      simp
  · rintro ⟨hne, hp⟩
    exact (readsBackBy_of_plain hne hp).1

/-! ## A word that does not stand for itself -/

/-- What stands between quotes, without the backslashes that make characters literal; `escaped`
after one of these. -/
def unescape : (escaped : Bool) → List Char → List Char
  | _, [] => []
  | true, c :: cs => c :: unescape false cs
  | false, c :: cs => if c = '\\' then unescape true cs else c :: unescape false cs

theorem length_unescape_le (escaped : Bool) (cs : List Char) :
    (unescape escaped cs).length ≤ cs.length := by
  induction cs generalizing escaped with
  | nil => cases escaped <;> exact Nat.le_refl 0
  | cons c cs ih =>
    have hf := ih false
    have ht := ih true
    cases escaped <;> rw [unescape, List.length_cons]
    · split_ifs
      · omega
      · rw [List.length_cons]
        omega
    · rw [List.length_cons]
      omega

/-- A blank between quotes stands for itself, after a backslash too. -/
theorem unescape_append_space (escaped : Bool) (cs ds : List Char) :
    unescape escaped (cs ++ ' ' :: ds) = unescape escaped cs ++ ' ' :: unescape false ds := by
  induction cs generalizing escaped with
  | nil => cases escaped <;> simp [unescape]
  | cons c cs ih =>
    cases escaped <;> rw [List.cons_append, unescape, unescape, ih false]
    · split_ifs
      · exact ih true
      · rfl
    · rfl

/-- The first word that a reader gives after a quote is what it had and part of what follows. -/
theorem head?_readBy_quoted {word : List Char} (h : word ≠ []) (cs : List Char) :
    (∃ z, z <+: cs ∧ (readBy true .quoted word cs).head? = some (word ++ unescape false z)) ∧
      ∃ z, z <+: cs ∧ (readBy true .escaped word cs).head? = some (word ++ unescape true z) := by
  induction cs generalizing word with
  | nil =>
    simp [readBy_nil, finished_of_ne_nil h, unescape]
  | cons c cs ih =>
    have happ : word ++ [c] ≠ [] := by simp
    obtain ⟨z, hz, hr⟩ := (ih happ).1
    have hcons : c :: z <+: c :: cs := List.cons_prefix_cons.2 ⟨rfl, hz⟩
    rw [List.append_assoc, List.singleton_append] at hr
    refine ⟨?_, c :: z, hcons, by rw [readBy, hr, unescape]⟩
    by_cases hb : c = '\\'
    · obtain ⟨y, hy, hr⟩ := (ih h).2
      exact ⟨c :: y, List.cons_prefix_cons.2 ⟨rfl, hy⟩, by
        rw [readBy, if_pos hb, hr, unescape, if_pos hb]⟩
    · by_cases hq : c = '"'
      · exact ⟨[], List.nil_prefix, by rw [readBy, if_neg hb, if_pos hq]; simp [unescape]⟩
      · exact ⟨c :: z, hcons, by rw [readBy, if_neg hb, if_neg hq, hr, unescape, if_neg hb]⟩

/-- No text without its backslashes is a quote and the text up to some blank: the text up to that
blank would again be such a text, and shorter. -/
theorem unescape_append_space_ne (q z : List Char) :
    unescape false (q ++ ' ' :: z) ≠ '"' :: q := by
  induction hn : q.length using Nat.strongRecOn generalizing q z with
  | ind n ih =>
    intro h
    rw [unescape_append_space] at h
    cases ha : unescape false q with
    | nil =>
      rw [ha, List.nil_append, List.cons.injEq] at h
      exact absurd h.1 (by decide)
    | cons a rest =>
      rw [ha, List.cons_append, List.cons.injEq] at h
      obtain ⟨rfl, hq⟩ := h
      have hlt : rest.length < n := by
        rw [← hn, ← hq, List.length_append, List.length_cons]
        omega
      exact ih rest.length hlt rest (unescape false z) rfl (by rw [hq, ha])

/-- A line that begins with a word that is plain at first but not throughout has another first
word. -/
theorem head?_readBy_ne {v rest : List Char} (hfirst : ∃ c ∈ v.head?, isPlain c = true)
    (hv : ¬ ∀ c ∈ v, isPlain c = true) (hrest : rest = [] ∨ ∃ cs, rest = ' ' :: cs) :
    (readBy true .bare [] (v ++ rest)).head? ≠ some v := by
  -- `v` is plain up to its first character that is not
  obtain ⟨p, c, q, rfl, hp, hc⟩ : ∃ p c q, v = p ++ c :: q ∧ (∀ d ∈ p, isPlain d = true) ∧
      isPlain c = false := by
    have hs : (v.find? fun d => !isPlain d).isSome = true := by
      rw [List.find?_isSome]
      simpa using hv
    obtain ⟨c, hc⟩ := Option.isSome_iff_exists.1 hs
    obtain ⟨hn, p, q, rfl, hp⟩ := List.find?_eq_some_iff_append.1 hc
    exact ⟨p, c, q, rfl, by simpa using hp, by simpa using hn⟩
  have hne : p ≠ [] := by
    rintro rfl
    simp [hc] at hfirst
  rw [List.append_assoc, readBy_bare_append hp, List.nil_append, List.cons_append, readBy_true_bare]
  split_ifs with hq hs
  · subst hq
    obtain ⟨z, hz, hr⟩ := (head?_readBy_quoted hne (q ++ rest)).1
    rw [hr, ne_eq, Option.some.injEq, List.append_cancel_left_eq]
    intro h
    -- the part between quotes is longer than `q`, so that it goes on with the blank after `v`
    have hlen := length_unescape_le false z
    rw [h, List.length_cons] at hlen
    obtain ⟨y, rfl⟩ := List.prefix_of_prefix_length_le (List.prefix_append q rest) hz (by omega)
    rw [List.prefix_append_right_inj] at hz
    cases y with
    | nil =>
      rw [List.append_nil] at hlen
      omega
    | cons d y =>
      obtain rfl | ⟨cs, rfl⟩ := hrest
      · simp at hz
      · obtain ⟨rfl, -⟩ := List.cons_prefix_cons.1 hz
        exact unescape_append_space_ne q y h
  · rw [finished_of_ne_nil hne, List.singleton_append, List.head?_cons]
    simp
  · simp [isPlain, hq, hs] at hc

/-! ## Lines -/

/-- A word of a line: one that is written as it is, or one that may need quotes. -/
inductive Piece where
  | bare (text : String)
  | argument (text : String)
  deriving DecidableEq, Repr

def IsPlainWord (s : String) : Prop := s ≠ "" ∧ ∀ c ∈ s.toList, isPlain c = true

instance : DecidablePred IsPlainWord := fun s =>
  decidable_of_iff (s ≠ "" ∧ s.toList.all isPlain = true) (by rw [IsPlainWord, List.all_eq_true])

namespace Piece

def text : Piece → String
  | bare s => s
  | argument s => s

/-- A piece as a line holds it. -/
def written : Piece → String
  | bare s => s
  | argument s => word s

/-- A piece that reads back: one that is written as it is must be plain. -/
def IsWhole : Piece → Prop
  | bare s => IsPlainWord s
  | argument _ => True

/-- A piece that begins a word: if it is written as it is, its first character is plain. -/
def Begins : Piece → Prop
  | bare s => ∃ c ∈ s.toList.head?, isPlain c = true
  | argument _ => True

theorem IsWhole.begins {p : Piece} (h : p.IsWhole) : p.Begins := by
  cases p with
  | argument s => trivial
  | bare s =>
    obtain ⟨hne, hs⟩ := h
    cases hl : s.toList with
    | nil => exact absurd (String.toList_eq_nil_iff.1 hl) hne
    | cons c cs =>
      rw [hl] at hs
      exact ⟨c, by simp [hl], hs c List.mem_cons_self⟩

theorem readBy_written_iff {p : Piece} :
    readBy true .bare [] p.written.toList = [p.text.toList] ↔ p.IsWhole := by
  cases p with
  | bare s =>
    rw [written, text, readBy_self_iff, IsWhole, IsPlainWord, ne_eq, String.toList_eq_nil_iff]
  | argument s =>
    rw [written, text, toList_word]
    exact iff_of_true (readsBackBy_word s.toList).1 trivial

theorem IsWhole.readsBack {p : Piece} (h : p.IsWhole) :
    ReadsBackBy true p.written.toList p.text.toList := by
  cases p with
  | bare s => exact readsBackBy_of_plain (fun hs => h.1 (String.toList_eq_nil_iff.1 hs)) h.2
  | argument s =>
    rw [written, text, toList_word]
    exact readsBackBy_word s.toList

theorem Begins.head?_readBy_ne {p : Piece} (h : p.Begins) (hw : ¬ p.IsWhole) (cs : List Char) :
    (readBy true .bare [] (p.written.toList ++ ' ' :: cs)).head? ≠ some p.text.toList := by
  cases p with
  | argument s => exact absurd trivial hw
  | bare s =>
    refine Ruleset.head?_readBy_ne h (fun hs => hw ⟨?_, hs⟩) (.inr ⟨cs, rfl⟩)
    rintro rfl
    simp [Begins] at h

end Piece

def lineOf (ps : List Piece) : String := " ".intercalate (ps.map Piece.written)

theorem toList_lineOf_cons (p : Piece) {ps : List Piece} (h : ps ≠ []) :
    (lineOf (p :: ps)).toList = p.written.toList ++ ' ' :: (lineOf ps).toList := by
  rw [lineOf, List.map_cons, String.intercalate_cons_of_ne_nil (by simpa using h)]
  simp [lineOf]

/-- A line whose words begin plainly, up to the last one, reads back exactly when all of its pieces
are whole. -/
theorem readWords_lineOf_iff {ps : List Piece} (h : ∀ p ∈ ps.dropLast, p.Begins) :
    readWords (lineOf ps) = ps.map Piece.text ↔ ∀ p ∈ ps, p.IsWhole := by
  have hinj : readWords (lineOf ps) = ps.map Piece.text ↔
      readBy true .bare [] (lineOf ps).toList = ps.map fun p => p.text.toList := by
    have hi := (List.map_injective_iff.2 fun _ _ => String.toList_inj.1).eq_iff
      (a := readWords (lineOf ps)) (b := ps.map Piece.text)
    rw [← hi, readWords, readWordsBy, List.map_map, List.map_map]
    simp [Function.comp_def]
  rw [hinj]
  clear hinj
  induction ps with
  | nil => simp [lineOf, readBy, finished]
  | cons p ps ih =>
    by_cases hps : ps = []
    · subst hps
      simp [lineOf, Piece.readBy_written_iff]
    · rw [List.dropLast_cons_of_ne_nil hps, List.forall_mem_cons] at h
      rw [toList_lineOf_cons p hps, List.map_cons, List.forall_mem_cons]
      by_cases hp : p.IsWhole
      · rw [hp.readsBack.2, List.cons.injEq, and_iff_right rfl, and_iff_right hp]
        exact ih h.2
      · refine iff_of_false (fun hr => h.1.head?_readBy_ne hp (lineOf ps).toList ?_)
          (fun hw => hp hw.1)
        rw [hr, List.head?_cons]

end Firewall.Ruleset
