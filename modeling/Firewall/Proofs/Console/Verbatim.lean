import Firewall.Proofs.Console.Markup
import Firewall.Proofs.Console.Picture
import Mathlib.Data.List.Infix

/-!
# Escaped texts as they are shown

`display_eq_self_iff`: when a console shows an escaped text character by character as it is. Tags do
no harm (`verbatim_of_not_mem`), but the name of a picture is replaced, a backslash in front of a
bracket that begins no tag is lost, a single backslash at the end is doubled, tabs are expanded, and
some controls are dropped.

1. An escaped text is shown piece by piece: its tags, each with its brackets, and what stands around
   them (`render_escape_eq`). The pieces make up the text (`flatten_pieces`), but for the backslash
   at its end (`closeBackslash_escapeFrom`).
2. A piece that is not kept is spoiled: at some place another character is shown
   (`shownText_cases`).
3. Nothing mends a spoiled piece, neither what is done to it afterwards nor what is done to the
   pieces behind it (`Spoils.ne_append`).
-/

namespace Firewall.Console

open Text (ForksAt)

/-! ## Pieces of an escaped text -/

/-- The pieces in which an escaped text is shown: its tags, each with its brackets, and the texts
around them. -/
def pieces (cs : List Char) : List (List Char) := (parts (escapeFrom 0 cs)).map Part.chars

theorem flatten_map_chars_consText (c : Char) (joined : Bool) (ps : List Part) :
    ((consText c joined ps).map Part.chars).flatten = c :: (ps.map Part.chars).flatten := by
  unfold consText
  split <;> rfl

theorem flatten_map_chars_tagParts (k : Nat) (inside : List Char) :
    ((tagParts (2 * k + 1) inside).map Part.chars).flatten =
      List.replicate k '\\' ++ '[' :: (inside ++ [']']) := by
  have hodd : (2 * k + 1) % 2 = 1 := by omega
  have hhalf : (2 * k + 1) / 2 = k := by omega
  rw [tagParts, if_pos hodd, hhalf]
  split
  · obtain rfl : k = 0 := by omega
    simp [Part.chars]
  · simp [Part.chars]

theorem flatten_pieces (cs : List Char) : (pieces cs).flatten = cs := by
  unfold pieces parts
  induction cs using front_induction with
  | nil => rfl
  | tagged k inside tail hinside ih =>
    rw [escapeFrom_tagged hinside, partsFrom_tagged hinside, List.map_append, List.flatten_append,
      flatten_map_chars_tagParts, ih]
    simp [tagged]
  | char c rest hlive ih =>
    have hescaped := liveTag?_escapeFrom hlive
    rw [escapeFrom_char hlive] at hescaped ⊢
    rw [partsFrom_char hescaped, flatten_map_chars_consText, ih]

/-! ## The backslash at the end -/

/-- A text ends in a backslash, but not in two. -/
def EndsInOneBackslash (cs : List Char) : Prop := ['\\'] <:+ cs ∧ ¬ ['\\', '\\'] <:+ cs

instance : DecidablePred EndsInOneBackslash := fun cs => by
  unfold EndsInOneBackslash
  infer_instance

theorem closeBackslash_eq (cs : List Char) :
    closeBackslash cs = if EndsInOneBackslash cs then cs ++ ['\\'] else cs := by
  have hends : EndsInOneBackslash cs ↔
      ['\\'] <+: cs.reverse ∧ ¬ ['\\', '\\'] <+: cs.reverse := by
    rw [← List.reverse_suffix, ← List.reverse_suffix, List.reverse_reverse]
    rfl
  simp only [hends]
  unfold closeBackslash
  -- the last two characters decide
  generalize cs.reverse = r
  split
  · simp
  · next last hnot =>
    cases last with
    | nil => simp
    | cons c more =>
      have hc : '\\' ≠ c := by
        rintro rfl
        exact hnot more rfl
      simp [hc]
  · next hnot hnot' =>
    cases r with
    | nil => simp
    | cons c more =>
      have hc : '\\' ≠ c := by
        rintro rfl
        exact hnot' more rfl
      simp [hc]

theorem escapeFrom_append_backslash (cs : List Char) :
    escapeFrom 0 (cs ++ ['\\']) = escapeFrom 0 cs ++ ['\\'] := by
  induction cs using front_induction with
  | nil => rfl
  | tagged k inside tail hinside ih =>
    rw [tagged_append, escapeFrom_tagged hinside, escapeFrom_tagged hinside, ih, tagged_append]
  | char c rest hlive ih =>
    have happ := liveTag?_append_backslash hlive
    rw [List.cons_append] at happ ⊢
    rw [escapeFrom_char happ, escapeFrom_char hlive, ih, List.cons_append]

theorem suffix_tagged_iff {s : List Char} (hs : ']' ∉ s) (k : Nat) (inside tail : List Char) :
    s <:+ tagged k inside tail ↔ s <:+ tail := by
  have htail : ']' :: tail <:+ tagged k inside tail :=
    ⟨List.replicate k '\\' ++ '[' :: inside, by simp [tagged]⟩
  constructor
  · intro h
    obtain hle | hle := List.suffix_or_suffix_of_suffix h htail
    · obtain rfl | hle := List.suffix_cons_iff.1 hle
      · exact absurd List.mem_cons_self hs
      · exact hle
    · exact absurd (hle.subset List.mem_cons_self) hs
  · exact fun h => (h.trans (List.suffix_cons _ _)).trans htail

theorem escapeFrom_of_find? {cs : List Char} (h : cs.find? isBracket = none) :
    escapeFrom 0 cs = cs := by
  rw [List.find?_eq_none] at h
  induction cs using front_induction with
  | nil => rfl
  | tagged k inside tail => exact absurd rfl (h '[' (by simp [tagged]))
  | char c rest hlive ih =>
    rw [escapeFrom_char hlive, ih fun d hd => h d (List.mem_cons_of_mem c hd)]

/-- Escaping keeps what a text ends in, up to its last bracket. -/
theorem suffix_escapeFrom_iff {s : List Char} (hs : s.find? isBracket = none) (cs : List Char) :
    s <:+ escapeFrom 0 cs ↔ s <:+ cs := by
  induction cs using front_induction with
  | nil => rfl
  | tagged k inside tail hinside ih =>
    have hclose : ']' ∉ s := fun hmem => List.find?_eq_none.1 hs ']' hmem rfl
    rw [escapeFrom_tagged hinside, suffix_tagged_iff hclose, suffix_tagged_iff hclose, ih]
  | char c rest hlive ih =>
    rw [escapeFrom_char hlive, List.suffix_cons_iff, List.suffix_cons_iff, ih]
    -- where one of the two texts is `s`, there is no bracket to be escaped
    have hsame (more : List Char) (h : s = c :: more) : more.find? isBracket = none := by
      rw [h, List.find?_eq_none] at hs
      exact List.find?_eq_none.2 fun d hd => hs d (List.mem_cons_of_mem c hd)
    refine or_congr_left ⟨fun h => ?_, fun h => ?_⟩
    · have hrest := hsame _ h
      rw [find?_escapeFrom] at hrest
      rw [h, escapeFrom_of_find? hrest]
    · rw [h, escapeFrom_of_find? (hsame _ h)]

theorem closeBackslash_escapeFrom (cs : List Char) :
    closeBackslash (escapeFrom 0 cs) = escapeFrom 0 (closeBackslash cs) := by
  have hends : EndsInOneBackslash (escapeFrom 0 cs) ↔ EndsInOneBackslash cs := by
    unfold EndsInOneBackslash
    rw [suffix_escapeFrom_iff (by decide), suffix_escapeFrom_iff (by decide)]
  rw [closeBackslash_eq, closeBackslash_eq]
  simp only [hends]
  split
  · rw [escapeFrom_append_backslash]
  · rfl

/-- What a console shows for an escaped text. -/
def display (s : String) : String :=
  String.ofList (expandTabs 0 ((pieces (closeBackslash s.toList)).flatMap shownText))

theorem render_escape_eq (s : String) : render (escape s) = .ok (display s) := by
  have hparts : parts (escape s).toList = parts (escapeFrom 0 (closeBackslash s.toList)) := by
    rw [escape, String.toList_ofList, closeBackslash_escapeFrom]
  have htext := (guarded_escape s).isText
  rw [render_of_brokenSpans (brokenSpans_of_isText htext (by simp) 0),
    flatMap_shown_of_isText htext, hparts]
  rfl

/-! ## Characters that are shown -/

/-- Whether a console shows the character: it is neither a tab nor a control that is dropped. -/
def isShown (c : Char) : Bool := c != '\t' && !isDropped c

theorem isShown_iff {c : Char} : isShown c = true ↔ c ≠ '\t' ∧ isDropped c = false := by
  simp [isShown]

theorem isShown_of_lt {c : Char} (h : 31 < c.toNat) : isShown c = true := by
  refine isShown_iff.2 ⟨?_, ?_⟩
  · rintro rfl
    revert h
    decide
  · rw [isDropped, ← Bool.not_eq_true, List.contains_iff_mem]
    simp only [List.mem_cons, List.not_mem_nil, or_false]
    omega

theorem isShown_of_mem_expandTabs {c : Char} {cs : List Char}
    (h : ∀ d ∈ cs, isDropped d = false) (column : Nat) :
    c ∈ expandTabs column cs → isShown c = true := by
  induction column, cs using expandTabs.induct with
  | case1 => exact nofun
  | case2 column rest ih =>
    rw [expandTabs, List.mem_cons]
    rintro (rfl | hc)
    · decide
    · exact ih (fun d hd => h d (List.mem_cons_of_mem _ hd)) hc
  | case3 column rest ih =>
    rw [expandTabs, List.mem_append]
    rintro (hc | hc)
    · rw [List.eq_of_mem_replicate hc]
      decide
    · exact ih (fun d hd => h d (List.mem_cons_of_mem _ hd)) hc
  | case4 column d rest hfeed htab ih =>
    rw [expandTabs_cons hfeed htab, List.mem_cons]
    rintro (rfl | hc)
    · exact isShown_iff.2 ⟨htab, h c List.mem_cons_self⟩
    · exact ih (fun e he => h e (List.mem_cons_of_mem _ he)) hc

theorem expandTabs_eq_self {cs : List Char} (h : ∀ c ∈ cs, isShown c = true) (column : Nat) :
    expandTabs column cs = cs := by
  have htab : '\t' ∉ cs := fun hmem => (isShown_iff.1 (h _ hmem)).1 rfl
  obtain ⟨n, hn⟩ := expandTabs_append htab column []
  rwa [List.append_nil, expandTabs, List.append_nil] at hn

theorem filter_eq_self {cs : List Char} (h : ∀ c ∈ cs, isShown c = true) :
    cs.filter (fun c => !isDropped c) = cs := by
  refine List.filter_eq_self.2 fun c hc => ?_
  rw [(isShown_iff.1 (h c hc)).2]
  rfl

/-! ## Spoiled pieces -/

/-- What is shown for a text differs from it: where the text goes on with one character, another one
is shown. -/
def Spoils (u v : List Char) : Prop := ∃ x y, x ≠ y ∧ isShown y = true ∧ ForksAt x y u v

namespace Spoils

variable {u v : List Char}

theorem append_left (h : Spoils u v) (w : List Char) : Spoils (w ++ u) (w ++ v) := by
  obtain ⟨x, y, hne, hy, h⟩ := h
  exact ⟨x, y, hne, hy, h.append_left w⟩

theorem append_right (h : Spoils u v) (w w' : List Char) : Spoils (u ++ w) (v ++ w') := by
  obtain ⟨x, y, hne, hy, h⟩ := h
  exact ⟨x, y, hne, hy, h.append_right w w'⟩

theorem ne_append (h : Spoils u v) (w : List Char) : u ≠ v ++ w := by
  obtain ⟨x, y, hne, -, h⟩ := h
  exact h.ne_append hne w

theorem filter (hu : ∀ c ∈ u, isShown c = true) (h : Spoils u v) :
    Spoils u (v.filter fun c => !isDropped c) := by
  obtain ⟨x, y, hne, hy, front, u', v', rfl, rfl⟩ := h
  have hfront := filter_eq_self fun c hc => hu c (List.mem_append_left _ hc)
  refine ⟨x, y, hne, hy, front, u', v'.filter fun c => !isDropped c, rfl, ?_⟩
  rw [List.filter_append, hfront, List.filter_cons_of_pos (by simp [(isShown_iff.1 hy).2])]

theorem expandTabs (hu : ∀ c ∈ u, isShown c = true) (h : Spoils u v) (column : Nat) :
    Spoils u (expandTabs column v) := by
  obtain ⟨x, y, hne, hy, front, u', v', rfl, rfl⟩ := h
  have htab : '\t' ∉ front ++ [y] := by
    intro hmem
    rw [List.mem_append, List.mem_singleton] at hmem
    obtain hmem | rfl := hmem
    · exact (isShown_iff.1 (hu _ (List.mem_append_left _ hmem))).1 rfl
    · exact (isShown_iff.1 hy).1 rfl
  obtain ⟨n, hn⟩ := expandTabs_append htab column v'
  refine ⟨x, y, hne, hy, front, u', Console.expandTabs n v', rfl, ?_⟩
  rw [List.append_cons, hn, List.append_assoc, List.singleton_append]

end Spoils

/-- A piece that is shown as it is: no backslash stands in front of a bracket, and no name of a
picture between colons. -/
structure IsKept (p : List Char) : Prop where
  brackets : ¬ ['\\', '['] <:+: p
  pictures : ¬ HoldsPicture p

instance : DecidablePred HoldsPicture := fun cs =>
  decidable_of_iff (picturesFor 0 cs ≠ cs) (by rw [ne_eq, picturesFor_eq_self_iff, not_not])

instance : DecidablePred IsKept := fun p =>
  decidable_of_iff (¬ ['\\', '['] <:+: p ∧ ¬ HoldsPicture p)
    ⟨fun h => ⟨h.1, h.2⟩, fun h => ⟨h.brackets, h.pictures⟩⟩

/-- A bracket after a backslash is shown in place of the backslash. -/
theorem plainBrackets_cases (p : List Char) :
    (plainBrackets p = p ∧ ¬ ['\\', '['] <:+: p) ∨
      ['\\', '['] <:+: p ∧ ForksAt '\\' '[' p (plainBrackets p) := by
  induction p using plainBrackets.induct with
  | case1 rest ih =>
    have hpre : ['\\', '['] <+: '\\' :: '[' :: rest := ⟨rest, rfl⟩
    exact .inr ⟨hpre.isInfix, [], '[' :: rest, plainBrackets rest, rfl, rfl⟩
  | case2 c rest hnot ih =>
    have hcons : plainBrackets (c :: rest) = c :: plainBrackets rest := by
      rw [plainBrackets]
      exact hnot
    have hpre : ¬ ['\\', '['] <+: c :: rest := by
      rintro ⟨more, hmore⟩
      obtain ⟨rfl, hrest⟩ := List.cons.inj hmore
      exact hnot more rfl hrest.symm
    rw [hcons, List.infix_cons_iff, or_iff_right hpre]
    obtain ⟨hkept, hnone⟩ | ⟨hsome, hforks⟩ := ih
    · exact .inl ⟨by rw [hkept], hnone⟩
    · exact .inr ⟨hsome, hforks.cons c⟩
  | case3 => exact .inl ⟨rfl, by decide⟩

/-- A piece without tabs and other controls that are dropped is kept or spoiled. -/
theorem shownText_cases {p : List Char} (hp : ∀ c ∈ p, isShown c = true) :
    (shownText p = p ∧ IsKept p) ∨ Spoils p (shownText p) ∧ ¬ IsKept p := by
  obtain ⟨hplain, hbrackets⟩ | ⟨hbrackets, hfork⟩ := plainBrackets_cases p
  · obtain ⟨hkept, hpictures⟩ | ⟨hpictures, y, hne, hy, hfork⟩ := picturesFor_cases p
    · refine .inl ⟨?_, hbrackets, hpictures⟩
      rw [shownText, hplain, hkept, filter_eq_self hp]
    · have hspoils : Spoils p (picturesFor 0 p) := ⟨':', y, hne.symm, isShown_of_lt hy, hfork⟩
      rw [shownText, hplain]
      exact .inr ⟨hspoils.filter hp, fun h => h.pictures hpictures⟩
  · refine .inr ⟨Spoils.filter hp ?_, fun h => h.brackets hbrackets⟩
    have hbracket : Spoils p (plainBrackets p) := ⟨'\\', '[', by decide, by decide, hfork⟩
    -- a picture may come first in the text
    obtain ⟨hkept, -⟩ | ⟨-, y, hne, hy, hfork'⟩ := picturesFor_cases (plainBrackets p)
    · rwa [hkept]
    · obtain h | h := hfork.trans hfork' (by decide)
      · exact ⟨'\\', '[', by decide, by decide, h⟩
      · exact ⟨':', y, hne.symm, isShown_of_lt hy, h⟩

/-- Pieces are all kept, or what is shown for them is spoiled by the first one that is not. -/
theorem flatMap_shownText_cases {ps : List (List Char)}
    (h : ∀ p ∈ ps, ∀ c ∈ p, isShown c = true) :
    (ps.flatMap shownText = ps.flatten ∧ ∀ p ∈ ps, IsKept p) ∨
      Spoils ps.flatten (ps.flatMap shownText) ∧ ¬ ∀ p ∈ ps, IsKept p := by
  induction ps with
  | nil => exact .inl ⟨rfl, nofun⟩
  | cons p ps ih =>
    obtain ⟨hp, hps⟩ := List.forall_mem_cons.1 h
    rw [List.flatten_cons, List.flatMap_cons, List.forall_mem_cons]
    obtain ⟨hshown, hkept⟩ | ⟨hspoils, hnot⟩ := shownText_cases hp
    · rw [hshown]
      obtain ⟨hall, hkepts⟩ | ⟨hspoils, hnot⟩ := ih hps
      · exact .inl ⟨by rw [hall], hkept, hkepts⟩
      · exact .inr ⟨hspoils.append_left p, fun h => hnot h.2⟩
    · exact .inr ⟨hspoils.append_right _ _, fun h => hnot h.1⟩

/-! ## Texts that are shown as they are -/

/-- A text that is shown as it is once it is escaped. -/
structure Verbatim (cs : List Char) : Prop where
  shown : ∀ c ∈ cs, isShown c = true
  ending : ¬ EndsInOneBackslash cs
  kept : ∀ p ∈ pieces cs, IsKept p

instance : DecidablePred Verbatim := fun cs =>
  -- the characters of the text are looked at, not all there are
  decidable_of_iff (cs.all isShown = true ∧ ¬ EndsInOneBackslash cs ∧ ∀ p ∈ pieces cs, IsKept p)
    ⟨fun h => ⟨List.all_eq_true.1 h.1, h.2.1, h.2.2⟩,
      fun h => ⟨List.all_eq_true.2 h.shown, h.ending, h.kept⟩⟩

theorem subset_of_mem_pieces {p cs : List Char} (hp : p ∈ pieces cs) : p ⊆ cs := by
  intro c hc
  rw [← flatten_pieces cs]
  exact List.mem_flatten_of_mem hp hc

theorem isShown_of_mem_pieces {cs : List Char} (h : ∀ c ∈ cs, isShown c = true) :
    ∀ p ∈ pieces cs, ∀ c ∈ p, isShown c = true :=
  fun _ hp c hc => h c (subset_of_mem_pieces hp hc)

theorem exists_closeBackslash_eq (cs : List Char) :
    ∃ more, closeBackslash cs = cs ++ more ∧ (∀ c ∈ more, isShown c = true) ∧
      (more = [] ↔ ¬ EndsInOneBackslash cs) := by
  rw [closeBackslash_eq]
  split
  · next h =>
    have hshown : ∀ c ∈ ['\\'], isShown c = true := List.forall_mem_singleton.2 (by decide)
    exact ⟨['\\'], rfl, hshown, iff_of_false (by decide) (not_not_intro h)⟩
  · next h => exact ⟨[], (List.append_nil cs).symm, nofun, iff_of_true rfl h⟩

/-- **Verbatim texts.** What a console shows for an escaped text is the text itself exactly when all
of its characters are shown, it does not end in a single backslash, and each of its pieces is kept.
-/
theorem display_eq_self_iff {s : String} : display s = s ↔ Verbatim s.toList := by
  have htoList : display s = s ↔
      expandTabs 0 ((pieces (closeBackslash s.toList)).flatMap shownText) = s.toList := by
    rw [display, ← String.toList_inj, String.toList_ofList]
  rw [htoList]
  generalize s.toList = cs
  obtain ⟨more, hclosed, hmore, hending⟩ := exists_closeBackslash_eq cs
  constructor
  · intro h
    have hshown : ∀ c ∈ cs, isShown c = true := by
      intro c hc
      rw [← h] at hc
      refine isShown_of_mem_expandTabs (fun d hd => ?_) 0 hc
      obtain ⟨p, -, hd⟩ := List.mem_flatMap.1 hd
      simpa using (List.mem_filter.1 hd).2
    have hall : ∀ c ∈ closeBackslash cs, isShown c = true := by
      rw [hclosed]
      exact List.forall_mem_append.2 ⟨hshown, hmore⟩
    obtain ⟨hkept, hkepts⟩ | ⟨hspoils, -⟩ := flatMap_shownText_cases (isShown_of_mem_pieces hall)
    · rw [hkept, flatten_pieces, expandTabs_eq_self hall, hclosed] at h
      have hnil : more = [] := List.append_right_eq_self.1 h
      rw [hclosed, hnil, List.append_nil] at hkepts
      exact ⟨hshown, hending.1 hnil, hkepts⟩
    · rw [flatten_pieces] at hspoils
      have hne := (hspoils.expandTabs hall 0).ne_append more
      rw [h] at hne
      exact absurd hclosed hne
  · intro h
    rw [hending.2 h.ending, List.append_nil] at hclosed
    obtain ⟨hkept, -⟩ | ⟨-, hnot⟩ := flatMap_shownText_cases (isShown_of_mem_pieces h.shown)
    · rw [hclosed, hkept, flatten_pieces, expandTabs_eq_self h.shown]
    · exact absurd h.kept hnot

/-- Tags do no harm, whatever brackets there are. -/
theorem verbatim_of_not_mem {cs : List Char} (hshown : ∀ c ∈ cs, isShown c = true)
    (hbackslash : '\\' ∉ cs) (hcolon : ':' ∉ cs) : Verbatim cs := by
  refine ⟨hshown, fun h => hbackslash (h.1.subset List.mem_cons_self), fun p hp => ⟨?_, ?_⟩⟩
  · exact fun h => hbackslash (subset_of_mem_pieces hp (h.subset List.mem_cons_self))
  · exact fun h => hcolon (subset_of_mem_pieces hp h.colon_mem)

/-- Tags and most addresses are shown as they are. But between two colons, even the short number of
an address is the name of a picture. -/
example : Verbatim "host 2001:db8::1 in [red]".toList ∧ ¬ Verbatim "host fd00:a:1::2".toList := by
  decide +kernel

end Firewall.Console
