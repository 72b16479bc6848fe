import Firewall.Console.Markup
import Firewall.Proofs.Failure
import Mathlib.Data.List.Basic
import Mathlib.Data.List.TakeWhile

/-!
# Markup that has no faults

`escape` guards every text: what it gives holds no tag that is read as one (`guarded_escape`), so
that a report of any message can be shown (`render_report`). A line with one pair of tags can be
shown as well if the text between them holds no bracket (`render_green`, `render_cyan`).

1. A tag is recognized by its bracket, the character after it and the next bracket
   (`tagHere?_eq_some_iff`), and `escape` keeps brackets as they are (`find?_escapeFrom`).
2. So a text without a tag at its front still has none there once it is escaped
   (`liveTag?_escapeFrom`), and the tags that it has come after an odd number of backslashes.
-/

namespace Firewall.Console

/-! ## Tags at the front of a text -/

/-- Whether `c` is a bracket. -/
def isBracket (c : Char) : Bool := c == '[' || c == ']'

/-- What can stand between the brackets of a tag. -/
def IsInside (inside : List Char) : Prop :=
  ∃ c tail, inside = c :: tail ∧ startsTag c = true ∧ ∀ d ∈ tail, isBracket d = false

theorem isInside_of_eq {inside tail : List Char} {c : Char} (h : inside = c :: tail)
    (hc : startsTag c = true) (htail : (tail.all fun d => !isBracket d) = true) :
    IsInside inside :=
  ⟨c, tail, h, hc, by simpa using htail⟩

theorem ne_of_startsTag {c : Char} (h : startsTag c = true) : c ≠ '\\' := by
  rintro rfl
  revert h
  decide

theorem IsInside.bracket_not_mem {inside : List Char} (h : IsInside inside) : '[' ∉ inside := by
  obtain ⟨c, tail, rfl, hc, htail⟩ := h
  rw [List.mem_cons, not_or]
  refine ⟨?_, fun hmem => absurd (htail '[' hmem) (by decide)⟩
  rintro rfl
  revert hc
  decide

theorem takeWhile_eq (cs : List Char) :
    (cs.takeWhile fun d => d != '[' && d != ']') = cs.takeWhile fun d => !isBracket d := by
  simp only [isBracket, Bool.not_or, bne]

theorem getElem?_length_takeWhile (p : Char → Bool) (cs : List Char) :
    cs[(cs.takeWhile fun c => !p c).length]? = cs.find? p := by
  induction cs with
  | nil => rfl
  | cons c rest ih => cases h : p c <;> simp [h, ih]

/-- A tag is a bracket, a character that may begin one, and text up to a closing bracket. -/
theorem tagHere?_cons_cons (c : Char) (rest : List Char) :
    tagHere? ('[' :: c :: rest) =
      if startsTag c = true ∧ rest.find? isBracket = some ']' then
        some (c :: rest.takeWhile fun d => !isBracket d)
      else none := by
  rw [tagHere?, takeWhile_eq, getElem?_length_takeWhile]
  simp

theorem isSome_tagHere?_iff {cs : List Char} :
    (tagHere? cs).isSome = true ↔
      ∃ c rest, cs = '[' :: c :: rest ∧ startsTag c = true ∧ rest.find? isBracket = some ']' := by
  constructor
  · intro h
    unfold tagHere? at h
    split at h
    · next c rest =>
      simp only [takeWhile_eq, getElem?_length_takeWhile] at h
      exact ⟨c, rest, rfl, by simpa using h⟩
    · cases h
  · rintro ⟨c, rest, rfl, hc⟩
    rw [tagHere?_cons_cons, if_pos hc]
    rfl

theorem tagHere?_eq_some_iff {cs inside : List Char} :
    tagHere? cs = some inside ↔ IsInside inside ∧ ∃ tail, cs = '[' :: (inside ++ ']' :: tail) := by
  constructor
  · intro h
    obtain ⟨c, rest, rfl, hc, hfind⟩ := isSome_tagHere?_iff.1 (Option.isSome_of_eq_some h)
    rw [tagHere?_cons_cons, if_pos ⟨hc, hfind⟩, Option.some.injEq] at h
    obtain ⟨-, before, after, rfl, hbefore⟩ := List.find?_eq_some_iff_append.1 hfind
    have htake : (before ++ ']' :: after).takeWhile (fun d => !isBracket d) = before := by
      rw [List.takeWhile_append_of_pos hbefore, List.takeWhile_cons_of_neg (by decide),
        List.append_nil]
    rw [htake] at h
    subst h
    exact ⟨⟨c, before, rfl, hc, fun d hd => by simpa using hbefore d hd⟩, after, rfl⟩
  · rintro ⟨⟨c, rest, rfl, hc, hrest⟩, tail, rfl⟩
    have hbefore : ∀ d ∈ rest, (!isBracket d) = true := fun d hd => by simp [hrest d hd]
    have hfind : (rest ++ ']' :: tail).find? isBracket = some ']' :=
      List.find?_eq_some_iff_append.2 ⟨by decide, rest, tail, rfl, hbefore⟩
    rw [List.cons_append, tagHere?_cons_cons, if_pos ⟨hc, hfind⟩,
      List.takeWhile_append_of_pos hbefore, List.takeWhile_cons_of_neg (by decide),
      List.append_nil]

/-- The backslashes at the front of a text. -/
def slashes (cs : List Char) : Nat := (cs.takeWhile (· == '\\')).length

/-- The inside of the tag at the front of a text, after backslashes. -/
def liveTag? (cs : List Char) : Option (List Char) := tagHere? (cs.drop (slashes cs))

@[simp] theorem slashes_backslash (cs : List Char) : slashes ('\\' :: cs) = slashes cs + 1 := by
  simp [slashes]

@[simp] theorem liveTag?_backslash (cs : List Char) : liveTag? ('\\' :: cs) = liveTag? cs := by
  simp [liveTag?]

theorem slashes_of_ne {c : Char} (h : c ≠ '\\') (cs : List Char) : slashes (c :: cs) = 0 := by
  simp [slashes, h]

theorem liveTag?_of_ne {c : Char} (h : c ≠ '\\') (cs : List Char) :
    liveTag? (c :: cs) = tagHere? (c :: cs) := by
  rw [liveTag?, slashes_of_ne h, List.drop_zero]

theorem liveTag?_of_ne_of_ne {c : Char} (h : c ≠ '\\') (hc : c ≠ '[') (cs : List Char) :
    liveTag? (c :: cs) = none := by
  rw [liveTag?_of_ne h, ← Option.not_isSome_iff_eq_none, isSome_tagHere?_iff]
  rintro ⟨d, rest, hd, -⟩
  exact hc (List.cons.inj hd).1

/-- There is no tag at a character if what follows could only go on a tag that was there before. -/
theorem liveTag?_cons_eq_none {c : Char} {rest rest' : List Char} (hc : c ≠ '\\')
    (h : liveTag? (c :: rest) = none)
    (hrest : ∀ d more, rest' = d :: more → startsTag d = true → more.find? isBracket = some ']' →
      ∃ more', rest = d :: more' ∧ more'.find? isBracket = some ']') :
    liveTag? (c :: rest') = none := by
  rw [liveTag?_of_ne hc, ← Option.not_isSome_iff_eq_none, isSome_tagHere?_iff] at h ⊢
  rintro ⟨d, more, hcons, hstart, hfind⟩
  obtain ⟨rfl, hmore⟩ := List.cons.inj hcons
  obtain ⟨more', rfl, hfind'⟩ := hrest d more hmore hstart hfind
  exact h ⟨d, more', rfl, hstart, hfind'⟩

/-- A text that consists of backslashes, a tag with the given inside, and more text. -/
def tagged (backslashes : Nat) (inside tail : List Char) : List Char :=
  List.replicate backslashes '\\' ++ '[' :: (inside ++ ']' :: tail)

theorem slashes_tagged (k : Nat) (inside tail : List Char) :
    slashes (tagged k inside tail) = k := by
  induction k with
  | zero => exact slashes_of_ne (by decide) _
  | succ k ih =>
    show slashes ('\\' :: tagged k inside tail) = _
    rw [slashes_backslash, ih]

theorem liveTag?_tagged {inside : List Char} (h : IsInside inside) (k : Nat) (tail : List Char) :
    liveTag? (tagged k inside tail) = some inside := by
  rw [liveTag?, slashes_tagged, tagged, List.drop_left' (List.length_replicate ..)]
  exact tagHere?_eq_some_iff.2 ⟨h, tail, rfl⟩

theorem exists_of_liveTag? {cs inside : List Char} (h : liveTag? cs = some inside) :
    IsInside inside ∧ ∃ k tail, cs = tagged k inside tail := by
  induction cs with
  | nil => cases h
  | cons c rest ih =>
    by_cases hc : c = '\\'
    · subst hc
      rw [liveTag?_backslash] at h
      obtain ⟨hinside, k, tail, rfl⟩ := ih h
      exact ⟨hinside, k + 1, tail, rfl⟩
    · rw [liveTag?_of_ne hc] at h
      obtain ⟨hinside, tail, htail⟩ := tagHere?_eq_some_iff.1 h
      exact ⟨hinside, 0, tail, htail⟩

theorem tagged_ne_nil (k : Nat) (inside tail : List Char) : tagged k inside tail ≠ [] := by
  simp [tagged]

theorem drop_tagged (k : Nat) (inside tail : List Char) :
    (tagged k inside tail).drop (k + inside.length + 2) = tail := by
  have h : tagged k inside tail =
      (List.replicate k '\\' ++ '[' :: (inside ++ [']'])) ++ tail := by
    simp [tagged]
  rw [h]
  refine List.drop_left' ?_
  simp
  omega

/-- What reading finds at the first character of a text that begins with a tag. -/
theorem front_of_tagged {inside : List Char} (h : IsInside inside) (k : Nat) (tail : List Char) :
    ∃ c rest, tagged k inside tail = c :: rest ∧
      ((c :: rest).takeWhile (· == '\\')).length = k ∧
      tagHere? ((c :: rest).drop k) = some inside ∧ rest.drop (k + inside.length + 1) = tail := by
  have hlive := liveTag?_tagged h k tail
  have hslashes := slashes_tagged k inside tail
  have hdrop := drop_tagged k inside tail
  obtain ⟨c, rest, hcs⟩ := List.exists_cons_of_ne_nil (tagged_ne_nil k inside tail)
  rw [liveTag?, hslashes] at hlive
  rw [hcs] at hlive hslashes hdrop
  exact ⟨c, rest, hcs, hslashes, hlive, hdrop⟩

theorem tagged_append (k : Nat) (inside tail more : List Char) :
    tagged k inside tail ++ more = tagged k inside (tail ++ more) := by
  simp [tagged]

theorem length_lt_length_tagged (k : Nat) (inside tail : List Char) :
    tail.length < (tagged k inside tail).length := by
  simp only [tagged, List.length_append, List.length_cons, List.length_replicate]
  omega

/-- Texts from the front: a text is empty, begins with a tag after some backslashes, or begins with
a character that is text. -/
@[elab_as_elim]
theorem front_induction {motive : List Char → Prop} (nil : motive [])
    (tagged : ∀ k inside tail, IsInside inside → motive tail → motive (tagged k inside tail))
    (char : ∀ c rest, liveTag? (c :: rest) = none → motive rest → motive (c :: rest))
    (cs : List Char) : motive cs := by
  induction hn : cs.length using Nat.strongRecOn generalizing cs with
  | ind n ih =>
    cases cs with
    | nil => exact nil
    | cons c rest =>
      cases h : liveTag? (c :: rest) with
      | none => exact char c rest h (ih rest.length (by simp [← hn]) rest rfl)
      | some inside =>
        obtain ⟨hinside, k, tail, hcs⟩ := exists_of_liveTag? h
        rw [hcs] at hn ⊢
        exact tagged k inside tail hinside
          (ih tail.length (hn ▸ length_lt_length_tagged k inside tail) tail rfl)

/-! ## Parts and escaped texts -/

theorem partsFrom_eq_drop (n : Nat) (cs : List Char) :
    partsFrom n cs = partsFrom 0 (cs.drop n) := by
  induction cs generalizing n with
  | nil => simp [partsFrom]
  | cons c rest ih =>
    cases n with
    | zero => rfl
    | succ n => rw [partsFrom, ih, List.drop_succ_cons]

theorem escapeFrom_eq_drop (n : Nat) (cs : List Char) :
    escapeFrom n cs = escapeFrom 0 (cs.drop n) := by
  induction cs generalizing n with
  | nil => simp [escapeFrom]
  | cons c rest ih =>
    cases n with
    | zero => rfl
    | succ n => rw [escapeFrom, ih, List.drop_succ_cons]

theorem partsFrom_tagged {inside : List Char} (h : IsInside inside) (k : Nat) (tail : List Char) :
    partsFrom 0 (tagged k inside tail) = (false, tagParts k inside ++ (partsFrom 0 tail).2) := by
  obtain ⟨c, rest, hcs, hslashes, hhere, hdrop⟩ := front_of_tagged h k tail
  rw [hcs, partsFrom]
  simp only [hslashes, hhere]
  rw [partsFrom_eq_drop, hdrop]

theorem partsFrom_char {c : Char} {rest : List Char} (h : liveTag? (c :: rest) = none) :
    partsFrom 0 (c :: rest) =
      (true, consText c (partsFrom 0 rest).1 (partsFrom 0 rest).2) := by
  unfold liveTag? slashes at h
  rw [partsFrom]
  simp only [h]

theorem escapeFrom_tagged {inside : List Char} (h : IsInside inside) (k : Nat) (tail : List Char) :
    escapeFrom 0 (tagged k inside tail) = tagged (2 * k + 1) inside (escapeFrom 0 tail) := by
  obtain ⟨c, rest, hcs, hslashes, hhere, hdrop⟩ := front_of_tagged h k tail
  rw [hcs, escapeFrom]
  simp only [hslashes, hhere]
  rw [escapeFrom_eq_drop, hdrop]
  simp [tagged]

theorem escapeFrom_char {c : Char} {rest : List Char} (h : liveTag? (c :: rest) = none) :
    escapeFrom 0 (c :: rest) = c :: escapeFrom 0 rest := by
  unfold liveTag? slashes at h
  rw [escapeFrom]
  simp only [h]

/-! ## Guarded texts -/

/-- A text in which every tag comes after an odd number of backslashes. -/
inductive Guarded : List Char → Prop
  | nil : Guarded []
  | tag {inside tail : List Char} (k : Nat) (h : IsInside inside) (ht : Guarded tail) :
      Guarded (tagged (2 * k + 1) inside tail)
  | char {c : Char} {rest : List Char} (h : liveTag? (c :: rest) = none) (hr : Guarded rest) :
      Guarded (c :: rest)

theorem find?_escapeFrom (cs : List Char) :
    (escapeFrom 0 cs).find? isBracket = cs.find? isBracket := by
  induction cs using front_induction with
  | nil => rfl
  | tagged k inside tail hinside _ =>
    have hfind : ∀ j t, (tagged j inside t).find? isBracket = some '[' := by
      intro j t
      refine List.find?_eq_some_iff_append.2 ⟨by decide, List.replicate j '\\', _, rfl, ?_⟩
      intro d hd
      rw [List.eq_of_mem_replicate hd]
      decide
    rw [escapeFrom_tagged hinside, hfind, hfind]
  | char c rest hlive ih => rw [escapeFrom_char hlive, List.find?_cons, List.find?_cons, ih]

theorem liveTag?_escapeFrom {cs : List Char} (h : liveTag? cs = none) :
    liveTag? (escapeFrom 0 cs) = none := by
  induction cs with
  | nil => rfl
  | cons c rest ih =>
    rw [escapeFrom_char h]
    by_cases hc : c = '\\'
    · subst hc
      rw [liveTag?_backslash] at h ⊢
      exact ih h
    · refine liveTag?_cons_eq_none hc h fun d more hrest hstart hfind => ?_
      -- the character after the bracket is the first one of the text: a tag would begin with a
      -- backslash
      cases rest using front_induction with
      | nil => cases hrest
      | tagged k inside tail hinside =>
        rw [escapeFrom_tagged hinside] at hrest
        have hd : '\\' = d := (List.cons.inj hrest).1
        exact absurd hd.symm (ne_of_startsTag hstart)
      | char e tail hlive =>
        rw [escapeFrom_char hlive] at hrest
        obtain ⟨rfl, rfl⟩ := List.cons.inj hrest
        rw [find?_escapeFrom] at hfind
        exact ⟨tail, rfl, hfind⟩

theorem guarded_escapeFrom (cs : List Char) : Guarded (escapeFrom 0 cs) := by
  induction cs using front_induction with
  | nil => exact .nil
  | tagged k inside tail hinside ih =>
    rw [escapeFrom_tagged hinside]
    exact .tag k hinside ih
  | char c rest hlive ih =>
    have hescaped := liveTag?_escapeFrom hlive
    rw [escapeFrom_char hlive] at hescaped ⊢
    exact .char hescaped ih

/-- A backslash at the end of a text makes no tag. -/
theorem liveTag?_append_backslash {cs : List Char} (h : liveTag? cs = none) :
    liveTag? (cs ++ ['\\']) = none := by
  induction cs with
  | nil => rfl
  | cons c rest ih =>
    rw [List.cons_append]
    by_cases hc : c = '\\'
    · subst hc
      rw [liveTag?_backslash] at h ⊢
      exact ih h
    · refine liveTag?_cons_eq_none hc h fun d more hrest hstart hfind => ?_
      cases rest with
      | nil =>
        obtain ⟨rfl, -⟩ := List.cons.inj hrest
        exact absurd rfl (ne_of_startsTag hstart)
      | cons e tail =>
        obtain ⟨rfl, rfl⟩ := List.cons.inj hrest
        rw [List.append_eq, List.find?_append, List.find?_cons_of_neg (by decide), List.find?_nil,
          Option.or_none] at hfind
        exact ⟨tail, rfl, hfind⟩

theorem Guarded.append_backslash {cs : List Char} (h : Guarded cs) : Guarded (cs ++ ['\\']) := by
  induction h with
  | nil => exact .char rfl .nil
  | tag k hinside _ ih =>
    rw [tagged_append]
    exact .tag k hinside ih
  | char hlive _ ih => exact .char (liveTag?_append_backslash hlive) ih

/-- **Escaping.** An escaped text is guarded. -/
theorem guarded_escape (s : String) : Guarded (escape s).toList := by
  have h := guarded_escapeFrom s.toList
  rw [escape, String.toList_ofList, closeBackslash]
  split
  · exact h
  · exact h.append_backslash
  · exact h

/-! ## What is shown -/

/-- The part is text. -/
def Part.IsText : Part → Prop
  | .text _ => True
  | .tag _ => False

theorem isText_of_mem_consText {c : Char} {joined : Bool} {ps : List Part}
    (h : ∀ p ∈ ps, p.IsText) : ∀ p ∈ consText c joined ps, p.IsText := by
  unfold consText
  split
  · obtain ⟨-, hrest⟩ := List.forall_mem_cons.1 h
    exact List.forall_mem_cons.2 ⟨trivial, hrest⟩
  · exact List.forall_mem_cons.2 ⟨trivial, h⟩

theorem isText_of_mem_tagParts (k : Nat) (inside : List Char) :
    ∀ p ∈ tagParts (2 * k + 1) inside, p.IsText := by
  have hodd : (2 * k + 1) % 2 = 1 := by omega
  intro p hp
  rw [tagParts, if_pos hodd, List.mem_append, List.mem_singleton] at hp
  obtain hp | rfl := hp
  · split at hp
    · cases hp
    · rw [List.mem_singleton.1 hp]
      trivial
  · trivial

/-- A guarded text holds no tag. -/
theorem Guarded.isText {cs : List Char} (h : Guarded cs) : ∀ p ∈ parts cs, p.IsText := by
  unfold parts
  induction h with
  | nil =>
    intro p hp
    cases hp
  | tag k hinside _ ih =>
    rw [partsFrom_tagged hinside]
    exact List.forall_mem_append.2 ⟨isText_of_mem_tagParts k _, ih⟩
  | char hlive _ ih =>
    rw [partsFrom_char hlive]
    exact isText_of_mem_consText ih

/-- The characters of a part, those of a tag with its brackets. -/
def Part.chars : Part → List Char
  | .text cs => cs
  | .tag inside => '[' :: (inside ++ [']'])

theorem flatMap_shown_of_isText {ps : List Part} (h : ∀ p ∈ ps, p.IsText) :
    ps.flatMap Part.shown = (ps.map Part.chars).flatMap shownText := by
  rw [List.flatMap_map]
  refine List.flatMap_congr fun p hp => ?_
  cases p with
  | text cs => rfl
  | tag inside => exact (h _ hp).elim

/-! ## Tags in order -/

/-- Whatever is shown when it ends, the tag leaves no broken span. -/
def OpenTag.IsSound (t : OpenTag) : Prop := ∀ stop, t.brokenSpan stop = []

theorem brokenSpans_tag {position : Nat} {opened next : List OpenTag} {inside : List Char}
    (h : afterTag position opened inside = .ok (next, [])) (ps : List Part) :
    brokenSpans position opened (.tag inside :: ps) = brokenSpans position next ps := by
  rw [brokenSpans, h]
  show (brokenSpans position next ps >>= fun spans => pure ([] ++ spans)) = _
  simp

theorem brokenSpans_of_isText {ps : List Part} {opened : List OpenTag} (h : ∀ p ∈ ps, p.IsText)
    (hopened : ∀ t ∈ opened, t.IsSound) (position : Nat) :
    brokenSpans position opened ps = .ok [] := by
  induction ps generalizing position with
  | nil =>
    refine congrArg Except.ok (List.flatMap_eq_nil_iff.2 fun t ht => hopened t ht position)
  | cons p rest ih =>
    obtain ⟨hp, hrest⟩ := List.forall_mem_cons.1 h
    cases p with
    | tag inside => exact hp.elim
    | text cs => exact ih hrest _

theorem render_of_brokenSpans {s : String} (h : brokenSpans 0 [] (parts s.toList) = .ok []) :
    render s = .ok (String.ofList (expandTabs 0 ((parts s.toList).flatMap Part.shown))) := by
  rw [render, h]
  rfl

/-- The inside of a tag that names a style, with or without the slash that closes it. -/
structure IsStyle (name : List Char) : Prop where
  opens : IsInside name
  closes : IsInside ('/' :: name)
  plain : name.head? ≠ some '/' ∧ name.head? ≠ some '@' ∧ '=' ∉ name
  strip_eq : Text.strip (String.ofList name) = String.ofList name
  styleName_eq : styleName (String.ofList name) = .ok (String.ofList name)

theorem isStyle_red : IsStyle "red".toList :=
  ⟨@isInside_of_eq _ "ed".toList 'r' rfl (by decide) (by decide),
    @isInside_of_eq _ "red".toList '/' rfl (by decide) (by decide), by decide, by decide +kernel,
    by decide +kernel⟩

theorem isStyle_green : IsStyle "green".toList :=
  ⟨@isInside_of_eq _ "reen".toList 'g' rfl (by decide) (by decide),
    @isInside_of_eq _ "green".toList '/' rfl (by decide) (by decide), by decide,
    by decide +kernel, by decide +kernel⟩

theorem isStyle_cyan : IsStyle "cyan".toList :=
  ⟨@isInside_of_eq _ "yan".toList 'c' rfl (by decide) (by decide),
    @isInside_of_eq _ "cyan".toList '/' rfl (by decide) (by decide), by decide, by decide +kernel,
    by decide +kernel⟩

/-- The tag that is open after the tag of a style. -/
def openStyle (name : List Char) (start : Nat) : OpenTag := ⟨String.ofList name, none, start⟩

namespace IsStyle

variable {name : List Char}

theorem takeWhile_eq (h : IsStyle name) : name.takeWhile (· != '=') = name := by
  rw [List.takeWhile_eq_self_iff]
  intro c hc
  rw [bne_iff_ne]
  rintro rfl
  exact h.plain.2.2 hc

theorem isSound (h : IsStyle name) (start : Nat) : (openStyle name start).IsSound := by
  intro stop
  rw [OpenTag.brokenSpan]
  show (if (styleName (String.ofList name)).isOk = true then _ else _) = _
  rw [h.styleName_eq]
  rfl

theorem afterTag_open (h : IsStyle name) (position : Nat) :
    afterTag position [] name = .ok ([openStyle name position], []) := by
  rw [afterTag]
  simp only [h.takeWhile_eq]
  split
  · exact absurd rfl h.plain.1
  · rw [tagName, h.styleName_eq, List.drop_length]
    rfl

theorem afterTag_close (h : IsStyle name) (start position : Nat) :
    afterTag position [openStyle name start] ('/' :: name) = .ok ([], []) := by
  have hne : (String.ofList name).isEmpty = false := by
    obtain ⟨c, tail, rfl, -⟩ := h.opens
    simp
  have hclosed : closed? (String.ofList name) [openStyle name start] =
      .ok (some (openStyle name start, [])) := by
    rw [closed?, hne, tagName, h.styleName_eq]
    show Except.ok (if String.ofList name = String.ofList name then _ else _) = _
    rw [if_pos rfl]
  have hclose : (openStyle name start).close position = .ok [] := by
    rw [OpenTag.close, if_neg, h.isSound start]
    show ¬ (String.ofList name).toList.head? = some '@'
    rw [String.toList_ofList]
    exact h.plain.2.1
  have htake : ('/' :: name).takeWhile (· != '=') = '/' :: name := by
    rw [List.takeWhile_cons_of_pos (by decide), h.takeWhile_eq]
  rw [afterTag]
  simp only [htake, h.strip_eq, hclosed]
  show (((openStyle name start).close position) >>= fun spans => pure ([], spans)) = _
  rw [hclose]
  rfl

end IsStyle

theorem partsFrom_append {word cs : List Char} (hne : word ≠ []) (hbracket : '[' ∉ word)
    (hslash : '\\' ∉ word) (hcs : (partsFrom 0 cs).1 = false) :
    partsFrom 0 (word ++ cs) = (true, .text word :: (partsFrom 0 cs).2) := by
  induction word with
  | nil => exact absurd rfl hne
  | cons c rest ih =>
    obtain ⟨hc, hrest⟩ := not_or.1 (mt List.mem_cons.2 hbracket)
    obtain ⟨hc', hrest'⟩ := not_or.1 (mt List.mem_cons.2 hslash)
    rw [List.cons_append, partsFrom_char (liveTag?_of_ne_of_ne (Ne.symm hc') (Ne.symm hc) _)]
    cases rest with
    | nil =>
      rw [List.nil_append, hcs]
      rfl
    | cons d more =>
      rw [ih (List.cons_ne_nil d more) hrest hrest']
      rfl

theorem expandTabs_cons {c : Char} (hfeed : c ≠ '\n') (htab : c ≠ '\t') (column : Nat)
    (rest : List Char) :
    expandTabs column (c :: rest) = c :: expandTabs (column + Text.width c) rest := by
  rw [expandTabs]
  · exact hfeed
  · exact htab

theorem expandTabs_append {word : List Char} (htab : '\t' ∉ word) (column : Nat)
    (cs : List Char) : ∃ n, expandTabs column (word ++ cs) = word ++ expandTabs n cs := by
  induction word generalizing column with
  | nil => exact ⟨column, rfl⟩
  | cons c rest ih =>
    obtain ⟨hc, hrest⟩ := not_or.1 (mt List.mem_cons.2 htab)
    by_cases hfeed : c = '\n'
    · obtain ⟨n, hn⟩ := ih hrest 0
      refine ⟨n, ?_⟩
      rw [hfeed, List.cons_append, expandTabs, hn]
      rfl
    · obtain ⟨n, hn⟩ := ih hrest (column + Text.width c)
      refine ⟨n, ?_⟩
      rw [List.cons_append, expandTabs_cons hfeed (Ne.symm hc), hn]
      rfl

/-- A word that a console shows as it is. -/
structure IsHeading (word : List Char) : Prop where
  ne_nil : word ≠ []
  plain : ∀ c ∈ ['[', '\\', '\t', '\n'], c ∉ word
  shown : shownText word = word

theorem toList_report (kind message : String) :
    ("[red]" ++ kind ++ ":[/red] " ++ escape message).toList =
      tagged 0 "red".toList ((kind.toList ++ [':']) ++
        tagged 0 ('/' :: "red".toList) (' ' :: (escape message).toList)) := by
  simp [tagged]

/-- **Reports.** A report of any message has no fault, and it begins with its kind. -/
theorem render_report {kind : String} (h : IsHeading (kind.toList ++ [':'])) (message : String) :
    ∃ t, render ("[red]" ++ kind ++ ":[/red] " ++ escape message) = .ok (kind ++ ":" ++ t) := by
  have hguarded : Guarded (' ' :: (escape message).toList) :=
    .char (liveTag?_of_ne_of_ne (by decide) (by decide) _) (guarded_escape message)
  have hclosed := partsFrom_tagged isStyle_red.closes 0 (' ' :: (escape message).toList)
  have hparts : parts ("[red]" ++ kind ++ ":[/red] " ++ escape message).toList =
      .tag "red".toList :: .text (kind.toList ++ [':']) :: .tag ('/' :: "red".toList) ::
        parts (' ' :: (escape message).toList) := by
    rw [toList_report, parts, partsFrom_tagged isStyle_red.opens,
      partsFrom_append h.ne_nil (h.plain '[' (by simp)) (h.plain '\\' (by simp))
        (by rw [hclosed]), hclosed]
    rfl
  have hsound : brokenSpans 0 [] (parts ("[red]" ++ kind ++ ":[/red] " ++ escape message).toList) =
      .ok [] := by
    rw [hparts, brokenSpans_tag (isStyle_red.afterTag_open 0), brokenSpans,
      brokenSpans_tag (isStyle_red.afterTag_close 0 _)]
    exact brokenSpans_of_isText hguarded.isText (by simp) _
  have hshown : (parts ("[red]" ++ kind ++ ":[/red] " ++ escape message).toList).flatMap
      Part.shown = (kind.toList ++ [':']) ++
        (parts (' ' :: (escape message).toList)).flatMap Part.shown := by
    rw [hparts]
    simp only [List.flatMap_cons, Part.shown, h.shown, List.nil_append]
  obtain ⟨n, hn⟩ := expandTabs_append (h.plain '\t' (by simp)) 0
    ((parts (' ' :: (escape message).toList)).flatMap Part.shown)
  refine ⟨String.ofList (expandTabs n ((parts (' ' :: (escape message).toList)).flatMap
    Part.shown)), ?_⟩
  rw [render_of_brokenSpans hsound, hshown, hn]
  simp [String.ofList_append, String.append_assoc]

/-- The parts are text, but for the last one, which may be a tag with the given inside. -/
def TextBefore (inside : List Char) (ps : List Part) : Prop :=
  (∀ p ∈ ps, p.IsText) ∨ ∃ ts, (∀ p ∈ ts, p.IsText) ∧ ps = ts ++ [.tag inside]

theorem textBefore_tagParts (k : Nat) (inside : List Char) :
    TextBefore inside (tagParts k inside) := by
  unfold tagParts
  split <;> split
  · exact .inl (by simp [Part.IsText])
  · exact .inr ⟨[], by simp, rfl⟩
  · exact .inl (by simp [Part.IsText])
  · exact .inr ⟨_, by simp [Part.IsText], rfl⟩

theorem TextBefore.consText {inside : List Char} {ps : List Part} (h : TextBefore inside ps)
    (c : Char) (joined : Bool) : TextBefore inside (consText c joined ps) := by
  obtain h | ⟨ts, hts, rfl⟩ := h
  · exact .inl (isText_of_mem_consText h)
  · refine .inr ⟨Console.consText c joined ts, isText_of_mem_consText hts, ?_⟩
    cases joined with
    | false => rfl
    | true =>
      cases ts with
      | nil => rfl
      | cons p rest => cases p <;> rfl

/-- A text without brackets before a tag makes no other tag. -/
theorem textBefore_parts {inside : List Char} (h : IsInside inside) {body : List Char}
    (hbody : '[' ∉ body) : TextBefore inside (parts (body ++ tagged 0 inside [])) := by
  unfold parts
  induction body with
  | nil =>
    rw [List.nil_append, partsFrom_tagged h]
    exact .inr ⟨[], by simp, rfl⟩
  | cons c rest ih =>
    obtain ⟨-, hrest⟩ := not_or.1 (mt List.mem_cons.2 hbody)
    cases hlive : liveTag? (c :: (rest ++ tagged 0 inside [])) with
    | none =>
      rw [List.cons_append, partsFrom_char hlive]
      exact (ih hrest).consText _ _
    | some found =>
      -- the bracket of the tag is the first one, so that all before it are backslashes
      obtain ⟨-, k, tail, hcs⟩ := exists_of_liveTag? hlive
      have hafter : '[' ∉ inside ++ [']'] := by simp [h.bracket_not_mem]
      rw [← List.cons_append, tagged, tagged, List.replicate_zero, List.nil_append,
        List.append_cons_inj_of_notMem hbody hafter] at hcs
      have hall : (c :: rest) ++ tagged 0 inside [] = tagged k inside [] := by
        rw [hcs.1]
        rfl
      rw [hall, partsFrom_tagged h]
      show TextBefore inside (tagParts k inside ++ [])
      rw [List.append_nil]
      exact textBefore_tagParts k inside

/-- Parts whose last one may close the open tag leave no broken span. -/
theorem brokenSpans_of_textBefore {name : List Char} (h : IsStyle name) {ps : List Part}
    (hps : TextBefore ('/' :: name) ps) (start position : Nat) :
    brokenSpans position [openStyle name start] ps = .ok [] := by
  obtain hps | ⟨ts, hts, rfl⟩ := hps
  · exact brokenSpans_of_isText hps (by simpa using h.isSound start) position
  · induction ts generalizing position with
    | nil => exact brokenSpans_tag (h.afterTag_close start position) []
    | cons p rest ih =>
      obtain ⟨hp, hrest⟩ := List.forall_mem_cons.1 hts
      cases p with
      | tag inside => exact hp.elim
      | text cs => exact ih _ hrest

theorem parts_tagged {inside : List Char} (h : IsInside inside) (tail : List Char) :
    parts (tagged 0 inside tail) = .tag inside :: parts tail := by
  rw [parts, partsFrom_tagged h]
  rfl

/-- A text between the tags of a style has its tags in order if it holds no bracket. -/
theorem brokenSpans_of_isStyle {name body : List Char} (h : IsStyle name) (hbody : '[' ∉ body)
    (position : Nat) :
    brokenSpans position [] (parts (tagged 0 name (body ++ tagged 0 ('/' :: name) []))) =
      .ok [] := by
  rw [parts_tagged h.opens, brokenSpans_tag (h.afterTag_open position)]
  exact brokenSpans_of_textBefore h (textBefore_parts h.closes hbody) position position

theorem toList_green (body : String) :
    ("[green]" ++ body ++ "[/green]").toList =
      tagged 0 "green".toList (body.toList ++ tagged 0 ('/' :: "green".toList) []) := by
  simp [tagged]

/-- **Tagged lines.** A line in one pair of tags has no fault if it holds no bracket. -/
theorem render_green {body : String} (h : '[' ∉ body.toList) :
    ∃ t, render ("[green]" ++ body ++ "[/green]") = .ok t := by
  refine ⟨_, render_of_brokenSpans ?_⟩
  rw [toList_green]
  exact brokenSpans_of_isStyle isStyle_green h 0

/-- The same holds when text without marks stands in front. -/
theorem render_cyan {before body : String} (hne : before.toList ≠ [])
    (hbracket : '[' ∉ before.toList) (hslash : '\\' ∉ before.toList) (h : '[' ∉ body.toList) :
    ∃ t, render (before ++ "[cyan]" ++ body ++ "[/cyan]") = .ok t := by
  have hline : (before ++ "[cyan]" ++ body ++ "[/cyan]").toList = before.toList ++
      tagged 0 "cyan".toList (body.toList ++ tagged 0 ('/' :: "cyan".toList) []) := by
    simp [tagged]
  have hfront := partsFrom_tagged isStyle_cyan.opens 0
    (body.toList ++ tagged 0 ('/' :: "cyan".toList) [])
  refine ⟨_, render_of_brokenSpans ?_⟩
  rw [hline, parts, partsFrom_append hne hbracket hslash (by rw [hfront])]
  exact brokenSpans_of_isStyle isStyle_cyan h _

/-! ## Fronts of lines -/

end Firewall.Console
