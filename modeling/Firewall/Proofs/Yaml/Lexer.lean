import Mathlib.Data.List.TakeWhile
import Firewall.Proofs.Failure
import Firewall.Yaml.Lexer

/-!
# Faults of tokens

`Token.ofText_spec`: the tokens of a text end with the text, or because it is malformed, or because
a number in it is too large: the code point of an escape, or a version. A scalar among them is torn
only if the text has an escape of a surrogate.

All readers work at places in the text, so that what they find there stands in the text.
-/

namespace Firewall.Yaml

/-! ## Places in a text -/

namespace Cursor

variable {cs : List Char} {c : Cursor}

theorem rest_next (c : Cursor) : c.next.rest = c.rest.tail := by
  unfold next
  split
  · next h => rw [h, List.tail_nil]
  · next rest h => rw [h, List.tail_cons]
  · next ch rest _ h =>
    rw [h, List.tail_cons]
    split
    · rfl
    · split <;> rfl

theorem rest_advance (c : Cursor) (n : Nat) : (c.advance n).rest = c.rest.drop n := by
  induction n generalizing c with
  | zero => rfl
  | succ n ih => rw [advance, ih, rest_next, List.drop_tail]

theorem rest_of_peek {ch : Char} (h : c.peek = some ch) : c.rest = ch :: c.next.rest := by
  obtain ⟨rest, hrest⟩ := List.head?_eq_some_iff.1 h
  rw [rest_next, hrest, List.tail_cons]

theorem run_append_rest_skip (c : Cursor) (p : Char → Bool) :
    c.run p ++ (c.skip p).rest = c.rest := by
  rw [skip, rest_advance]
  exact List.prefix_iff_eq_append.1 (List.takeWhile_prefix p)

def In (cs : List Char) (c : Cursor) : Prop := c.rest <:+ cs

namespace In

theorem start (cs : List Char) : (Cursor.start cs).In cs := List.suffix_refl cs

theorem advance (h : c.In cs) (n : Nat) : (c.advance n).In cs := by
  rw [In, rest_advance]
  exact (List.drop_suffix n c.rest).trans h

theorem next (h : c.In cs) : c.next.In cs := h.advance 1

theorem skip (h : c.In cs) (p : Char → Bool) : (c.skip p).In cs := h.advance _

theorem skipComment (h : c.In cs) : c.skipComment.In cs := by
  unfold Cursor.skipComment
  split
  · exact h.skip _
  · exact h

theorem takeBreak? (h : c.In cs) {b : Char} {c' : Cursor} (hb : c.takeBreak? = some (b, c')) :
    c'.In cs := by
  unfold Cursor.takeBreak? at hb
  split at hb
  · cases hb
    exact h.advance 2
  · split at hb
    · cases hb
      exact h.next
    · split at hb
      · cases hb
        exact h.next
      · cases hb
  · cases hb

theorem skipBreak (h : c.In cs) : c.skipBreak.In cs := by
  unfold Cursor.skipBreak
  cases hb : c.takeBreak? with
  | none => exact h
  | some r => exact h.takeBreak? hb

end In

end Cursor

/-! ## What is too large in a text -/

/-- The text has an escape of a code point. -/
def HasEscape (cs : List Char) (n : Nat) : Prop :=
  ∃ (letter : Char) (width : Nat) (ds : List Char), (letter, width) ∈ codeEscapes ∧
    ds.length = width ∧ hexValue? ds = some n ∧ '\\' :: letter :: ds <:+: cs

/-- The text has an escape of a surrogate. -/
def HasSurrogate (cs : List Char) : Prop := ∃ n, HasEscape cs n ∧ 0xD800 ≤ n ∧ n < 0xE000

/-- The text has a number that is too large: the code point of an escape, or a part of a version. -/
inductive TooLarge (cs : List Char) : ScalarFault → Prop
  | code {n : Nat} (h : HasEscape cs n) (hlarge : 0x110000 ≤ n) : TooLarge cs .codeTooLarge
  | overflow {n : Nat} (h : HasEscape cs n) (hlarge : 0x80000000 ≤ n) : TooLarge cs .codeOverflow
  | version {between ds : List Char} (h : "%YAML".toList ++ between ++ ds <:+: cs)
      (hdigits : ∀ d ∈ ds, d.isDigit = true) (hlarge : Number.maxDigits < ds.length) :
      TooLarge cs .notNumber

/-- The faults of readers of a text. -/
def Lexical (cs : List Char) (g : Fault) : Prop :=
  g = .malformed ∨ ∃ f, g = .scalar f ∧ TooLarge cs f

theorem lexical_malformed (cs : List Char) : Lexical cs .malformed := .inl rfl

/-- A token of a text is torn only by an escape of a surrogate. -/
def Token.In (cs : List Char) (t : Token) : Prop := t.isTorn = true → HasSurrogate cs

theorem Token.In.of_isTorn {cs : List Char} {t : Token} (h : t.isTorn = false) : t.In cs := by
  intro ht
  rw [h] at ht
  cases ht

/-- The reader ends at a place in the text, and has no faults but those of readers. -/
abbrev Reads {α : Type} (cs : List Char) (x : Except Fault (α × Cursor)) : Prop :=
  Gives (Lexical cs) (fun r => r.2.In cs) x

variable {cs : List Char} {c : Cursor}

theorem reads_malformed {α : Type} : Reads cs (.error .malformed : Except Fault (α × Cursor)) :=
  .error (lexical_malformed cs)

/-! ## Quoted scalars -/

theorem gives_charOfCode {n : Nat} (h : HasEscape cs n) :
    Gives (Lexical cs) (fun o => o = none → HasSurrogate cs) (charOfCode n) := by
  refine .ite (fun _ => .ok nofun) fun hvalid => .ite (fun hlt => .ok fun _ => ?_) fun hlarge =>
    .ite (fun _ => ?_) fun hover => ?_
  · simp only [Nat.isValidChar] at hvalid
    exact ⟨n, h, by omega, by omega⟩
  · exact .error (.inr ⟨_, rfl, .code h (by omega)⟩)
  · exact .error (.inr ⟨_, rfl, .overflow h (by omega)⟩)

/-- The digits of an escape stand after its backslash and its letter. -/
theorem gives_codeEscape {letter : Char} {width : Nat} (hwidth : (letter, width) ∈ codeEscapes)
    (h : '\\' :: letter :: c.rest <:+ cs) :
    Gives (Lexical cs) (fun o => o = none → HasSurrogate cs) (codeEscape width c) := by
  refine .ite (fun _ => .error (lexical_malformed cs)) fun hlen => ?_
  split
  · next n hn =>
    refine gives_charOfCode ⟨letter, width, c.rest.take width, hwidth, ?_, hn, ?_⟩
    · have := List.length_take_le width c.rest
      omega
    · exact List.IsInfix.trans ⟨[], c.rest.drop width, by simp⟩ h.isInfix
  · exact .error (lexical_malformed cs)

theorem reads_emptyLines (n : Nat) (h : c.In cs) : Reads cs (emptyLines n c) := by
  induction n generalizing c with
  | zero => exact reads_malformed
  | succ n ih =>
    refine .ite (fun _ => reads_malformed) fun _ => ?_
    dsimp only
    split
    · next hb => exact .map (ih ((h.skip _).takeBreak? hb)) fun _ h => h
    · exact .ok (h.skip _)

theorem reads_quotedBlanks (h : c.In cs) : Reads cs (quotedBlanks c) := by
  dsimp only [quotedBlanks]
  split
  · exact reads_malformed
  · exact .ok (h.skip _)
  · next hb => exact .map (reads_emptyLines _ ((h.skip _).takeBreak? hb)) fun _ h => h

/-- The reader of a quoted text leaves out a character only for a surrogate. -/
abbrev ReadsQuoted (cs : List Char) (x : Except Fault (List (Option Char) × Cursor)) : Prop :=
  Gives (Lexical cs) (fun r => (none ∈ r.1 → HasSurrogate cs) ∧ r.2.In cs) x

/-- What is read as characters leaves none out. -/
theorem readsQuoted_of_reads {x : Except Fault (List Char × Cursor)} (h : Reads cs x) :
    ReadsQuoted cs (x.map fun r => (r.1.map some, r.2)) :=
  h.map fun _ hr => ⟨fun hnone => by simp at hnone, hr⟩

theorem readsQuoted_escape (h : '\\' :: c.rest <:+ cs) : ReadsQuoted cs (escape c) := by
  have hin : c.In cs := (List.suffix_cons _ _).trans h
  unfold escape
  split
  · exact .error (lexical_malformed cs)
  · next ch hch =>
    split
    · exact .ok ⟨by simp, hin.next⟩
    · next _ width _ hwidth =>
      have hmem : (ch, width) ∈ codeEscapes := by
        obtain ⟨before, after, heq, -⟩ := List.lookup_eq_some_iff.1 hwidth
        rw [heq]
        simp
      refine .map (gives_codeEscape hmem ?_) fun o ho => ⟨fun hnone => ho ?_, hin.advance _⟩
      · rwa [Cursor.rest_of_peek hch] at h
      · exact (List.mem_singleton.1 hnone).symm
    · next hb => exact readsQuoted_of_reads (reads_emptyLines _ (hin.takeBreak? hb))
    · exact .error (lexical_malformed cs)

theorem readsQuoted_quotedRest (q : Quote) (n : Nat) (h : c.In cs) :
    ReadsQuoted cs (quotedRest q n c) := by
  induction n generalizing c with
  | zero => exact .error (lexical_malformed cs)
  | succ n ih =>
    rw [quotedRest]
    split
    · exact .error (lexical_malformed cs)
    · next ch hch =>
      have happend {part : List (Option Char)} (hpart : none ∈ part → HasSurrogate cs)
          {c : Cursor} (hc : c.In cs) :
          ReadsQuoted cs (quotedRest q n c >>= fun r => return (part ++ r.1, r.2)) :=
        (ih hc).bind fun r hr =>
          .ok ⟨fun hnone => (List.mem_append.1 hnone).elim hpart hr.1, hr.2⟩
      refine .ite (fun _ => .ite (fun _ => ?_) fun _ => .ok ⟨nofun, h.next⟩) fun _ => ?_
      · exact (ih (h.advance 2)).bind fun r hr =>
          .ok ⟨fun hnone => hr.1 (by simpa using hnone), hr.2⟩
      · refine .ite (fun _ => ?_) fun _ => .ite (fun hesc => ?_) fun _ => ?_
        · exact (readsQuoted_of_reads (reads_quotedBlanks h)).bind fun r hr => happend hr.1 hr.2
        · refine (readsQuoted_escape ?_).bind fun r hr => happend hr.1 hr.2
          rw [← hesc.2, ← Cursor.rest_of_peek hch]
          exact h
        · exact happend (by simp) h.next

/-- The reader of a token ends at a place in the text, and its token is one of the text. -/
abbrev ReadsToken (cs : List Char) (x : Except Fault (Token × Cursor)) : Prop :=
  Gives (Lexical cs) (fun r => r.1.In cs ∧ r.2.In cs) x

theorem readsToken_quotedScalar (q : Quote) (h : c.In cs) : ReadsToken cs (quotedScalar q c) :=
  (readsQuoted_quotedRest q _ h.next).map fun _ hr =>
    ⟨fun htorn => hr.1 (List.contains_iff_mem.1 htorn), hr.2⟩

/-! ## Anchors and tags -/

theorem gives_finishLine (h : c.In cs) : Gives (Lexical cs) (Cursor.In cs) c.finishLine :=
  .ite (fun _ => .ok (h.skip _).skipComment.skipBreak) fun _ => .error (lexical_malformed cs)

theorem reads_anchorName (h : c.In cs) : Reads cs (anchorName c) :=
  .ite (fun _ => reads_malformed) fun _ =>
    .ite (fun _ => .ok (h.next.skip _)) fun _ => reads_malformed

theorem reads_readTagName (h : c.In cs) : Reads cs (readTagName c) := by
  unfold readTagName
  split
  · exact .ite (fun _ => reads_malformed) fun _ => .ok (h.advance _)
  · exact reads_malformed

theorem reads_readHandle (h : c.In cs) : Reads cs (readHandle c) :=
  .ite (fun _ => reads_malformed) fun _ => .ite (fun _ => .ok h.next) fun _ =>
    .ite (fun _ => .ok (h.advance _)) fun _ => reads_malformed

theorem reads_readTag (h : c.In cs) : Reads cs (readTag c) := by
  have hend {r : WrittenTag × Cursor} (hr : r.2.In cs) : Reads cs
      (if endsName r.2.peek then return (r.1, r.2) else throw .malformed) :=
    .ite (fun _ => .ok hr) fun _ => reads_malformed
  refine .ite (fun _ => ?_) fun _ => .ite (fun _ => ?_) fun _ => ?_
  · refine (reads_readTagName (h.advance 2)).bind fun r hr => .ite (fun _ => ?_) fun _ => ?_
    · exact .bind (.ok hr.next) fun r hr => hend hr
    · exact .bind reads_malformed fun r hr => hend hr
  · exact hend (r := (.whole "!", c.next)) h.next
  · refine .ite (fun _ => (reads_readHandle h).bind fun r hr => ?_) fun _ =>
      .bind (Q := fun r => r.2.In cs) (.ok h.next) fun r hr => ?_
    all_goals exact (reads_readTagName hr).bind fun r hr => .bind (.ok hr) fun r hr => hend hr

/-! ## Instructions -/

/-- The cursor stands somewhere after the sign of a version. -/
def AfterVersion (cs : List Char) (c : Cursor) : Prop :=
  ∃ between, "%YAML".toList ++ between ++ c.rest <:+ cs

theorem AfterVersion.advance (h : AfterVersion cs c) (n : Nat) : AfterVersion cs (c.advance n) := by
  obtain ⟨between, h⟩ := h
  refine ⟨between ++ c.rest.take n, ?_⟩
  rwa [Cursor.rest_advance, ← List.append_assoc, List.append_assoc, List.take_append_drop]

theorem gives_readNumber (h : AfterVersion cs c) :
    Gives (Lexical cs) (fun r => AfterVersion cs r.2) (readNumber c) := by
  refine .ite (fun _ => .error (lexical_malformed cs)) fun _ => .ite (fun hlarge => ?_) fun _ =>
    .ok (h.advance _)
  obtain ⟨between, h⟩ := h
  have hin : "%YAML".toList ++ between ++ c.run Char.isDigit <:+: cs := by
    refine List.IsInfix.trans ⟨[], (c.skip Char.isDigit).rest, ?_⟩ h.isInfix
    rw [List.nil_append, List.append_assoc, Cursor.run_append_rest_skip]
  exact .error (.inr ⟨_, rfl, .version hin (fun d hd => List.mem_takeWhile_imp hd) hlarge⟩)

theorem AfterVersion.isIn (h : AfterVersion cs c) : c.In cs := by
  obtain ⟨between, h⟩ := h
  exact (List.suffix_append _ _).trans h

theorem reads_readInstructionValue {name : String} (h : c.In cs)
    (hversion : name = "YAML" → AfterVersion cs c) : Reads cs (readInstructionValue name c) := by
  refine .ite (fun hname => ?_) fun _ => .ite (fun _ => ?_) fun _ => .ok (h.skip _)
  · refine (gives_readNumber ((hversion hname).advance _)).bind fun r hr =>
      .check (fun _ => lexical_malformed cs) ?_
    exact (gives_readNumber (hr.advance 1)).bind fun r hr =>
      .check (fun _ => lexical_malformed cs) (.ok hr.isIn)
  · refine (reads_readHandle (h.skip _)).bind fun r hr => .check (fun _ => lexical_malformed cs) ?_
    exact (reads_readTagName (hr.skip _)).bind fun r hr =>
      .check (fun _ => lexical_malformed cs) (.ok hr)

theorem reads_readInstruction (h : c.In cs) (hsign : c.peek = some '%') :
    Reads cs (readInstruction c) := by
  dsimp only [readInstruction]
  refine .check (fun _ => lexical_malformed cs) ?_
  refine (reads_readInstructionValue (h.next.skip _) fun hname => ⟨[], ?_⟩).bind fun r hr =>
    (gives_finishLine hr).bind fun c hc => .ok hc
  have hrun := Cursor.run_append_rest_skip c.next isNameChar
  rw [← String.toList_ofList (l := c.next.run isNameChar), hname] at hrun
  have hrest : c.rest = "%YAML".toList ++ [] ++ (c.next.skip isNameChar).rest := by
    rw [Cursor.rest_of_peek hsign, ← hrun]
    rfl
  rw [← hrest]
  exact h

/-! ## Block scalars and plain scalars -/

theorem in_marks (h : c.In cs) : (BlockHeader.marks c).2.In cs := by
  unfold BlockHeader.marks
  split
  · split
    · exact h.advance 2
    · exact h.next
  · split
    · exact h.advance 2
    · exact h.next
  · exact h

theorem reads_blockHeader (h : c.In cs) : Reads cs (BlockHeader.read c) := by
  dsimp only [BlockHeader.read]
  exact .check (fun _ => lexical_malformed cs)
    ((gives_finishLine (in_marks h)).bind fun _ hc => .ok hc)

theorem in_leadingLines (n deepest : Nat) (h : c.In cs) : (leadingLines n deepest c).2.2.In cs := by
  induction n generalizing deepest c with
  | zero => exact h
  | succ n ih =>
    rw [leadingLines]
    dsimp only
    split
    · next hb => exact ih _ ((h.skip _).takeBreak? hb)
    · exact h.skip _

theorem in_blockBreaks (indent n : Nat) (h : c.In cs) : (blockBreaks indent n c).2.In cs := by
  induction n generalizing c with
  | zero => exact h
  | succ n ih =>
    rw [blockBreaks]
    dsimp only
    split
    · next hb => exact ih ((h.advance _).takeBreak? hb)
    · exact h.advance _

theorem in_blockLines (folded : Bool) (indent n : Nat) (breaks : List Char) (h : c.In cs) :
    (blockLines folded indent n breaks c).2.2.2.In cs := by
  induction n generalizing breaks c with
  | zero => exact h
  | succ n ih =>
    have hline : c.skipLine.skipBreak.In cs := (h.skip _).skipBreak
    have hafter := in_blockBreaks indent (c.skipLine.left + 1) hline
    rw [blockLines]
    dsimp only
    split
    · exact ih _ hafter
    · exact hafter

theorem in_blockStart (header : BlockHeader) (least : Nat) (h : c.In cs) :
    (blockStart header least c).2.2.In cs := by
  unfold blockStart
  split
  · exact in_blockBreaks _ _ h
  · exact in_leadingLines _ _ h

theorem reads_blockScalar (folded : Bool) (indent : Int) (h : c.In cs) :
    Reads cs (blockScalar folded indent c) := by
  refine (reads_blockHeader h.next).bind fun r hr => ?_
  have hstart := in_blockStart r.1 (max (indent + 1) 1).toNat hr
  dsimp only
  split
  · exact .ok (in_blockLines _ _ _ _ hstart)
  · exact .ok hstart

theorem in_plainEmptyLines (n : Nat) (h : c.In cs) : (plainEmptyLines n c).2.In cs := by
  induction n generalizing c with
  | zero => exact h
  | succ n ih =>
    rw [plainEmptyLines]
    split
    · exact h
    · dsimp only
      split
      · next hb => exact ih ((h.skip _).takeBreak? hb)
      · exact h.skip _

theorem in_plainBlanks (h : c.In cs) : (plainBlanks c).2.1.In cs := by
  dsimp only [plainBlanks]
  split
  · exact h.skip _
  · next hb => exact in_plainEmptyLines _ ((h.skip _).takeBreak? hb)

theorem in_plainParts (inFlow : Bool) (indent : Int) (n : Nat) (blanks : List Char)
    (lineEnded : Bool) (h : c.In cs) :
    (plainParts inFlow indent n blanks lineEnded c).2.1.In cs := by
  induction n generalizing blanks lineEnded c with
  | zero => exact h
  | succ n ih =>
    have hblanks := in_plainBlanks (h.advance (plainRun inFlow c.rest).length)
    rw [plainParts]
    split
    · exact h
    · dsimp only
      split
      · exact hblanks
      · exact ih _ _ hblanks

theorem in_plainScalar (inFlow : Bool) (indent : Int) (h : c.In cs) :
    (plainScalar inFlow indent c).2.1.In cs :=
  in_plainParts inFlow indent (c.left + 1) [] false h

/-! ## Tokens -/

namespace Lexer

/-- The lexer stands at a place in the text, with tokens of the text. -/
structure In (cs : List Char) (l : Lexer) : Prop where
  cursor : l.cursor.In cs
  tokens : ∀ t ∈ l.tokens, t.In cs

/-- The step leads to a lexer of the text, and has no faults but those of readers. -/
abbrev Steps (cs : List Char) (x : Except Fault Lexer) : Prop := Gives (Lexical cs) (In cs) x

variable {cs : List Char} {l : Lexer} {t : Token}

theorem In.start (cs : List Char) : (Lexer.start cs).In cs := ⟨.start cs, nofun⟩

theorem In.allowKey (h : l.In cs) (allowed : Bool) : (l.allowKey allowed).In cs :=
  ⟨h.cursor, h.tokens⟩

theorem In.push (h : l.In cs) (ht : t.In cs) : (l.push t).In cs :=
  ⟨h.cursor, List.forall_mem_cons.2 ⟨ht, h.tokens⟩⟩

theorem In.take (h : l.In cs) (size : Nat) (ht : t.In cs) : (l.take size t).In cs :=
  In.push ⟨h.cursor.advance size, h.tokens⟩ ht

theorem In.insertAt (h : l.In cs) (position : Nat) {ts : List Token} (hts : ∀ t ∈ ts, t.In cs) :
    (l.insertAt position ts).In cs := by
  refine ⟨h.cursor, fun t ht => ?_⟩
  rcases List.mem_append.1 ht with ht | ht
  · rcases List.mem_append.1 ht with ht | ht
    · exact h.tokens t (List.mem_of_mem_take ht)
    · exact hts t (List.mem_reverse.1 ht)
  · exact h.tokens t (List.mem_of_mem_drop ht)

theorem In.closeBlocks (h : l.In cs) (column : Int) : (l.closeBlocks column).In cs := by
  unfold Lexer.closeBlocks
  split
  · exact h
  · dsimp only
    split
    · exact h
    · refine ⟨h.cursor, fun t ht => ?_⟩
      rcases List.mem_append.1 ht with ht | ht
      · rw [List.eq_of_mem_replicate ht]
        exact .of_isTorn rfl
      · exact h.tokens t ht

theorem In.openBlockHere (h : l.In cs) (ht : t.In cs) : (l.openBlockHere t).In cs := by
  unfold Lexer.openBlockHere openBlock?
  split
  · next l' hl =>
    split at hl
    · cases hl
      exact In.push ⟨h.cursor, h.tokens⟩ ht
    · cases hl
  · exact h

theorem In.skipOrderMark (h : l.In cs) : l.skipOrderMark.In cs := by
  unfold Lexer.skipOrderMark
  split
  · exact ⟨h.cursor.next, h.tokens⟩
  · exact h

theorem In.skipToToken (h : l.In cs) (n : Nat) : (l.skipToToken n).In cs := by
  induction n generalizing l with
  | zero => exact h
  | succ n ih =>
    have hc : l.cursor.skipSpaces.skipComment.In cs := (h.cursor.skip _).skipComment
    rw [Lexer.skipToToken]
    split
    · next hb => exact ih ⟨hc.takeBreak? hb, h.tokens⟩
    · exact ⟨hc, h.tokens⟩

theorem cursor_closeBlocks (l : Lexer) (column : Int) :
    (l.closeBlocks column).cursor = l.cursor := by
  unfold Lexer.closeBlocks
  split
  · rfl
  · dsimp only
    split <;> rfl

/-! ### Steps -/

theorem steps_malformed : Steps cs (.error .malformed) := .error (lexical_malformed cs)

theorem steps_expire (h : l.In cs) : Steps cs l.expire :=
  .ite (fun _ => steps_malformed) fun _ => .ok ⟨h.cursor, h.tokens⟩

theorem gives_dropCandidate (h : l.In cs) :
    Gives (Lexical cs) (fun l' => l'.In cs ∧ l'.cursor = l.cursor) l.dropCandidate := by
  unfold dropCandidate
  split
  · exact .ite (fun _ => .error (lexical_malformed cs)) fun _ => .ok ⟨⟨h.cursor, h.tokens⟩, rfl⟩
  · exact .ok ⟨h, rfl⟩

theorem steps_addCandidate (h : l.In cs) : Steps cs l.addCandidate :=
  .ite (fun _ => .ok h) fun _ =>
    (gives_dropCandidate h).bind fun _ h => .ok ⟨h.1.cursor, h.1.tokens⟩

theorem steps_finish (h : l.In cs) : Steps cs l.finish :=
  (gives_dropCandidate (h.closeBlocks _)).bind fun _ h =>
    have hpush := h.1.push (.of_isTorn (t := .streamEnd) rfl)
    .ok ⟨hpush.cursor, hpush.tokens⟩

theorem steps_instruction (h : l.In cs) (hsign : l.cursor.peek = some '%') :
    Steps cs l.instruction := by
  refine (gives_dropCandidate (h.closeBlocks _)).bind fun l' hl' => ?_
  rw [cursor_closeBlocks] at hl'
  refine (reads_readInstruction hl'.1.cursor ?_).bind fun r hr => .ok ?_
  · rw [hl'.2, hsign]
  · exact In.push ⟨hr, hl'.1.tokens⟩ (.of_isTorn rfl)

theorem steps_documentMark (h : l.In cs) (ht : t.In cs) : Steps cs (l.documentMark t) := by
  refine (gives_dropCandidate (h.closeBlocks _)).bind fun l' hl => .ok (In.take ?_ 3 ht)
  exact hl.1.allowKey false

theorem steps_openFlow (h : l.In cs) (ht : t.In cs) : Steps cs (l.openFlow t) := by
  refine (steps_addCandidate h).bind fun l' hl => .ok (In.take ?_ 1 ht)
  exact ⟨hl.cursor, hl.tokens⟩

theorem steps_closeFlow (h : l.In cs) (ht : t.In cs) : Steps cs (l.closeFlow t) := by
  refine (gives_dropCandidate h).bind fun l' hl =>
    .ite (fun _ => .ok (In.take ?_ 1 ht)) fun _ => steps_malformed
  exact ⟨hl.1.cursor, hl.1.tokens⟩

theorem steps_sign (h : l.In cs) (ht : t.In cs) :
    Steps cs (do return (← l.dropCandidate).take 1 t) :=
  (gives_dropCandidate h).bind fun _ h => .ok (h.1.take 1 ht)

theorem steps_flowEntry (h : l.In cs) : Steps cs l.flowEntry :=
  steps_sign (h.allowKey true) (.of_isTorn rfl)

theorem In.openUnlessFlow (h : l.In cs) (ht : t.In cs) :
    (if l.inFlow then l else l.openBlockHere t).In cs := by
  split
  · exact h
  · exact h.openBlockHere ht

theorem steps_blockEntry (h : l.In cs) : Steps cs l.blockEntry := by
  have hopen := h.openUnlessFlow (t := .blockSequenceStart) (.of_isTorn rfl)
  dsimp only [blockEntry]
  exact .check (fun _ => lexical_malformed cs) (steps_sign (hopen.allowKey _) (.of_isTorn rfl))

theorem steps_explicitKey (h : l.In cs) : Steps cs l.explicitKey := by
  have hopen := h.openUnlessFlow (t := .blockMappingStart) (.of_isTorn rfl)
  dsimp only [explicitKey]
  exact .check (fun _ => lexical_malformed cs) (steps_sign (hopen.allowKey _) (.of_isTorn rfl))

theorem steps_mappingValue (h : l.In cs) : Steps cs l.mappingValue := by
  have hopen := h.openUnlessFlow (t := .blockMappingStart) (.of_isTorn rfl)
  unfold mappingValue
  split
  · next k _ =>
    have hkey {ts : List Token} (hts : ∀ t ∈ ts, t.isTorn = false) {l' : Lexer} (hl : l'.In cs) :
        (((l'.insertAt k.position ts).allowKey false).take 1 .value).In cs :=
      ((hl.insertAt _ fun t ht => .of_isTorn (hts t ht)).allowKey _).take 1 (.of_isTorn rfl)
    dsimp only
    split
    · next l' hl =>
      refine .ok (hkey (by simp [Token.isTorn]) ?_)
      split at hl
      · cases hl
      · unfold openBlock? at hl
        split at hl
        · cases hl
          exact ⟨h.cursor, h.tokens⟩
        · cases hl
    · exact .ok (hkey (by simp [Token.isTorn]) ⟨h.cursor, h.tokens⟩)
  · exact .check (fun _ => lexical_malformed cs) (steps_sign (hopen.allowKey _) (.of_isTorn rfl))

theorem steps_keyToken {read : Cursor → Except Fault (Token × Cursor)} (h : l.In cs)
    (hread : ∀ c, c.In cs → ReadsToken cs (read c)) : Steps cs (l.keyToken read) := by
  refine (steps_addCandidate h).bind fun l' hl => (hread _ hl.cursor).bind fun r hr =>
    .ok (In.push ?_ hr.1)
  exact ⟨hr.2, hl.tokens⟩

theorem steps_block (folded : Bool) (h : l.In cs) : Steps cs (l.block folded) := by
  refine (gives_dropCandidate (h.allowKey true)).bind fun l' hl =>
    (reads_blockScalar folded l'.indent hl.1.cursor).bind fun r hr =>
      .ok (In.push ?_ (.of_isTorn rfl))
  exact ⟨hr, hl.1.tokens⟩

theorem steps_plain (h : l.In cs) : Steps cs l.plain := by
  refine (steps_addCandidate h).bind fun l' hl => .ok (In.push ?_ (.of_isTorn rfl))
  exact ⟨in_plainScalar l'.inFlow (l'.indent + 1) hl.cursor, hl.tokens⟩

theorem steps_token (h : l.In cs) : Steps cs l.token := by
  have hname {f : String → Token} (hf : ∀ s, (f s).isTorn = false) (c : Cursor) (hc : c.In cs) :
      ReadsToken cs ((anchorName c).map fun r => (f r.1, r.2)) :=
    (reads_anchorName hc).map fun r hr => ⟨.of_isTorn (hf r.1), hr⟩
  have htag (c : Cursor) (hc : c.In cs) :
      ReadsToken cs ((readTag c).map fun r => (.tag r.1, r.2)) :=
    (reads_readTag hc).map fun r hr => ⟨.of_isTorn rfl, hr⟩
  dsimp only [token]
  split
  · exact steps_finish h
  next ch hch =>
  refine .ite (fun hsign => steps_instruction h (hsign.1 ▸ hch)) fun _ =>
    .ite (fun _ => steps_documentMark h (.of_isTorn rfl)) fun _ =>
    .ite (fun _ => steps_documentMark h (.of_isTorn rfl)) fun _ =>
    .ite (fun _ => steps_openFlow h (.of_isTorn rfl)) fun _ =>
    .ite (fun _ => steps_openFlow h (.of_isTorn rfl)) fun _ =>
    .ite (fun _ => steps_closeFlow h (.of_isTorn rfl)) fun _ =>
    .ite (fun _ => steps_closeFlow h (.of_isTorn rfl)) fun _ =>
    .ite (fun _ => steps_flowEntry h) fun _ =>
    .ite (fun _ => steps_blockEntry h) fun _ =>
    .ite (fun _ => steps_explicitKey h) fun _ =>
    .ite (fun _ => steps_mappingValue h) fun _ => ?_
  exact .ite (fun _ => steps_keyToken h (hname fun _ => rfl)) fun _ =>
    .ite (fun _ => steps_keyToken h (hname fun _ => rfl)) fun _ =>
    .ite (fun _ => steps_keyToken h htag) fun _ =>
    .ite (fun _ => steps_block _ h) fun _ =>
    .ite (fun _ => steps_block _ h) fun _ =>
    .ite (fun _ => steps_keyToken h fun _ => readsToken_quotedScalar _) fun _ =>
    .ite (fun _ => steps_keyToken h fun _ => readsToken_quotedScalar _) fun _ =>
    .ite (fun _ => steps_plain h) fun _ => steps_malformed

theorem steps_step (h : l.In cs) : Steps cs l.step :=
  (steps_expire (h.skipOrderMark.skipToToken _)).bind fun _ hl => steps_token (hl.closeBlocks _)

/-- The tokens from here on are tokens of the text, and the fault that ends them, if there is one,
is one of readers. -/
theorem run_spec (n : Nat) (h : l.In cs) :
    (∀ t ∈ (l.run n).1, t.In cs) ∧ ∀ f, (l.run n).2 = some f → Lexical cs f := by
  have hsettled {l : Lexer} (h : l.In cs) : ∀ t ∈ l.settled, t.In cs :=
    fun t ht => h.tokens t (List.mem_reverse.1 (List.mem_of_mem_take ht))
  induction n generalizing l with
  | zero => exact ⟨hsettled h, fun f hf => .inl (Option.some.inj hf).symm⟩
  | succ n ih =>
    rw [run]
    split
    · next g hg =>
      refine ⟨hsettled h, fun f hf => ?_⟩
      cases hf
      exact (steps_step h).of_eq_error hg
    · next l' hl =>
      have hin := (steps_step h).of_eq_ok hl
      split
      · exact ⟨fun t ht => hin.tokens t (List.mem_reverse.1 ht), nofun⟩
      · exact ih hin

end Lexer

/-- What is known of the tokens of a text and of the fault that ends them. -/
theorem Token.ofText_spec (cs : List Char) :
    (∀ t ∈ (Token.ofText cs).1, t.In cs) ∧ ∀ f, (Token.ofText cs).2 = some f → Lexical cs f := by
  unfold Token.ofText
  split
  · exact Lexer.run_spec _ (.start cs)
  · exact ⟨nofun, fun f hf => .inl (Option.some.inj hf).symm⟩

end Firewall.Yaml
