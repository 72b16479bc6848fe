import Firewall.Proofs.Ruleset.Pieces
import Firewall.Proofs.Ruleset.Target

/-!
# Rules read back from their words

Where all values are texts, a rule can be read back from the words of its line: from every group of
words the key, the negation and the text, and after the jump flag the target. So two rules have the
same words exactly when they state the same (`ruleTokens_eq_iff`), however their texts are put
together in lists, and although a text may look like a flag, a mark of negation or a jump.

1. A value becomes one group for each text that it lists (`Group.ofValue_eq_map`).
2. A flag tells its key (`conditionKey?_conditionFlag`, `optionKey?_optionFlag`) and is neither the
   mark of negation nor the jump flag (`ReadsFlags`).
3. With a text in every group, a reader knows at every word what it is (`readEntries_groups`).
-/

namespace Firewall

/-! ## Texts of a value -/

namespace Value

mutual

/-- Whether a value is a text, or a list or a tuple of such values. -/
def isTextual : Value → Bool
  | .str _ => true
  | .list items | .tuple items => areTextual items
  | _ => false

/-- Whether all items of a collection are texts or collections of texts. -/
def areTextual : List Value → Bool
  | [] => true
  | v :: rest => isTextual v && areTextual rest

end

mutual

/-- The texts that a value lists, from left to right. -/
def texts : Value → List String
  | .str s => [s]
  | .list items | .tuple items => textsAmong items
  | _ => []

/-- The texts that the items of a collection list, from left to right. -/
def textsAmong : List Value → List String
  | [] => []
  | v :: rest => texts v ++ textsAmong rest

end

end Value

namespace Ruleset

/-- The values of all flags are texts or collections of texts. -/
def AllTextual (fs : List Flag) : Prop := ∀ f ∈ fs, f.value.isTextual = true

instance : DecidablePred AllTextual := fun fs => by unfold AllTextual; infer_instance

/-! ## Entries -/

/-- What a rule states under one key: a text, plainly or negated. -/
structure Entry where
  key : String
  negated : Bool
  text : String
  deriving DecidableEq, Repr

namespace Entry

/-- The entry of a text. After an exclamation mark and a space it is negated and stripped. -/
def ofText (key text : String) : Entry :=
  match text.toList with
  | '!' :: ' ' :: rest => ⟨key, true, Text.strip (String.ofList rest)⟩
  | _ => ⟨key, false, text⟩

/-- The group of an entry, given the flags of keys. -/
def group (flagOf : String → String) (e : Entry) : Group := ⟨e.negated, flagOf e.key, some e.text⟩

theorem group_ofText (flagOf : String → String) (key text : String) :
    (ofText key text).group flagOf = Group.ofText (flagOf key) text := by
  unfold ofText
  split
  case h_1 rest h =>
    rw [Group.ofText, h]
    rfl
  case h_2 h =>
    rw [Group.ofText]
    split
    case h_1 rest ht => exact absurd ht (h rest)
    case h_2 => rfl

end Entry

/-- The entries of flags: one for each text that a value lists. -/
def entries (fs : List Flag) : List Entry :=
  fs.flatMap fun f => f.value.texts.map (Entry.ofText f.key)

theorem Group.ofValue_eq_map {flag : String} (v : Value) :
    v.isTextual = true → ofValue flag v = v.texts.map (ofText flag) := by
  refine ofValue.induct (fun v => v.isTextual = true → ofValue flag v = v.texts.map (ofText flag))
    (fun vs => Value.areTextual vs = true →
      ofValues flag vs = (Value.textsAmong vs).map (ofText flag))
    ?null ?alone ?list ?tuple ?scalar ?nil ?cons v
  case null => exact fun h => absurd h Bool.false_ne_true
  case alone => exact fun h => absurd h Bool.false_ne_true
  case list =>
    intro items ih h
    rw [Value.isTextual] at h
    rw [ofValue, Value.texts, ih h]
  case tuple =>
    intro items ih h
    rw [Value.isTextual] at h
    rw [ofValue, Value.texts, ih h]
  case scalar =>
    intro v hnull htrue hlist htuple h
    cases v with
    | str s => rfl
    | list items => exact absurd rfl (hlist items)
    | tuple items => exact absurd rfl (htuple items)
    | _ => simp [Value.isTextual] at h
  case nil => exact fun _ => rfl
  case cons =>
    intro v rest hv hrest h
    rw [Value.areTextual, Bool.and_eq_true] at h
    rw [ofValues, Value.textsAmong, hv h.1, hrest h.2, List.map_append]

theorem flatMap_ofValue_eq (flagOf : String → String) {fs : List Flag} (h : AllTextual fs) :
    (fs.flatMap fun f => Group.ofValue (flagOf f.key) f.value) =
      (entries fs).map (Entry.group flagOf) := by
  rw [entries, List.map_flatMap]
  refine List.flatMap_congr fun f hf => ?_
  rw [Group.ofValue_eq_map f.value (h f hf), List.map_map]
  exact List.map_congr_left fun s _ => (Entry.group_ofText flagOf f.key s).symm

theorem conditionGroups_eq {fs : List Flag} (h : AllTextual fs) :
    conditionGroups fs = (entries fs).map (Entry.group conditionFlag) :=
  flatMap_ofValue_eq conditionFlag h

theorem optionGroups_eq {fs : List Flag} (h : AllTextual fs) :
    optionGroups fs = (entries fs).map (Entry.group optionFlag) :=
  flatMap_ofValue_eq optionFlag h

/-! ## Keys of flags -/

/-- The key of the flag of an option. -/
def optionKey? (flag : String) : Option String :=
  match flag.toList with
  | '-' :: '-' :: key => some (String.ofList key)
  | _ => none

def conditionKey? (flag : String) : Option String :=
  ((knownFlags.find? (·.2 == flag)).map (·.1)).or (optionKey? flag)

/-- A reader of keys undoes the writing of flags, and no flag looks like the mark of negation or
like a jump. -/
structure ReadsFlags (key? : String → Option String) (flagOf : String → String) : Prop where
  key_flag : ∀ key, key? (flagOf key) = some key
  flag_ne_jump : ∀ key, flagOf key ≠ "-j"
  flag_ne_negation : ∀ key, flagOf key ≠ "!"

theorem optionKey?_optionFlag (key : String) : optionKey? (optionFlag key) = some key := by
  simp [optionKey?, optionFlag]

/-- No flag of an option is a dash and a letter. -/
theorem optionFlag_ne_jump (key : String) : optionFlag key ≠ "-j" := by
  intro h
  have := congrArg optionKey? h
  rw [optionKey?_optionFlag] at this
  cases this

/-- A flag of a well-known condition that could be the flag of an option is that of its own key. -/
theorem knownFlags_keys : ∀ e ∈ knownFlags, ∀ key ∈ optionKey? e.2, key = e.1 := by
  decide +kernel

theorem conditionKey?_conditionFlag (key : String) :
    conditionKey? (conditionFlag key) = some key := by
  have hknown : ∀ e ∈ knownFlags, conditionKey? e.2 = some e.1 := by decide +kernel
  unfold conditionFlag
  cases hl : knownFlags.lookup key with
  | some flag =>
    obtain ⟨l, r, he, -⟩ := List.lookup_eq_some_iff.1 hl
    exact hknown (key, flag) (by simp [he])
  | none =>
    rw [Option.getD_none, conditionKey?, optionKey?_optionFlag]
    cases hf : knownFlags.find? (·.2 == optionFlag key) with
    | none => rfl
    | some e =>
      have hflag : e.2 = optionFlag key := by simpa using List.find?_some hf
      have hkey : key = e.1 := knownFlags_keys e (List.mem_of_find?_eq_some hf) key (by
        rw [hflag, optionKey?_optionFlag]
        rfl)
      rw [hkey]
      rfl

theorem conditionFlag_ne_jump (key : String) : conditionFlag key ≠ "-j" := by
  intro h
  have hkey := conditionKey?_conditionFlag key
  have hjump : conditionKey? "-j" = none := by decide +kernel
  rw [h, hjump] at hkey
  cases hkey

theorem ne_negation_of_beginsWithDash {flag : String} (h : BeginsWithDash flag) : flag ≠ "!" := by
  rintro rfl
  unfold BeginsWithDash at h
  exact absurd h (by decide)

theorem readsFlags_condition : ReadsFlags conditionKey? conditionFlag where
  key_flag := conditionKey?_conditionFlag
  flag_ne_jump := conditionFlag_ne_jump
  flag_ne_negation := fun key => ne_negation_of_beginsWithDash (beginsWithDash_conditionFlag key)

theorem readsFlags_option : ReadsFlags optionKey? optionFlag where
  key_flag := optionKey?_optionFlag
  flag_ne_jump := optionFlag_ne_jump
  flag_ne_negation := fun key => ne_negation_of_beginsWithDash (beginsWithDash_optionFlag key)

/-! ## Reading groups -/

/-- The text that a word of a line holds. -/
def unword? (w : String) : Option String :=
  match readWords w with
  | [text] => some text
  | _ => none

theorem unword?_word (s : String) : unword? (word s) = some s := by
  have h : readWords (word s) = [s] := by
    rw [readWords, readWordsBy, toList_word, (readsBackBy_word s.toList).1, List.map_singleton,
      String.ofList_toList]
  rw [unword?, h]

/-- What comes next in the words of a rule: a flag, after a mark of negation or not, or the word of
a flag with this key. -/
inductive Expected where
  | flag (negated : Bool)
  | word (negated : Bool) (key : String)

/-- The entries of the words of a rule up to a jump flag in the place of a flag, and the words from
there on. -/
def readEntries (key? : String → Option String) :
    Expected → List String → Option (List Entry × List String)
  | .flag negated, [] => if negated then none else some ([], [])
  | .word _ _, [] => none
  | .flag true, t :: rest => do readEntries key? (.word true (← key? t)) rest
  | .flag false, t :: rest =>
    if t = "-j" then some ([], t :: rest)
    else if t = "!" then readEntries key? (.flag true) rest
    else do readEntries key? (.word false (← key? t)) rest
  | .word negated key, t :: rest => do
    let text ← unword? t
    let (es, rest) ← readEntries key? (.flag false) rest
    return (⟨key, negated, text⟩ :: es, rest)

variable {key? : String → Option String} {flagOf : String → String}

/-- The words of a group read back to its entry. -/
theorem readEntries_group (h : ReadsFlags key? flagOf) (e : Entry) (rest : List String) :
    readEntries key? (.flag false) ((e.group flagOf).tokens ++ rest) =
      (readEntries key? (.flag false) rest).map fun r => (e :: r.1, r.2) := by
  rcases e with ⟨key, negated, text⟩
  have hword : ∀ negated, readEntries key? (.word negated key) (word text :: rest) =
      (readEntries key? (.flag false) rest).map fun r => (⟨key, negated, text⟩ :: r.1, r.2) := by
    intro negated
    rw [readEntries, unword?_word]
    cases readEntries key? (.flag false) rest <;> rfl
  cases negated with
  | true =>
    show readEntries key? (.flag false) ("!" :: flagOf key :: word text :: rest) = _
    rw [readEntries, if_neg (by decide), if_pos rfl, readEntries, h.key_flag, Option.bind_eq_bind,
      Option.bind_some, hword]
  | false =>
    show readEntries key? (.flag false) (flagOf key :: word text :: rest) = _
    rw [readEntries, if_neg (h.flag_ne_jump key), if_neg (h.flag_ne_negation key), h.key_flag,
      Option.bind_eq_bind, Option.bind_some, hword]

/-- The words of groups read back to their entries, and the words after them are read on. -/
theorem readEntries_groups (h : ReadsFlags key? flagOf) (es : List Entry) (rest : List String) :
    readEntries key? (.flag false) ((es.map (Entry.group flagOf)).flatMap Group.tokens ++ rest) =
      (readEntries key? (.flag false) rest).map fun r => (es ++ r.1, r.2) := by
  induction es with
  | nil => simp
  | cons e es ih =>
    rw [List.map_cons, List.flatMap_cons, List.append_assoc, readEntries_group h, ih,
      Option.map_map]
    rfl

/-! ## Reading rules -/

/-- The words of a rule after the name of its chain. -/
def ruleTokens (conditions : List Flag) (action : String) (options : List Flag)
    (declared : List String) : List String :=
  conditionTokens conditions ++ actionTokens action options declared

/-- What the words of a rule say. -/
structure Saying where
  conditions : List Entry
  target : String
  options : List Entry
  deriving DecidableEq, Repr

/-- Reads the words of a rule: conditions, the jump flag with its target, and options. -/
def readRule (ts : List String) : Option Saying := do
  let (conditions, rest) ← readEntries conditionKey? (.flag false) ts
  match rest with
  | _ :: target :: rest =>
    let (options, rest) ← readEntries optionKey? (.flag false) rest
    if rest.isEmpty then return ⟨conditions, target, options⟩ else none
  | _ => none

variable {m m₁ m₂ o o₁ o₂ : List Flag}

theorem ruleTokens_eq (hm : AllTextual m) (ho : AllTextual o) (a : String)
    (declared : List String) :
    ruleTokens m a o declared =
      ((entries m).map (Entry.group conditionFlag)).flatMap Group.tokens ++
        "-j" :: Text.upper a ::
          ((entries o).map (Entry.group optionFlag)).flatMap Group.tokens := by
  rw [ruleTokens, actionTokens, targetWord_eq, ← flatMap_tokens_conditionGroups,
    ← flatMap_tokens_optionGroups, conditionGroups_eq hm, optionGroups_eq ho]

/-- The words of a rule read back to what it states. -/
theorem readRule_ruleTokens (hm : AllTextual m) (ho : AllTextual o) (a : String)
    (declared : List String) :
    readRule (ruleTokens m a o declared) = some ⟨entries m, Text.upper a, entries o⟩ := by
  have hjump : ∀ ts, readEntries conditionKey? (.flag false) ("-j" :: ts) =
      some ([], "-j" :: ts) := by
    intro ts
    rw [readEntries, if_pos rfl]
  have hend : readEntries optionKey? (.flag false) [] = some ([], []) := rfl
  have hoptions := readEntries_groups readsFlags_option (entries o) []
  rw [List.append_nil, hend] at hoptions
  rw [ruleTokens_eq hm ho, readRule, readEntries_groups readsFlags_condition, hjump]
  simp [hoptions]

/-- **Rules and their words.** Where all values are texts, the words of a rule read back to its
entries and its target, and two rules have the same words exactly when these are the same. -/
theorem ruleTokens_eq_iff (hm₁ : AllTextual m₁) (hm₂ : AllTextual m₂) (ho₁ : AllTextual o₁)
    (ho₂ : AllTextual o₂) (a₁ a₂ : String) (declared₁ declared₂ : List String) :
    readRule (ruleTokens m₁ a₁ o₁ declared₁) = some ⟨entries m₁, Text.upper a₁, entries o₁⟩ ∧
    (ruleTokens m₁ a₁ o₁ declared₁ = ruleTokens m₂ a₂ o₂ declared₂ ↔
      entries m₁ = entries m₂ ∧ Text.upper a₁ = Text.upper a₂ ∧ entries o₁ = entries o₂) := by
  refine ⟨readRule_ruleTokens hm₁ ho₁ a₁ declared₁, ?_, ?_⟩
  · intro h
    have hread := readRule_ruleTokens hm₁ ho₁ a₁ declared₁
    rw [h, readRule_ruleTokens hm₂ ho₂, Option.some.injEq, Saying.mk.injEq] at hread
    exact ⟨hread.1.symm, hread.2.1.symm, hread.2.2.symm⟩
  · rintro ⟨hm, ha, ho⟩
    rw [ruleTokens_eq hm₁ ho₁, ruleTokens_eq hm₂ ho₂, hm, ha, ho]

/-- Conditions with texts that look like a jump, a mark of negation, a flag and a quoted word. -/
def disguisedConditions : List Flag :=
  [⟨"src", .tuple [.str "! -j", .list [.str "!", .str "--dport"]]⟩,
    ⟨"comment", .str "\"-j\" \\"⟩]

/-- The same texts, listed in other ways. -/
def regroupedConditions : List Flag :=
  [⟨"src", .list [.str "! -j"]⟩, ⟨"src", .tuple [.str "!", .str "--dport"]⟩,
    ⟨"limit", .tuple []⟩, ⟨"comment", .str "\"-j\" \\"⟩]

def strippedOptions : List Flag := [⟨"log-prefix", .str "!  web "⟩]

theorem ruleTokens_disguised :
    AllTextual disguisedConditions ∧ AllTextual regroupedConditions ∧
      AllTextual strippedOptions ∧
    readRule (ruleTokens disguisedConditions "web" strippedOptions ["web"]) =
      some ⟨entries disguisedConditions, Text.upper "web", entries strippedOptions⟩ ∧
    ruleTokens disguisedConditions "web" strippedOptions ["web"] =
      ruleTokens regroupedConditions "WEB" strippedOptions [] := by
  have hm₁ : AllTextual disguisedConditions := by decide +kernel
  have hm₂ : AllTextual regroupedConditions := by decide +kernel
  have ho : AllTextual strippedOptions := by decide +kernel
  have h := ruleTokens_eq_iff hm₁ hm₂ ho ho "web" "WEB" ["web"] []
  exact ⟨hm₁, hm₂, ho, h.1, h.2.2 (by decide +kernel)⟩

end Ruleset

end Firewall
