import Firewall.Proofs.Ruleset.Decoding
import Firewall.Proofs.Value

/-!
# What options are written as

An option has its flag and its text in the line of its rule, as they are, unless its value is a text
after an exclamation mark and a space (`actionTokens_eq_stated_iff`). Such a text is taken for a
negated condition: it loses the mark and its outer blanks, and the mark goes in front of the flag.
No other scalar has a text that begins so.
-/

namespace Firewall

namespace Value

/-- The value is a scalar other than null and the truth values. -/
structure StatesText (v : Value) : Prop where
  scalar : v.isScalar = true
  notNull : v ≠ .null
  notBool : ∀ b, v ≠ .bool b

/-- The value is a text that looks like a negated condition. -/
def LooksNegated (v : Value) : Prop := ∃ rest, v = .str ("! " ++ rest)

end Value

namespace Ruleset

/-- The words that an option states: its flag, and its text. -/
def statedWords (f : Flag) : List String := [optionFlag f.key, word f.value.text]

/-- What an option is written as. -/
inductive OptionWords : Flag → List String → Prop
  | stated {f : Flag} (h : ¬ f.value.LooksNegated) : OptionWords f (statedWords f)
  | negated (key rest : String) :
      OptionWords ⟨key, .str ("! " ++ rest)⟩ ["!", optionFlag key, word (Text.strip rest)]

theorem Group.ofText_of_negated (flag rest : String) :
    ofText flag ("! " ++ rest) = ⟨true, flag, some (Text.strip rest)⟩ := by
  rw [ofText, String.toList_append]
  show Group.mk true flag (some (Text.strip (String.ofList rest.toList))) = _
  rw [String.ofList_toList]

theorem Group.ofText_of_not {flag text : String} (h : ∀ rest, text ≠ "! " ++ rest) :
    ofText flag text = ⟨false, flag, some text⟩ := by
  unfold ofText
  split
  · next rest hchars =>
    refine absurd ?_ (h (String.ofList rest))
    rw [← String.toList_inj, hchars]
    simp
  · rfl

variable {v : Value} {f : Flag} {fs : List Flag}

/-- Only a text can begin like a negated condition. -/
theorem text_ne_of_not_looksNegated (h : v.StatesText) (hv : ¬ v.LooksNegated) (rest : String) :
    v.text ≠ "! " ++ rest := by
  intro htext
  by_cases hs : v.IsStr
  · obtain ⟨s, rfl⟩ := hs
    exact hv ⟨rest, congrArg Value.str htext⟩
  · obtain ⟨k, hk⟩ := Value.exists_kind h.scalar hs
    refine absurd ?_ (Value.head?_text_ne hk)
    rw [htext, String.toList_append]
    rfl

theorem ofValue_of_statesText (h : v.StatesText) (flag : String) :
    Group.ofValue flag v = [Group.ofText flag v.text] := by
  obtain ⟨hscalar, hnull, hbool⟩ := h
  cases v with
  | null => exact absurd rfl hnull
  | bool b => exact absurd rfl (hbool b)
  | list items => cases hscalar
  | tuple items => cases hscalar
  | set items => cases hscalar
  | map entries => cases hscalar
  | _ => rfl

theorem exists_optionWords (h : ∀ f ∈ fs, f.value.StatesText) :
    ∃ groups, List.Forall₂ OptionWords fs groups ∧ optionTokens fs = groups.flatten := by
  induction fs with
  | nil => exact ⟨[], .nil, rfl⟩
  | cons f fs ih =>
    obtain ⟨groups, hgroups, htokens⟩ := ih fun g hg => h g (List.mem_cons_of_mem f hg)
    have hstates := h f List.mem_cons_self
    have hcons : optionTokens (f :: fs) =
        (Group.ofText (optionFlag f.key) f.value.text).tokens ++ groups.flatten := by
      rw [← htokens, optionTokens, List.flatMap_cons, ofValue_of_statesText hstates,
        List.flatMap_singleton]
      rfl
    by_cases hf : f.value.LooksNegated
    · obtain ⟨rest, hrest⟩ := hf
      rcases f with ⟨key, value⟩
      subst hrest
      refine ⟨_, .cons (.negated key rest) hgroups, ?_⟩
      rw [hcons, Value.text_str, Group.ofText_of_negated]
      rfl
    · refine ⟨_, .cons (.stated hf) hgroups, ?_⟩
      rw [hcons, Group.ofText_of_not (text_ne_of_not_looksNegated hstates hf)]
      rfl

/-- The words that options are written as are those that they state exactly when no text looks like
a negated condition: where one does, the mark of negation stands in the place of its flag. -/
theorem flatten_eq_stated_iff {groups : List (List String)}
    (h : List.Forall₂ OptionWords fs groups) :
    groups.flatten = fs.flatMap statedWords ↔ ∀ f ∈ fs, ¬ f.value.LooksNegated := by
  induction h with
  | nil => simp
  | @cons f ws fs groups hf _ ih =>
    rw [List.flatten_cons, List.flatMap_cons, List.forall_mem_cons]
    cases hf with
    | stated hplain =>
      rw [List.append_cancel_left_eq, ih, and_iff_right hplain]
    | negated key rest =>
      refine iff_of_false (fun heq => ?_) fun hall => hall.1 ⟨rest, rfl⟩
      exact ne_negation_of_beginsWithDash (beginsWithDash_optionFlag key) (List.cons.inj heq).1.symm

/-- **Options as they are written.** The words after the target are those of the options in order,
each its flag and its text, but for texts that look like negated conditions; and all are written as
they are stated exactly when there is no such text. -/
theorem actionTokens_eq_stated_iff (h : ∀ f ∈ fs, f.value.StatesText) (action : String)
    (declared : List String) :
    (∃ groups, List.Forall₂ OptionWords fs groups ∧
      actionTokens action fs declared =
        "-j" :: targetWord declared action :: groups.flatten) ∧
    (actionTokens action fs declared =
        "-j" :: targetWord declared action :: fs.flatMap statedWords ↔
      ∀ f ∈ fs, ¬ f.value.LooksNegated) := by
  obtain ⟨groups, hgroups, htokens⟩ := exists_optionWords h
  have haction : actionTokens action fs declared =
      "-j" :: targetWord declared action :: groups.flatten := by
    rw [actionTokens, htokens]
  refine ⟨⟨groups, hgroups, haction⟩, ?_⟩
  rw [haction, List.cons_inj_right, List.cons_inj_right]
  exact flatten_eq_stated_iff hgroups

/-- Options of a target that writes to a log: a text and a number. -/
def loggingOptions : List Flag := [⟨"log-prefix", .str "dropped: "⟩, ⟨"log-level", .int 4⟩]

theorem actionTokens_loggingOptions :
    (∀ f ∈ loggingOptions, f.value.StatesText) ∧
    actionTokens "log" loggingOptions =
      ["-j", "LOG", "--log-prefix", "\"dropped: \"", "--log-level", "4"] := by
  have hstates : ∀ f ∈ loggingOptions, f.value.StatesText := by
    intro f hf
    simp only [loggingOptions, List.mem_cons, List.not_mem_nil, or_false] at hf
    rcases hf with rfl | rfl
    · exact ⟨rfl, nofun, nofun⟩
    · exact ⟨rfl, nofun, nofun⟩
  have hplain : ∀ f ∈ loggingOptions, ¬ f.value.LooksNegated := by
    rintro f hf ⟨rest, hrest⟩
    simp only [loggingOptions, List.mem_cons, List.not_mem_nil, or_false] at hf
    rcases hf with rfl | rfl
    · have hhead := congrArg (fun v => v.text.toList.head?) hrest
      simp at hhead
    · cases hrest
  refine ⟨hstates, ?_⟩
  rw [((actionTokens_eq_stated_iff hstates "log" []).2).2 hplain]
  decide +kernel

/-- A prefix for a log that begins with an exclamation mark and a space. -/
theorem actionTokens_ne_stated_logPrefix :
    (Value.str "! in: ").StatesText ∧
    actionTokens "log" [⟨"log-prefix", .str "! in: "⟩] ≠
      "-j" :: targetWord [] "log" :: [⟨"log-prefix", .str "! in: "⟩].flatMap statedWords :=
  ⟨⟨rfl, nofun, nofun⟩, by decide +kernel⟩

end Ruleset

end Firewall
