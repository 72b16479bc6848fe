import Firewall.Proofs.Policy.Faults
import Firewall.Proofs.Yaml.Grammar
import Firewall.Proofs.Yaml.Lexer
import Firewall.Proofs.Yaml.NodeValue

/-!
# What reading a policy fails with

`Policy.isPolicyError_iff_not_escapes`: reading gives a policy or fails, and a failure is a policy
error unless the text holds a cause for another one: a scalar that its type refuses, wherever it
stands, an escaped code point or a version that is too large, very many collections or nodes inside
each other, or an integer without a text. No failure of the YAML reader but a malformed text becomes
a policy error, so that one impossible date is enough for another
(`not_isPolicyError_impossibleDate`). Nothing is said of a text that means what no value is, which
is one with an escaped surrogate or one with a node inside itself (`Exceeds`).

1. The faults of tokens are few (`Token.ofText_spec`), and the grammar adds none of a scalar
   (`Document.ofTokens_eq_error`).
2. A document fails with what its nodes refuse (`Document.explains_of_value_eq_error`).
3. Building a policy fails with policy errors (`Policy.isFaultOf_of_result_ofValue`).
-/

namespace Firewall

open Yaml

/-- The failure is a policy error: a malformed policy or a malformed rule. -/
def ReadFault.IsPolicyError : ReadFault → Prop
  | .policy f => f.IsMalformed
  | _ => False

/-- The text holds a cause for a failure that is no policy error. -/
inductive Escapes (text : String) : ReadFault → Prop
  | number {f : ScalarFault} (h : TooLarge text.toList f) : Escapes text (.scalar f)
  | node {d : Document} {f : ScalarFault} (hd : Document.ofText text = .ok (some d))
      (hf : d.nodes.Refuses f) : Escapes text (.scalar f)
  | collections (h : Nested (Token.ofText text.toList).1) : Escapes text .tooDeep
  | nodes {d : Document} (hd : Document.ofText text = .ok (some d)) (h : d.nodes.Deep) :
      Escapes text .tooDeep
  | value {v : Value} {f : PolicyFault} (hv : Yaml.read text = .ok v) (htext : v.hasText = false)
      (hf : f.kind? = none) : Escapes text (.policy f)

/-- The text means what no value is. -/
inductive Exceeds (text : String) : Beyond → Prop
  | halfPair (h : HasSurrogate text.toList) : Exceeds text .halfPair
  | knot {d : Document} (hd : Document.ofText text = .ok (some d)) (h : d.nodes.Knotted) :
      Exceeds text .knot

theorem Escapes.not_isPolicyError {text : String} {f : ReadFault} (h : Escapes text f) :
    ¬ f.IsPolicyError := by
  cases h with
  | number => exact id
  | node => exact id
  | collections => exact id
  | nodes => exact id
  | value hv htext hf =>
    rintro (hkind | hkind)
    · rw [hf] at hkind
      cases hkind
    · rw [hf] at hkind
      cases hkind

/-- The text holds a cause for a fault of the YAML reader. -/
inductive Explained (text : String) : Fault → Prop
  | malformed : Explained text .malformed
  | escapes {g : Fault} (h : Escapes text (.ofYaml g)) : Explained text g
  | beyond {b : Beyond} (h : Exceeds text b) : Explained text (.beyond b)

theorem Explained.of_lexical {text : String} {g : Fault} (h : Lexical text.toList g) :
    Explained text g := by
  obtain rfl | ⟨f, rfl, hf⟩ := h
  · exact .malformed
  · exact .escapes (.number hf)

/-- What its nodes explain, the text explains. -/
theorem Explained.of_nodes {text : String} {d : Document} {g : Fault}
    (hd : Document.ofText text = .ok (some d)) (h : d.nodes.Explains g) : Explained text g := by
  obtain rfl | ⟨rfl, hdeep⟩ | ⟨f, rfl, hf⟩ := h
  · exact .malformed
  · exact .escapes (.nodes hd hdeep)
  · exact .escapes (.node hd hf)

theorem explained_of_ofText_eq_error {text : String} {g : Fault}
    (h : Document.ofText text = .error g) : Explained text g := by
  obtain rfl | ⟨rfl, hnested⟩ | rfl := Document.ofTokens_eq_error h
  · exact .malformed
  · exact .escapes (.collections hnested)
  · cases hlast : (Token.ofText text.toList).2 with
    | none => exact .malformed
    | some g => exact .of_lexical ((Token.ofText_spec text.toList).2 g hlast)

/-- The text holds a cause for every fault of the YAML reader. -/
theorem explained_of_read_eq_error {text : String} {g : Fault} (h : Yaml.read text = .error g) :
    Explained text g := by
  obtain h | ⟨d, hd, h | ⟨rfl, htorn⟩⟩ := of_read_eq_error h
  · exact explained_of_ofText_eq_error h
  · obtain h | ⟨rfl, hknotted⟩ := Document.explains_of_value_eq_error h
    · exact .of_nodes hd h
    · exact .beyond (.knot hd hknotted)
  · obtain ⟨t, ht, htorn⟩ := List.any_eq_true.1 htorn
    exact .beyond (.halfPair ((Token.ofText_spec text.toList).1 t ht htorn))

namespace Policy

theorem result_read_of_read_eq_error {text : String} {g : Fault} (h : Yaml.read text = .error g) :
    (Policy.read text).result = .error (.ofYaml g) := by
  rw [Policy.read, h]
  rfl

/-- **Failures of reading.** Reading gives a policy or fails, a failure is a policy error unless the
text holds a cause for another one, and every fault of the YAML reader is passed on. What no value
is, is told apart from all of these. -/
theorem isPolicyError_iff_not_escapes (text : String) :
    ((∃ p, (Policy.read text).result = .ok p) ∨
      (∃ f, (Policy.read text).result = .error f ∧ (f.IsPolicyError ↔ ¬ Escapes text f)) ∨
      ∃ b, (Policy.read text).result = .error (.beyond b) ∧ Exceeds text b) ∧
    ∀ g, Yaml.read text = .error g → (Policy.read text).result = .error (.ofYaml g) := by
  refine ⟨?_, fun g => result_read_of_read_eq_error⟩
  cases hread : Yaml.read text with
  | error g =>
    have hresult := result_read_of_read_eq_error hread
    cases explained_of_read_eq_error hread with
    | malformed =>
      exact .inr (.inl ⟨_, hresult, fun hpolicy hescapes => hescapes.not_isPolicyError hpolicy,
        fun _ => .inl rfl⟩)
    | escapes h =>
      exact .inr (.inl ⟨_, hresult, fun hpolicy _ => h.not_isPolicyError hpolicy,
        fun hnot => absurd h hnot⟩)
    | beyond h => exact .inr (.inr ⟨_, hresult, h⟩)
  | ok v =>
    have hresult : (Policy.read text).result = ((Policy.ofValue v).mapError .policy).result := by
      rw [Policy.read, hread]
      rfl
    rw [hresult]
    cases hvalue : (Policy.ofValue v).result with
    | ok p => exact .inl ⟨p, mapError_eq_ok_iff.2 hvalue⟩
    | error f =>
      refine .inr (.inl ⟨.policy f, mapError_eq_error_iff.2 ⟨f, hvalue, rfl⟩, ?_, ?_⟩)
      · exact fun hpolicy hescapes => hescapes.not_isPolicyError hpolicy
      · intro hnot
        refine (isFaultOf_of_result_ofValue hvalue).resolve_right ?_
        rintro ⟨hkind, htext⟩
        exact hnot (.value hread htext hkind)

/-- A text with a date that does not exist fails with that date. -/
theorem not_isPolicyError_impossibleDate :
    (Policy.read "filter: 2001-13-45").result = .error (.scalar .impossibleDate) ∧
      ¬ (ReadFault.scalar .impossibleDate).IsPolicyError := by
  refine ⟨?_, id⟩
  have hrun : (match Yaml.read "filter: 2001-13-45" with
      | .ok _ => none
      | .error g => some g) = some (.scalar .impossibleDate) := by
    decide +kernel
  cases hread : Yaml.read "filter: 2001-13-45" with
  | ok v =>
    rw [hread] at hrun
    cases hrun
  | error g =>
    rw [hread] at hrun
    rw [result_read_of_read_eq_error hread, Option.some.inj hrun]
    rfl

end Policy

end Firewall
