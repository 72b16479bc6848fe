import Firewall.Console.Picture
import Firewall.Proofs.Text.Fork

/-!
# Texts with names of pictures

`picturesFor_cases`: a text stays as it is unless it holds the name of a picture, and then it forks
at the colon in front of the first such name. For a picture never begins with a colon, nor with a
tab or another control (`beginsPlainly_picturesFrom`).

Names are taken from the left: a colon belongs to the name that it ends, known or not, and begins no
other (`HoldsPicture`).
-/

namespace Firewall.Console

open Text (ForksAt)

/-! ## First characters of pictures -/

def firstByte? (s : String) : Option UInt8 := s.toByteArray.data.toList.head?

/-- Whether a text begins with a character that is no colon and no control of ASCII. The bytes of
the text tell that without its characters being read. -/
def beginsPlainly (s : String) : Bool := (firstByte? s).any fun b => 31 < b.toNat && b.toNat != 58

theorem firstByte?_ofList (cs : List Char) :
    firstByte? (String.ofList cs) = (cs.flatMap String.utf8EncodeChar).head? := by
  rw [firstByte?, String.toByteArray_ofList, List.utf8Encode, List.data_toByteArray]

theorem utf8EncodeChar_of_le {c : Char} (h : c.toNat ≤ 127) :
    String.utf8EncodeChar c = [UInt8.ofNat c.toNat] := if_pos h

theorem exists_of_beginsPlainly {s : String} (h : beginsPlainly s = true) :
    ∃ c rest, s.toList = c :: rest ∧ 31 < c.toNat ∧ c ≠ ':' := by
  rw [beginsPlainly, ← String.ofList_toList (s := s), firstByte?_ofList] at h
  cases hs : s.toList with
  | nil =>
    rw [hs] at h
    cases h
  | cons c rest =>
    refine ⟨c, rest, rfl, ?_⟩
    rw [hs, List.flatMap_cons] at h
    by_contra hc
    -- then the character is its only byte
    have hsmall : c.toNat ≤ 31 ∨ c.toNat = 58 := by
      by_cases hle : c.toNat ≤ 31
      · exact .inl hle
      · refine .inr ?_
        by_contra hne
        exact hc ⟨by omega, fun heq => hne (by rw [heq]; rfl)⟩
    have hle : c.toNat ≤ 127 := by omega
    have hbyte : (UInt8.ofNat c.toNat).toNat = c.toNat :=
      UInt8.toNat_ofNat_of_lt' (Nat.lt_of_le_of_lt hle (by decide))
    rw [utf8EncodeChar_of_le hle, List.singleton_append, List.head?_cons, Option.any_some,
      hbyte] at h
    simp only [Bool.and_eq_true, decide_eq_true_eq, bne_iff_ne] at h
    omega

theorem beginsPlainly_picturesFrom (c : Char) :
    ((picturesFrom c).all fun e => beginsPlainly e.2) = true := by
  unfold picturesFrom
  split <;> decide +kernel

theorem beginsPlainly_of_picture? {name : List Char} {p : String} (h : picture? name = some p) :
    beginsPlainly p = true := by
  obtain ⟨c, -, hp⟩ := Option.bind_eq_some_iff.1 h
  obtain ⟨l, r, he, -⟩ := List.lookup_eq_some_iff.1 hp
  have hall := List.all_eq_true.1 (beginsPlainly_picturesFrom c)
  exact hall (Text.lower (String.ofList name), p) (by simp [he])

/-! ## Names between colons -/

theorem nameHere?_eq_some {rest name : List Char} (h : nameHere? rest = some name) :
    ∃ tail, rest = name ++ ':' :: tail := by
  simp only [nameHere?, Option.ite_none_right_eq_some, Option.some.injEq] at h
  obtain ⟨hcolon, rfl⟩ := h
  generalize (fun c : Char => c != ':' && !Text.isBlank c) = p at hcolon ⊢
  have hsplit := List.takeWhile_append_dropWhile (p := p) (l := rest)
  generalize rest.takeWhile p = name at hcolon hsplit ⊢
  rw [← hsplit, List.getElem?_append_right (Nat.le_refl _), Nat.sub_self] at hcolon
  cases hdrop : rest.dropWhile p with
  | nil =>
    rw [hdrop] at hcolon
    cases hcolon
  | cons c tail =>
    rw [hdrop] at hcolon hsplit
    obtain rfl := Option.some.inj hcolon
    exact ⟨tail, hsplit.symm⟩

theorem shownName_of_some {name : List Char} {p : String}
    (h : picture? (splitForm name).1 = some p) :
    shownName name = p.toList ++ (splitForm name).2 := by
  rw [shownName]
  simp only [h]

theorem shownName_of_none {name : List Char} (h : picture? (splitForm name).1 = none) :
    shownName name = ':' :: (name ++ [':']) := by
  rw [shownName]
  simp only [h]
  rfl

theorem picturesFor_eq_drop (n : Nat) (cs : List Char) :
    picturesFor n cs = picturesFor 0 (cs.drop n) := by
  induction cs generalizing n with
  | nil => simp [picturesFor]
  | cons c rest ih =>
    cases n with
    | zero => rfl
    | succ n => rw [picturesFor, ih, List.drop_succ_cons]

theorem drop_name (name tail : List Char) :
    (name ++ ':' :: tail).drop (name.length + 1) = tail := by
  rw [List.append_cons, List.drop_left' (by simp)]

theorem picturesFor_name {name tail : List Char} (h : nameHere? (name ++ ':' :: tail) = some name) :
    picturesFor 0 (':' :: (name ++ ':' :: tail)) = shownName name ++ picturesFor 0 tail := by
  rw [picturesFor, if_pos rfl, h]
  dsimp only
  rw [picturesFor_eq_drop, drop_name]

theorem picturesFor_char {c : Char} {rest : List Char} (h : c = ':' → nameHere? rest = none) :
    picturesFor 0 (c :: rest) = c :: picturesFor 0 rest := by
  have hnone : (if c = ':' then nameHere? rest else none) = none := by
    split
    · exact h ‹_›
    · rfl
  rw [picturesFor, hnone]

/-- Texts from the front: a text is empty, begins with a name between colons, or begins with another
character. -/
@[elab_as_elim]
theorem name_induction {motive : List Char → Prop} (nil : motive [])
    (name : ∀ name tail, nameHere? (name ++ ':' :: tail) = some name → motive tail →
      motive (':' :: (name ++ ':' :: tail)))
    (char : ∀ c rest, (c = ':' → nameHere? rest = none) → motive rest → motive (c :: rest))
    (cs : List Char) : motive cs := by
  induction hn : cs.length using Nat.strongRecOn generalizing cs with
  | ind n ih =>
    cases cs with
    | nil => exact nil
    | cons c rest =>
      have hrest : rest.length < n := by
        rw [← hn, List.length_cons]
        omega
      by_cases hname : c = ':' → nameHere? rest = none
      · exact char c rest hname (ih rest.length hrest rest rfl)
      · obtain ⟨rfl, hsome⟩ := Classical.not_imp.1 hname
        obtain ⟨found, hfound⟩ := Option.ne_none_iff_exists'.1 hsome
        obtain ⟨tail, rfl⟩ := nameHere?_eq_some hfound
        have htail : tail.length < n := by
          rw [List.length_append, List.length_cons] at hrest
          omega
        exact name found tail hfound (ih tail.length htail tail rfl)

/-- The name of a picture stands between two colons. A colon that ends a name begins no other. -/
inductive HoldsPicture : List Char → Prop
  | here {rest name : List Char} {p : String} (hname : nameHere? rest = some name)
      (hp : picture? (splitForm name).1 = some p) : HoldsPicture (':' :: rest)
  | later {rest name : List Char} (hname : nameHere? rest = some name)
      (h : HoldsPicture (rest.drop (name.length + 1))) : HoldsPicture (':' :: rest)
  | char {c : Char} {rest : List Char} (hc : c = ':' → nameHere? rest = none)
      (h : HoldsPicture rest) : HoldsPicture (c :: rest)

theorem HoldsPicture.colon_mem {cs : List Char} (h : HoldsPicture cs) : ':' ∈ cs := by
  induction h with
  | here => exact List.mem_cons_self
  | later => exact List.mem_cons_self
  | char _ _ ih => exact List.mem_cons_of_mem _ ih

theorem holdsPicture_name_iff {name tail : List Char}
    (h : nameHere? (name ++ ':' :: tail) = some name) :
    HoldsPicture (':' :: (name ++ ':' :: tail)) ↔
      (∃ p, picture? (splitForm name).1 = some p) ∨ HoldsPicture tail := by
  constructor
  · intro hholds
    cases hholds with
    | here hname hp =>
      cases h.symm.trans hname
      exact .inl ⟨_, hp⟩
    | later hname hlater =>
      cases h.symm.trans hname
      rw [drop_name] at hlater
      exact .inr hlater
    | char hc _ =>
      rw [hc rfl] at h
      cases h
  · rintro (⟨p, hp⟩ | htail)
    · exact .here h hp
    · exact .later h (by rwa [drop_name])

theorem holdsPicture_char_iff {c : Char} {rest : List Char} (h : c = ':' → nameHere? rest = none) :
    HoldsPicture (c :: rest) ↔ HoldsPicture rest := by
  constructor
  · intro hholds
    cases hholds with
    | here hname _ => cases (h rfl).symm.trans hname
    | later hname _ => cases (h rfl).symm.trans hname
    | char _ hrest => exact hrest
  · exact .char h

/-- What comes of a text: it is shown as it is, or it is changed where the name of a picture
begins. -/
theorem picturesFor_cases (cs : List Char) :
    (picturesFor 0 cs = cs ∧ ¬ HoldsPicture cs) ∨
      HoldsPicture cs ∧ ∃ y, y ≠ ':' ∧ 31 < y.toNat ∧ ForksAt ':' y cs (picturesFor 0 cs) := by
  induction cs using name_induction with
  | nil => exact .inl ⟨rfl, nofun⟩
  | name name tail hname ih =>
    rw [picturesFor_name hname, holdsPicture_name_iff hname]
    cases hp : picture? (splitForm name).1 with
    | some p =>
      obtain ⟨y, more, hy, hgt, hne⟩ := exists_of_beginsPlainly (beginsPlainly_of_picture? hp)
      rw [shownName_of_some hp, hy]
      exact .inr ⟨.inl ⟨p, rfl⟩, y, hne, hgt, [], _, _, rfl, rfl⟩
    | none =>
      have happ : ∀ more, ':' :: (name ++ ':' :: more) = shownName name ++ more := by
        simp [shownName_of_none hp]
      rw [happ]
      obtain ⟨hkept, hnot⟩ | ⟨hholds, y, hne, hgt, hforks⟩ := ih
      · rw [hkept]
        refine .inl ⟨rfl, ?_⟩
        rintro (⟨p, hp'⟩ | htail)
        · cases hp'
        · exact hnot htail
      · exact .inr ⟨.inr hholds, y, hne, hgt, hforks.append_left _⟩
  | char c rest hc ih =>
    rw [picturesFor_char hc, holdsPicture_char_iff hc]
    obtain ⟨hkept, hnot⟩ | ⟨hholds, y, hne, hgt, hforks⟩ := ih
    · rw [hkept]
      exact .inl ⟨rfl, hnot⟩
    · exact .inr ⟨hholds, y, hne, hgt, hforks.cons c⟩

theorem picturesFor_eq_self_iff {cs : List Char} : picturesFor 0 cs = cs ↔ ¬ HoldsPicture cs := by
  obtain ⟨hkept, hnot⟩ | ⟨hholds, y, hne, -, hforks⟩ := picturesFor_cases cs
  · exact iff_of_true hkept hnot
  · refine iff_of_false (fun heq => ?_) (not_not_intro hholds)
    exact hforks.ne_append hne.symm [] (by rw [heq, List.append_nil])

end Firewall.Console
