import Firewall.Files

/-!
# Writing files

`put` puts a file at a place. A path that leads to a place where a file may be written leads to the
file that is put there (`bytesAt_put`), and every other place stays as it is (`lookup_put_of_ne`).
-/

namespace Firewall

/-- The place that a file has or may have. -/
def Place.place? : Place → Option (List String)
  | .file place _ => some place
  | .folder => none
  | .free place => some place

namespace Files

def put (fs : Files) (place : List String) (content : List UInt8) : Files :=
  { fs with files := (place, content) :: fs.files }

variable {fs : Files} {place here : List String} {content : List UInt8}

theorem lookup_put_self : (fs.put place content).files.lookup place = some content :=
  List.lookup_cons_self

theorem lookup_put_of_ne (h : here ≠ place) :
    (fs.put place content).files.lookup here = fs.files.lookup here := by
  rw [put, List.lookup_cons, beq_false_of_ne h]

/-! ## Places -/

theorem place?_found (h : (fs.found here).place? = some place) : here = place := by
  unfold found at h
  split at h
  · exact Option.some.inj h
  · split at h
    · cases h
    · exact Option.some.inj h

theorem found_eq_folder_iff :
    fs.found here = .folder ↔ fs.files.lookup here = none ∧ fs.hasFolder here = true := by
  unfold found
  cases fs.files.lookup here with
  | some content => simp
  | none => simp

theorem found_put_self : (fs.put place content).found place = .file place content := by
  rw [found, lookup_put_self]

/-- A folder stays a folder when a file is put elsewhere. -/
theorem found_put_of_folder (hne : here ≠ place) (h : fs.found here = .folder) :
    (fs.put place content).found here = .folder := by
  rw [found_eq_folder_iff] at h ⊢
  refine ⟨(lookup_put_of_ne hne).trans h.1, ?_⟩
  have hfolder := h.2
  simp only [hasFolder, put, List.any_cons, Bool.or_eq_true] at hfolder ⊢
  exact hfolder.imp_right .inr

/-! ## Paths -/

variable {names : List String} {p : Place}

/-- A path that leads to a place tells what is there. -/
theorem found_of_follow (h : fs.follow here names = .ok p) (hp : p.place? = some place) :
    fs.found place = p := by
  induction names generalizing here with
  | nil =>
    cases h
    rw [← place?_found hp]
  | cons name rest ih =>
    rw [follow] at h
    split at h
    · cases h
    · cases h
    · split at h
      · cases h
      · exact ih h

/-- A path that leads to a place leads to the file that is put there: it goes through folders
only, and they stay folders. -/
theorem follow_put (h : fs.follow here names = .ok p) (hp : p.place? = some place) :
    (fs.put place content).follow here names = .ok (.file place content) := by
  have hplace : fs.found place = p := found_of_follow h hp
  induction names generalizing here with
  | nil =>
    cases h
    rw [place?_found hp, follow, found_put_self]
  | cons name rest ih =>
    rw [follow] at h ⊢
    cases hhere : fs.found here with
    | file q old =>
      rw [hhere] at h
      cases h
    | free q =>
      rw [hhere] at h
      cases h
    | folder =>
      have hne : here ≠ place := by
        rintro rfl
        rw [← hplace, hhere] at hp
        cases hp
      rw [hhere] at h
      rw [found_put_of_folder hne hhere]
      dsimp only at h ⊢
      split at h
      · cases h
      · next hname =>
        rw [if_neg hname]
        exact ih h

theorem find_eq_ok_iff {path : String} :
    fs.find path = .ok p ↔
      (¬ path.toList.contains '\x00' ∧ ¬ path.isEmpty ∧ ¬ longestPath < path.utf8ByteSize) ∧
        fs.follow (if path.startsWith "/" then [] else fs.home) (namesIn path) = .ok p := by
  unfold find
  split
  · next h => exact iff_of_false nofun fun hp => hp.1.1 h
  · next hnull =>
    split
    · next h => exact iff_of_false nofun fun hp => hp.1.2.1 h
    · next hempty =>
      split
      · next h => exact iff_of_false nofun fun hp => hp.1.2.2 h
      · next hlong => exact (and_iff_right ⟨hnull, hempty, hlong⟩).symm

theorem find_put {path : String} (h : fs.find path = .ok p) (hp : p.place? = some place) :
    (fs.put place content).find path = .ok (.file place content) := by
  rw [find_eq_ok_iff] at h ⊢
  exact ⟨h.1, follow_put h.2 hp⟩

theorem writable_eq_ok_iff {path : String} :
    fs.writable path = .ok place ↔
      ∃ p, fs.find (tidyPath path) = .ok p ∧ p.place? = some place := by
  unfold writable
  cases fs.find (tidyPath path) with
  | error f => simp
  | ok p => cases p <;> simp [Place.place?]

theorem bytesAt_put {path : String} (h : fs.writable path = .ok place) :
    (fs.put place content).bytesAt path = .ok content := by
  obtain ⟨p, hfind, hp⟩ := writable_eq_ok_iff.1 h
  rw [bytesAt, find_put hfind hp]

theorem bytesAt_of_lookup {path : String} (h : fs.writable path = .ok place)
    (hlookup : fs.files.lookup place = some content) : fs.bytesAt path = .ok content := by
  obtain ⟨p, hfind, hp⟩ := writable_eq_ok_iff.1 h
  have hfound : fs.found place = p := found_of_follow (find_eq_ok_iff.1 hfind).2 hp
  rw [found, hlookup] at hfound
  rw [bytesAt, hfind, ← hfound]

end Files

end Firewall
