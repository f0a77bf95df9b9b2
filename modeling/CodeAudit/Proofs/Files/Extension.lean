import CodeAudit.Files.Path
import CodeAudit.Migration.Framework
import CodeAudit.Proofs.Files.Path
import CodeAudit.Proofs.Text.Lowering
import Mathlib.Data.List.TakeWhile

/-!
# Two readings of an extension

Discovery takes the extension off a name and then lowers its letters; a name that only begins with a
dot has none.  The detectors lower the name first, and take what follows its last dot, wherever it
stands.  The two readings agree on the extensions that are plain ASCII, but for such a name.

**Results.**
* `extensionOf?_lowerCase_iff`: an extension may be lowered before or after it is taken off.
* `extensionOf?_eq_some_iff`: the first reading in terms of the second one.
-/

namespace CodeAudit

section Readings

variable {name : String} {front extension : List Char}

theorem extensionOf?_of_no_dot
    (hdot : '.' ∉ name.toList) :
    Path.extensionOf? name = none := by
  have hall : ∀ c ∈ name.toList.reverse, (c != '.') = true := by
    intro c hc
    rw [bne_iff_ne]
    rintro rfl
    exact hdot (List.mem_reverse.mp hc)
  have hdrop : name.toList.reverse.dropWhile (fun c => c != '.') = [] :=
    List.dropWhile_eq_nil_iff.mpr hall
  simp only [Path.extensionOf?, hdrop]

theorem extensionOf?_of_last_dot
    (hname : name.toList = front ++ '.' :: extension)
    (hdot : '.' ∉ extension) :
    Path.extensionOf? name =
      if front = [] then none else some (String.ofList extension) := by
  have hreverse : name.toList.reverse = extension.reverse ++ '.' :: front.reverse := by
    rw [hname]
    simp
  have hall : ∀ c ∈ extension.reverse, (c != '.') = true := by
    intro c hc
    rw [bne_iff_ne]
    rintro rfl
    exact hdot (List.mem_reverse.mp hc)
  have hdrop : name.toList.reverse.dropWhile (fun c => c != '.') = '.' :: front.reverse := by
    rw [hreverse, List.dropWhile_append_of_pos hall]
    rfl
  have htake : name.toList.reverse.takeWhile (fun c => c != '.') = extension.reverse := by
    rw [hreverse, List.takeWhile_append_of_pos hall]
    simp
  simp only [Path.extensionOf?, hdrop, htake, List.reverse_reverse]
  by_cases hfront : front = []
  · rw [hfront]
    rfl
  · rw [if_neg hfront]
    split
    · next hnil =>
        exact absurd hnil (by simp)
    · next hsingle =>
        exact absurd hsingle (by simp [hfront])
    · rfl

theorem markerExtension_of_no_dot
    (hdot : '.' ∉ name.toList) :
    Detection.markerExtension name = "" := by
  rw [Detection.markerExtension, Text.splitAt_eq_splitOn, List.splitOn_eq_singleton hdot]
  rfl

theorem markerExtension_of_last_dot
    (hname : name.toList = front ++ '.' :: extension)
    (hdot : '.' ∉ extension) :
    Detection.markerExtension name = String.ofList extension := by
  obtain ⟨piece, pieces, hpieces⟩ :=
    List.exists_cons_of_ne_nil (List.reverse_ne_nil_iff.mpr (List.splitOn_ne_nil '.' front))
  rw [Detection.markerExtension, Text.splitAt_eq_splitOn, hname, List.splitOn_append_cons_self,
    List.splitOn_eq_singleton hdot, List.reverse_append, hpieces]
  rfl

/-- What follows the last dot is an extension, unless the dot is in front of the whole name. -/
theorem extensionOf?_eq_some_iff
    {expected : String}
    (hexpected : expected ≠ "") :
    Path.extensionOf? name = some expected ↔
      Detection.markerExtension name = expected ∧ name ≠ "." ++ expected := by
  rcases Text.absent_or_last '.' name.toList with hdot | ⟨front, extension, hname, hdot⟩
  · rw [extensionOf?_of_no_dot hdot, markerExtension_of_no_dot hdot]
    simp [hexpected.symm]
  · rw [extensionOf?_of_last_dot hname hdot, markerExtension_of_last_dot hname hdot]
    by_cases hfront : front = []
    · have hwhole : name = "." ++ String.ofList extension := by
        rw [← String.toList_inj, hname, hfront]
        simp
      rw [if_pos hfront, hwhole]
      constructor
      · intro h
        simp at h
      · rintro ⟨rfl, hne⟩
        exact absurd rfl hne
    · rw [if_neg hfront, Option.some_inj]
      constructor
      · rintro rfl
        refine ⟨rfl, ?_⟩
        intro hwhole
        rw [← String.toList_inj, hname] at hwhole
        apply hfront
        simpa using congrArg List.length hwhole
      · rintro ⟨rfl, -⟩
        rfl

end Readings

section Lowering

variable {name : String}

theorem lowerCase_of_no_dot
    (hdot : '.' ∉ name.toList) :
    '.' ∉ (Text.lowerCase name).toList := by
  rw [Text.lowerCase, String.toList_ofList]
  exact Text.dot_not_mem_lowerAfter hdot []

/-- The last dot of a name and of its lower-case form stand at the same place. -/
theorem lowerCase_of_last_dot
    {front extension : List Char}
    (hname : name.toList = front ++ '.' :: extension) :
    ∃ lowered,
      (Text.lowerCase name).toList =
          lowered ++ '.' :: Text.lowerAfter ('.' :: front.reverse) extension ∧
        (lowered = [] ↔ front = []) := by
  obtain ⟨lowered, hlowered, hnil⟩ := Text.lowerAfter_append [] front ('.' :: extension)
  refine ⟨lowered, ?_, hnil⟩
  rw [Text.lowerCase, String.toList_ofList, hname, hlowered, Text.lowerAfter_cons,
    Text.lowerBetween_dot, List.append_nil]
  rfl

/-- An extension in ASCII may be lowered before or after it is taken off. -/
theorem extensionOf?_lowerCase_iff
    {expected : String}
    (hascii : ∀ c ∈ expected.toList, c.toNat < 128) :
    (Path.extensionOf? name).map Text.lowerCase = some expected ↔
      Path.extensionOf? (Text.lowerCase name) = some expected := by
  rcases Text.absent_or_last '.' name.toList with hdot | ⟨front, extension, hname, hdot⟩
  · rw [extensionOf?_of_no_dot hdot, extensionOf?_of_no_dot (lowerCase_of_no_dot hdot)]
    simp
  · obtain ⟨lowered, hlowered, hnil⟩ := lowerCase_of_last_dot hname
    have hdot' := Text.dot_not_mem_lowerAfter hdot ('.' :: front.reverse)
    rw [extensionOf?_of_last_dot hname hdot, extensionOf?_of_last_dot hlowered hdot']
    by_cases hfront : front = []
    · rw [if_pos hfront, if_pos (hnil.mpr hfront)]
      simp
    · rw [if_neg hfront, if_neg (fun h => hfront (hnil.mp h)), Option.map_some,
        Option.some_inj, Option.some_inj, Text.lowerCase, ← String.toList_inj, ← String.toList_inj]
      simp only [String.toList_ofList]
      exact Text.lowerAfter_eq_iff_of_ascii hascii [] ('.' :: front.reverse) extension

end Lowering

end CodeAudit
