import CodeAudit.Proofs.Files.Path
import CodeAudit.Report.RunId
import Mathlib.Algebra.GroupWithZero.Nat

/-!
# Reading the identifier of a run

The written form has 32 hexadecimal digits in five groups and nothing around them, so it is read as
such groups; without the hyphens these are the digits again, and the digits spell the number that
they were written for.

**Results.**
* `hexNumber?_hexDigits`: the number of hexadecimal digits.
* `ofText?_text`: an identifier is read from its written form.
-/

namespace CodeAudit
namespace RunId

open Json

theorem hexValue?_hexDigit :
    ∀ d < 16, hexValue? (hexDigit d) = some d := by
  decide

/-- A hexadecimal digit is neither a hyphen, nor a brace, nor the beginning of the scheme. -/
theorem hexDigit_plain :
    ∀ d < 16, hexDigit d ≠ '-' ∧ hexDigit d ≠ '\x7b' ∧ (hexDigit d).toLower ≠ 'u' := by
  decide

theorem length_hexDigits
    (count number : Nat) :
    (hexDigits count number).length = count := by
  induction count generalizing number with
  | zero =>
      rfl
  | succ count ih =>
      rw [hexDigits, List.length_append, ih, List.length_singleton]

theorem exists_of_mem_hexDigits
    {count number : Nat}
    {c : Char}
    (hc : c ∈ hexDigits count number) :
    ∃ d < 16, c = hexDigit d := by
  induction count generalizing number with
  | zero =>
      cases hc
  | succ count ih =>
      rw [hexDigits, List.mem_append, List.mem_singleton] at hc
      rcases hc with hc | rfl
      · exact ih hc
      · exact ⟨number % 16, Nat.mod_lt _ (by decide), rfl⟩

theorem hexNumber?_hexDigits
    {count number : Nat}
    (hlt : number < 16 ^ count) :
    hexNumber? (hexDigits count number) = some number := by
  induction count generalizing number with
  | zero =>
      obtain rfl : number = 0 := by simpa using hlt
      rfl
  | succ count ih =>
      have hfront : number / 16 < 16 ^ count := by
        rw [Nat.pow_succ] at hlt
        omega
      have hrest : hexNumber? (hexDigits count (number / 16)) = some (number / 16) := ih hfront
      rw [hexNumber?] at hrest ⊢
      rw [hexDigits, List.foldlM_append, hrest]
      simp [hexValue?_hexDigit _ (Nat.mod_lt number (show 16 > 0 by decide))]
      omega

theorem ofDigits?_hexDigits
    (id : RunId) :
    ofDigits? (hexDigits 32 id.bits.toNat) = some id := by
  have hlt : id.bits.toNat < 16 ^ 32 := id.bits.isLt
  rw [ofDigits?, if_pos (length_hexDigits 32 _), hexNumber?_hexDigits hlt, Option.map_some,
    BitVec.ofNat_toNat, BitVec.setWidth_eq]

/-- Digits without a hyphen among them are the five groups that they are written in. -/
theorem splitAt_grouped
    {digits : List Char}
    (hyphen : '-' ∉ digits) :
    Text.splitAt '-' (grouped digits) =
      [digits.take 8, (digits.drop 8).take 4, (digits.drop 12).take 4, (digits.drop 16).take 4,
        digits.drop 20] := by
  have htake : ∀ m n, '-' ∉ (digits.drop m).take n := fun m n hmem =>
    hyphen (List.mem_of_mem_drop (List.mem_of_mem_take hmem))
  have hfirst : '-' ∉ digits.take 8 := fun hmem => hyphen (List.mem_of_mem_take hmem)
  have hlast : '-' ∉ digits.drop 20 := fun hmem => hyphen (List.mem_of_mem_drop hmem)
  rw [Text.splitAt_eq_splitOn, grouped]
  simp only [List.append_assoc, List.cons_append, List.splitOn_append_cons_self,
    List.splitOn_eq_singleton hfirst, List.splitOn_eq_singleton (htake _ _),
    List.splitOn_eq_singleton hlast, List.nil_append]

theorem ofGroups?_grouped
    {digits : List Char}
    (hlength : digits.length = 32)
    (hyphen : '-' ∉ digits) :
    ofGroups? (grouped digits) = ofDigits? digits := by
  have hjoin : ∀ m n, (digits.drop m).take n ++ digits.drop (m + n) = digits.drop m := by
    intro m n
    rw [← List.drop_drop, List.take_append_drop]
  have hflatten : [digits.take 8, (digits.drop 8).take 4, (digits.drop 12).take 4,
      (digits.drop 16).take 4, digits.drop 20].flatten = digits := by
    simp only [List.flatten_cons, List.flatten_nil, List.append_nil]
    rw [hjoin 16 4, hjoin 12 4, hjoin 8 4, List.take_append_drop]
  rw [ofGroups?, splitAt_grouped hyphen]
  simp only [hflatten]
  simp [hlength]

theorem length_grouped
    (digits : List Char) :
    (grouped digits).length = digits.length + 4 := by
  simp only [grouped, List.length_append, List.length_cons, List.length_take, List.length_drop]
  omega

/-- An identifier is read from its written form. -/
theorem ofText?_text
    (id : RunId) :
    ofText? id.text = some id := by
  have hlength := length_hexDigits 32 id.bits.toNat
  have hplain : ∀ c ∈ hexDigits 32 id.bits.toNat, ∃ d < 16, c = hexDigit d :=
    fun c hc => exists_of_mem_hexDigits hc
  have hid := ofDigits?_hexDigits id
  rw [text]
  generalize hexDigits 32 id.bits.toNat = digits at *
  have hyphen : '-' ∉ digits := by
    intro hmem
    obtain ⟨d, hd, heq⟩ := hplain _ hmem
    exact (hexDigit_plain d hd).1 heq.symm
  have hwide : ¬ (grouped digits).length = 32 := by
    rw [length_grouped, hlength]
    decide
  obtain ⟨c, rest, rfl⟩ := List.exists_cons_of_length_pos (show 0 < digits.length by omega)
  obtain ⟨d, hd, rfl⟩ := hplain c List.mem_cons_self
  obtain ⟨-, hbrace, hscheme⟩ := hexDigit_plain d hd
  have hgrouped : ∃ more, grouped (hexDigit d :: rest) = hexDigit d :: more := ⟨_, rfl⟩
  obtain ⟨more, hmore⟩ := hgrouped
  have hfirst : (grouped (hexDigit d :: rest)).head? ≠ some '\x7b' := by
    rw [hmore]
    simpa using hbrace
  have hurn : scheme.isPrefixOf ((grouped (hexDigit d :: rest)).map Char.toLower) = false := by
    have hletters : scheme = 'u' :: "rn:uuid:".toList := by decide
    rw [hmore, hletters, List.map_cons, List.isPrefixOf, beq_eq_false_iff_ne.mpr (Ne.symm hscheme),
      Bool.false_and]
  rw [ofText?, String.toList_ofList]
  simp only [hwide, hfirst, hurn]
  simpa using (ofGroups?_grouped hlength hyphen).trans hid

end RunId
end CodeAudit
